import ClusterTopology.Data.Datum
import ClusterTopology.Toml.Scalar
/-!
The datum that a TOML text stands for.

A text is taken line by line, a line being blank, a header, or a key with its value; a value may go over
several lines.  A text that breaks the rules anywhere stands for nothing.

The lines fill a table, and whether a line may still add to it depends on how each table on its way came
about.  The first half of the module is about that, the second about the lines.

A `Node` is a value or a table, and an `Origin` says of a table how it came about: by a header, by the keys
of a line, or on the way to another table.  A `Draft` is the table so far, with the one that the last header
has opened.  Reading a value has a bound on its depth and one on its steps, so that the functions are total;
the first is a limit of the format, and the second follows from the length of the text.
-/

namespace ClusterTopology.Toml

open ClusterTopology.Data

/-! ## Tables

A name stands for one thing.  What may still be added to a table depends on how it came about: a table
with a header of its own is complete when the next header comes, one that was only named on the way to
another may still get a header, one that dotted keys have made may get more keys by dotted keys, and
one between braces gets nothing from outside. -/

/-! ### Names and what they stand for -/

inductive Origin where
  | header
  /-- It was named on the way of a header to another table. -/
  | implied
  /-- It was named on the way of a dotted key. -/
  | dotted
  | braces
deriving DecidableEq, Repr

inductive Node where
  | value (d : Datum)
  | table (origin : Origin) (members : List (String × Node))
  /-- Tables under one name, each with a header of its own. -/
  | tables (ts : List (List (String × Node)))

abbrev Members := List (String × Node)

namespace Members

/-- The members with what a name stands for replaced, or added at the end. -/
def put (k : String) (v : Node) : Members → Members
  | [] => [(k, v)]
  | (k', v') :: ms => if k' = k then (k, v) :: ms else (k', v') :: put k v ms

def erase (ms : Members) (k : String) : Members := List.filter (fun p => p.1 != k) ms

/-- The members of the last of several tables changed. -/
def onLast (f : Members → Option Members) : List Members → Option (List Members)
  | [] => none
  | [ms] => (f ms).map ([·])
  | ms :: mss => (onLast f mss).map (ms :: ·)

/-- A name and its value added; the name must be new. -/
def add (k : String) (v : Node) (ms : Members) : Option Members :=
  match ms.lookup k with
  | some _ => none
  | none => some (put k v ms)

/-- Whether a dotted key on a line, or between braces, may lead through a table. -/
def mayPass (inBraces : Bool) : Origin → Bool
  | .dotted => true
  | .implied => !inBraces
  | .braces => inBraces
  | .header => false

/-- A value added under a dotted key.  The table that gets it has to be one made by dotted keys. -/
def addDotted (inBraces : Bool) (k : String) (v : Node) : List String → Members → Option Members
  | [], ms => ms.add k v
  | p :: ps, ms =>
    match ms.lookup p with
    | none => (addDotted inBraces k v ps []).map fun inner => put p (.table .dotted inner) ms
    | some (.table origin inner) =>
      if mayPass inBraces origin ∧ (ps = [] → origin = .dotted) then
        (addDotted inBraces k v ps inner).map fun inner => put p (.table origin inner) ms
      else none
    | some (.tables ts) =>
      if ps = [] then none
      else (onLast (addDotted inBraces k v ps) ts).map fun ts => put p (.tables ts) ms
    | some (.value _) => none

/-- A change of the table at the end of the path of a header. -/
def change (f : Members → Option Members) : List String → Members → Option Members
  | [], ms => f ms
  | p :: ps, ms =>
    match ms.lookup p with
    | none => (change f ps []).map fun inner => put p (.table .implied inner) ms
    | some (.table .braces _) | some (.value _) => none
    | some (.table origin inner) => (change f ps inner).map fun inner => put p (.table origin inner) ms
    | some (.tables ts) => (onLast (change f ps) ts).map fun ts => put p (.tables ts) ms

end Members

/-! ### Data -/

mutual

def Node.datum : Node → Datum
  | .value d => d
  | .table _ ms => .record (membersData ms) .closed
  | .tables ts => .list (tablesData ts) .closed

def membersData : List (String × Node) → List (Key × Datum)
  | [] => []
  | (k, v) :: ms => (.text k, v.datum) :: membersData ms

def tablesData : List (List (String × Node)) → List Datum
  | [] => []
  | ms :: mss => .record (membersData ms) .closed :: tablesData mss

end

/-! ### What a line adds -/

/-- A text that has been read up to some line: the tables before the last header, the path of that
header (none before the first), whether it is one of several tables of its name, and its members. -/
structure Draft where
  root : Members
  path : Option (List String × String)
  isRepeated : Bool
  current : Members

namespace Draft

def empty : Draft := ⟨[], none, false, []⟩

/-- The tables with the one of the last header put in its place. -/
def close (d : Draft) : Option Members :=
  match d.path with
  | none => some d.current
  | some (path, last) =>
    d.root.change (fun ms =>
      match d.isRepeated, ms.lookup last with
      | true, some (.tables ts) => some (ms.put last (.tables (ts ++ [d.current])))
      | false, none => some (ms.put last (.table .header d.current))
      | _, _ => none) path

def keyValue (d : Draft) (path : List String) (k : String) (v : Node) : Option Draft :=
  (d.current.addDotted false k v path).map fun current => { d with current }

def existing? : List String → String → Members → Option Node
  | [], last, ms => ms.lookup last
  | p :: ps, last, ms =>
    match ms.lookup p with
    | some (.table _ inner) => existing? ps last inner
    | some (.tables ts) => (ts.getLast?).bind (existing? ps last)
    | _ => none

/-- The header of a table.  A table that has so far only been named on the way to others keeps what it
has and goes to the end. -/
def header (d : Draft) (path : List String) (last : String) : Option Draft := do
  let root ← d.close
  let current ← match existing? path last root with
    | none => some []
    | some (.table .implied ms) => some ms
    | _ => none
  let root ← root.change (fun ms => some (ms.erase last)) path
  return ⟨root, some (path, last), false, current⟩

def repeatedHeader (d : Draft) (path : List String) (last : String) : Option Draft := do
  let root ← d.close
  let root ← root.change (fun ms =>
    match ms.lookup last with
    | none => some (ms.put last (.tables []))
    | some (.tables _) => some ms
    | _ => none) path
  return ⟨root, some (path, last), true, []⟩

end Draft

/-! ## Texts -/

/-! ### Values -/

mutual

/-- A value, `depth` values around it.  `fuel` bounds the pieces of the value. -/
def value : Nat → Nat → List Char → Option (Node × List Char)
  | 0, _, _ => none
  | fuel + 1, depth, cs =>
    match cs with
    | '[' :: r =>
      if depth + 1 < depthLimit then
        match skipLines fuel r with
        | some (']' :: r) => some (.value (.list [] .closed), r)
        | some r => (items fuel (depth + 1) r).map fun (ds, r) => (.value (.list ds .closed), r)
        | none => none
      else none
    | '\x7b' :: r =>
      if depth + 1 < depthLimit then
        match skipBlanks r with
        | '\x7d' :: r => some (.table .braces [], r)
        | r => (pairs fuel (depth + 1) [] r).map fun (ms, r) => (.table .braces ms, r)
      else none
    | 't' :: 'r' :: 'u' :: 'e' :: r => some (.value (.bool true), r)
    | 'f' :: 'a' :: 'l' :: 's' :: 'e' :: r => some (.value (.bool false), r)
    | '"' :: _ | '\'' :: _ => (string cs).map fun (s, r) => (.value (.text s), r)
    | cs => (quantity cs).map fun (d, r) => (.value d, r)

/-- One or more items of a list and its bracket, a comma after the last or not. -/
def items : Nat → Nat → List Char → Option (List Datum × List Char)
  | 0, _, _ => none
  | fuel + 1, depth, cs => do
    let (v, r) ← value fuel depth cs
    let r ← skipLines fuel r
    match r with
    | ']' :: r => some ([v.datum], r)
    | ',' :: r =>
      match skipLines fuel r with
      | some (']' :: r) => some ([v.datum], r)
      | some r => (items fuel depth r).map fun (ds, r) => (v.datum :: ds, r)
      | none => none
    | _ => none

/-- One or more keys with their values between braces, and the closing brace, all on one line. -/
def pairs : Nat → Nat → Members → List Char → Option (Members × List Char)
  | 0, _, _, _ => none
  | fuel + 1, depth, ms, cs => do
    let ((path, k), r) ← key cs
    let r ← after? '=' r
    let (v, r) ← value fuel depth (skipBlanks r)
    let ms ← ms.addDotted true k v path
    match skipBlanks r with
    | '\x7d' :: r => some (ms, r)
    | ',' :: r => pairs fuel depth ms r
    | _ => none

end

/-! ### Lines -/

/-- The line at the start of a text, which is not blank: the draft with it, and what follows. -/
def line (d : Draft) (cs : List Char) : Option (Draft × List Char) :=
  match cs with
  | '[' :: '[' :: r => do
    let ((path, k), r) ← key r
    match r with
    | ']' :: ']' :: r => return (← d.repeatedHeader path k, ← lineEnd? r)
    | _ => none
  | '[' :: r => do
    let ((path, k), r) ← key r
    match r with
    | ']' :: r => return (← d.header path k, ← lineEnd? r)
    | _ => none
  | cs => do
    let ((path, k), r) ← key cs
    let r ← after? '=' r
    let (v, r) ← value (2 * r.length + 2) 0 (skipBlanks r)
    let r ← lineEnd? r
    return (← d.keyValue path k v, r)

def lines : Nat → Draft → List Char → Option Draft
  | 0, d, _ => some d
  | fuel + 1, d, cs =>
    match skipBlanks cs with
    | [] => some d
    | '#' :: r => (lineEnd? ('#' :: r)).bind (lines fuel d)
    | r =>
      match newline? r with
      | some r => lines fuel d r
      | none => (line d r).bind fun (d, r) => lines fuel d r

/-- The datum that a text stands for.  A byte order mark at its start does not count. -/
def decodeText (s : String) : Option Datum := do
  let cs := match s.toList with
    | c :: cs => if c = Char.ofNat 0xFEFF then cs else c :: cs
    | [] => []
  let d ← lines (cs.length + 1) .empty cs
  let members ← d.close
  return (Node.table .header members).datum

end ClusterTopology.Toml
