import ClusterTopology.Text.Basic
/-!
IP addresses in URLs, as texts spell them.

An IPv4 address comes in any of the old spellings, with parts left out and in three bases; an IPv6 address
may end in one that is spelled with dots.  Both are read to a number, and the number has one text that is
written for it.

A name whose last part is a number has to be an IPv4 address, and is no host otherwise: `endsInNumber` decides
that before anything else is looked at.  The one text of an IPv6 address has no zeros in front of its groups,
and the first of the longest runs of zero groups is left out of it.
-/

/-! ## IPv4 addresses

An address has one to four parts divided by dots, each a decimal, an octal (`0` in front) or a
hexadecimal (`0x` in front) numeral.  The last part fills all the bytes that the others leave. -/

namespace ClusterTopology.Url.Ipv4

/-! ### Parts -/

def numeral? (radix : Nat) (cs : List Char) : Option Nat :=
  let isDigit (c : Char) : Bool :=
    (c.isDigit || ('a' ≤ c && c ≤ 'f') || ('A' ≤ c && c ≤ 'F')) && Text.Ranges.hexValue c < radix
  if cs.all isDigit then
    some (cs.foldl (fun n c => radix * n + Text.Ranges.hexValue c) 0)
  else none

def part? : List Char → Option Nat
  | [] => none
  | '0' :: 'x' :: cs | '0' :: 'X' :: cs => numeral? 16 cs
  | '0' :: c :: cs => numeral? 8 (c :: cs)
  | cs => numeral? 10 cs

/-- The parts of a text; a dot at the end has no part behind it. -/
def parts (cs : List Char) : List (List Char) :=
  let ps := cs.splitOn '.'
  if ps.getLast? = some [] then ps.dropLast else ps

/-- Whether a name ends in a number, so that it can only be an address. -/
def endsInNumber (name : String) : Bool :=
  match (parts name.toList).getLast? with
  | some p => (!p.isEmpty && p.all Char.isDigit) || (part? p).isSome
  | none => false

/-! ### Addresses -/

/-- The address that parts are: all but the last are bytes, and the last fits into what is left. -/
def ofParts? (ns : List Nat) : Option Nat :=
  match ns.getLast? with
  | none => none
  | some last =>
    let bytes := ns.dropLast
    if bytes.length < 4 ∧ bytes.all (· < 256) ∧ last < Nat.pow 256 (4 - bytes.length) then
      some (bytes.foldl (fun n b => 256 * n + b) 0 * Nat.pow 256 (4 - bytes.length) + last)
    else none

def ofName? (name : String) : Option Nat :=
  ((parts name.toList).mapM part?).bind ofParts?

def text (n : Nat) : String :=
  let byte (k : Nat) : String := Text.natText (n / Nat.pow 256 k % 256)
  byte 3 ++ "." ++ byte 2 ++ "." ++ byte 1 ++ "." ++ byte 0

end ClusterTopology.Url.Ipv4

/-! ## IPv6 addresses

An address has eight groups of hexadecimal digits divided by colons.  Two colons in a row stand for a
run of zero groups, once, and the last two groups may be spelled as an IPv4 address. -/

namespace ClusterTopology.Url.Ipv6

/-! ### Reading -/

def isHexDigit (c : Char) : Bool :=
  c.isDigit || ('a' ≤ c && c ≤ 'f') || ('A' ≤ c && c ≤ 'F')

/-- Groups that have been read, and the place in them at which zero groups are to be put in. -/
structure Groups where
  groups : List Nat
  gap : Option Nat

/-- A byte of an IPv4 address: decimal, without a zero in front. -/
def byte? (cs : List Char) : Option Nat :=
  match Text.readDigits? cs with
  | some n => if n < 256 ∧ (cs.length = 1 ∨ cs.head? ≠ some '0') then some n else none
  | none => none

def dotted? (cs : List Char) : Option (List Nat) := do
  match ← (cs.splitOn '.').mapM byte? with
  | [a, b, c, d] => some [256 * a + b, 256 * c + d]
  | _ => none

def read? (cs : List Char) (gs : Groups) : Option Groups :=
  match cs with
  | [] => some gs
  | ':' :: rest =>
    if gs.groups.length = 8 ∨ gs.gap.isSome then none
    else read? rest ⟨gs.groups ++ [0], some (gs.groups.length + 1)⟩
  | c :: rest =>
    if gs.groups.length = 8 then none
    else
      let digits := ((c :: rest).take 4).takeWhile isHexDigit
      let value := Text.Ranges.hexNumber digits
      let left := (c :: rest).drop digits.length
      match left with
      | [] => some { gs with groups := gs.groups ++ [value] }
      | '.' :: _ =>
        if digits = [] ∨ 6 < gs.groups.length then none
        else (dotted? (c :: rest)).map fun ns => { gs with groups := gs.groups ++ ns }
      | ':' :: d :: more =>
        if (d :: more).length < (c :: rest).length then
          read? (d :: more) { gs with groups := gs.groups ++ [value] }
        else none
      | _ => none
termination_by cs.length
decreasing_by
  · simp
  · simp_all only [List.length_cons]

def Groups.complete? (gs : Groups) : Option (List Nat) :=
  match gs.gap with
  | some i =>
    some (gs.groups.take i ++ List.replicate (8 - gs.groups.length) 0 ++ gs.groups.drop i)
  | none => if gs.groups.length = 8 then some gs.groups else none

def ofChars? (cs : List Char) : Option (List Nat) := do
  let gs ← match cs with
    | ':' :: ':' :: rest => read? rest ⟨[0], some 1⟩
    | ':' :: _ | [] | [_] => none
    | cs => read? cs ⟨[], none⟩
  gs.complete?

/-! ### Writing -/

/-- The length of the run of zeros at the start of a list. -/
def zeros (ns : List Nat) : Nat := (ns.takeWhile (· == 0)).length

/-- The place and the length of the first of the longest runs of zeros, `i` being the place of the
first group. -/
def longestZeros (i : Nat) : List Nat → Nat × Nat
  | [] => (i, 0)
  | n :: ns =>
    let here := zeros (n :: ns)
    let later := longestZeros (i + 1) ns
    if later.2 ≤ here then (i, here) else later

def groupsText (ns : List Nat) : String :=
  String.intercalate ":" (ns.map Text.hexText)

/-- The text of an address; the longest run of two or more zero groups is left out. -/
def text (ns : List Nat) : String :=
  let (start, length) := longestZeros 0 ns
  if length < 2 then groupsText ns
  else groupsText (ns.take start) ++ "::" ++ groupsText (ns.drop (start + length))

end ClusterTopology.Url.Ipv6
