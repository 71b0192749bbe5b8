import ClusterTopology.Data.Datum
import ClusterTopology.Decimal
import ClusterTopology.Text.Basic
/-!
The pieces of a TOML text that have no parts of their own: blanks and comments, strings, keys, numbers
and times.

Each reader takes a piece off the front of a text and gives it with what follows, or nothing when the
text does not go on with such a piece.

Strings come in four kinds: with escapes or literal, in one line or in several.  A string of several lines is
read by a machine with three states, because a backslash at the end of a line takes away what follows it up to
the next character.  A key has parts divided by dots, each bare or a string, and `depthLimit` bounds their
number so that no text makes the reading too deep.

An integer has to fit into a signed word of 64 bits.  A real number is rounded once, from its exact decimal
value, and only its text is kept, since nothing here is ever configured by a real number.  Dates and times are
checked by the calendar and then kept as they stand.
-/

namespace ClusterTopology.Toml

open ClusterTopology.Data

/-- A reader of a piece at the start of a text. -/
abbrev Scan (α : Type) := List Char → Option (α × List Char)

/-! ### Blanks and comments -/

def isBlank (c : Char) : Bool := c == ' ' || c == '\t'

def skipBlanks (cs : List Char) : List Char := cs.dropWhile isBlank

/-- Characters that a comment may have: no controls but the tab. -/
def isPlain (c : Char) : Bool := c == '\t' || (0x20 ≤ c.toNat && c != '\x7f')

def newline? : List Char → Option (List Char)
  | '\n' :: cs => some cs
  | '\r' :: '\n' :: cs => some cs
  | _ => none

def skipComment : List Char → List Char
  | '#' :: cs => cs.dropWhile isPlain
  | cs => cs

/-- What follows the rest of a line that has only blanks and a comment left. -/
def lineEnd? (cs : List Char) : Option (List Char) :=
  match skipComment (skipBlanks cs) with
  | [] => some []
  | cs => newline? cs

/-- What follows blanks, comments and ends of lines, at most `fuel` lines. -/
def skipLines : Nat → List Char → Option (List Char)
  | 0, cs => some cs
  | fuel + 1, cs =>
    match skipBlanks cs with
    | '#' :: cs => (newline? (skipComment ('#' :: cs))).bind (skipLines fuel)
    | cs =>
      match newline? cs with
      | some cs => skipLines fuel cs
      | none => some cs

/-! ### Strings -/

/-- The character of a code point given in hexadecimal. -/
def codePoint? (digits : List Char) : Option Char :=
  let isHex (c : Char) : Bool := c.isDigit || ('a' ≤ c && c ≤ 'f') || ('A' ≤ c && c ≤ 'F')
  let n := Text.Ranges.hexNumber digits
  if digits.all isHex && (n < 0xD800 || (0xDFFF < n && n < 0x110000)) then some (Char.ofNat n) else none

def shortEscape? : Char → Option Char
  | 'b' => some '\x08'
  | 't' => some '\t'
  | 'n' => some '\n'
  | 'f' => some '\x0c'
  | 'r' => some '\r'
  | '"' => some '"'
  | '\\' => some '\\'
  | _ => none

def prepend (c : Char) : Option (List Char × List Char) → Option (List Char × List Char)
  | some (cs, rest) => some (c :: cs, rest)
  | none => none

def basicString : Scan (List Char)
  | [] => none
  | '"' :: r => some ([], r)
  | '\\' :: 'u' :: a :: b :: c :: d :: r =>
    match codePoint? [a, b, c, d] with
    | some x => prepend x (basicString r)
    | none => none
  | '\\' :: 'U' :: a :: b :: c :: d :: e :: f :: g :: h :: r =>
    match codePoint? [a, b, c, d, e, f, g, h] with
    | some x => prepend x (basicString r)
    | none => none
  | '\\' :: x :: r =>
    match shortEscape? x with
    | some x => prepend x (basicString r)
    | none => none
  | c :: r => if isPlain c && c != '\\' then prepend c (basicString r) else none

/-- Where the reading of a string of several lines is. -/
inductive Fold where
  | text
  /-- Behind a backslash that should end its line. -/
  | lineEnd
  /-- Behind a line ended like that, where blanks and ends of lines do not count. -/
  | nextLine
deriving DecidableEq, Repr

/-- A string of several lines with escapes, behind its quotes.  Up to two quotes may stand before the
three that end it. -/
def basicLines : Fold → Scan (List Char)
  | _, [] => none
  | .lineEnd, '\n' :: r => basicLines .nextLine r
  | .lineEnd, '\r' :: '\n' :: r => basicLines .nextLine r
  | .lineEnd, c :: r => if isBlank c then basicLines .lineEnd r else none
  | .nextLine, '\r' :: '\n' :: r => basicLines .nextLine r
  | .nextLine, '\n' :: r => basicLines .nextLine r
  | .nextLine, ' ' :: r => basicLines .nextLine r
  | .nextLine, '\t' :: r => basicLines .nextLine r
  | _, '"' :: '"' :: '"' :: '"' :: '"' :: r => some (['"', '"'], r)
  | _, '"' :: '"' :: '"' :: '"' :: r => some (['"'], r)
  | _, '"' :: '"' :: '"' :: r => some ([], r)
  | _, '\r' :: '\n' :: r => prepend '\n' (basicLines .text r)
  | _, '\n' :: r => prepend '\n' (basicLines .text r)
  | _, '\\' :: 'u' :: a :: b :: c :: d :: r =>
    match codePoint? [a, b, c, d] with
    | some x => prepend x (basicLines .text r)
    | none => none
  | _, '\\' :: 'U' :: a :: b :: c :: d :: e :: f :: g :: h :: r =>
    match codePoint? [a, b, c, d, e, f, g, h] with
    | some x => prepend x (basicLines .text r)
    | none => none
  | _, '\\' :: '\n' :: r => basicLines .nextLine r
  | _, '\\' :: '\r' :: '\n' :: r => basicLines .nextLine r
  | _, '\\' :: x :: r =>
    match shortEscape? x with
    | some x => prepend x (basicLines .text r)
    | none => if isBlank x then basicLines .lineEnd r else none
  | _, c :: r => if isPlain c && c != '\\' then prepend c (basicLines .text r) else none

def literalString : Scan (List Char)
  | [] => none
  | '\'' :: r => some ([], r)
  | c :: r => if isPlain c then prepend c (literalString r) else none

def literalLines : Scan (List Char)
  | [] => none
  | '\'' :: '\'' :: '\'' :: '\'' :: '\'' :: r => some (['\'', '\''], r)
  | '\'' :: '\'' :: '\'' :: '\'' :: r => some (['\''], r)
  | '\'' :: '\'' :: '\'' :: r => some ([], r)
  | '\r' :: '\n' :: r => prepend '\n' (literalLines r)
  | '\n' :: r => prepend '\n' (literalLines r)
  | c :: r => if isPlain c then prepend c (literalLines r) else none

/-- A text without the end of a line at its start, if there is one. -/
def dropNewline (cs : List Char) : List Char := (newline? cs).getD cs

def lineString : Scan String
  | '"' :: r => (basicString r).map fun (s, r) => (String.ofList s, r)
  | '\'' :: r => (literalString r).map fun (s, r) => (String.ofList s, r)
  | _ => none

def string : Scan String
  | '"' :: '"' :: '"' :: r =>
    (basicLines .text (dropNewline r)).map fun (s, r) => (String.ofList s, r)
  | '\'' :: '\'' :: '\'' :: r =>
    (literalLines (dropNewline r)).map fun (s, r) => (String.ofList s, r)
  | cs => lineString cs

/-! ### Keys -/

def isKeyChar (c : Char) : Bool := c.isAlphanum || c == '-' || c == '_'

def keyPart (cs : List Char) : Option (String × List Char) :=
  match cs with
  | '"' :: _ | '\'' :: _ => lineString cs
  | cs =>
    match cs.takeWhile isKeyChar with
    | [] => none
    | k => some (String.ofList k, cs.drop k.length)

/-- The greatest number of parts of a key, and of values in one another. -/
def depthLimit : Nat := 80

def keyParts : Nat → List String → List Char → Option (List String × List Char)
  | 0, _, _ => none
  | fuel + 1, before, cs => do
    let (k, cs) ← keyPart (skipBlanks cs)
    let path := before ++ [k]
    match skipBlanks cs with
    | '.' :: cs => keyParts fuel path cs
    | cs => return (path, cs)

/-- A key: the path before its last part, the last part, and what follows it and blanks. -/
def key (cs : List Char) : Option ((List String × String) × List Char) := do
  let (path, cs) ← keyParts (depthLimit - 1) [] cs
  let last ← path.getLast?
  return ((path.dropLast, last), cs)

/-! ### Numbers -/

def digits (isDigit : Char → Bool) : List Char → List Char × List Char
  | [] => ([], [])
  | '_' :: c :: r =>
    if isDigit c then
      let (ds, rest) := digits isDigit r
      (c :: ds, rest)
    else ([], '_' :: c :: r)
  | c :: r =>
    if isDigit c then
      let (ds, rest) := digits isDigit r
      (c :: ds, rest)
    else ([], c :: r)

def digits? (isDigit : Char → Bool) : Scan (List Char)
  | [] => none
  | c :: r =>
    if isDigit c then
      let (ds, rest) := digits isDigit r
      some (c :: ds, rest)
    else none

def digitsValue (radix : Nat) (ds : List Char) : Nat :=
  ds.foldl (fun n d => radix * n + Text.Ranges.hexValue d) 0

/-- An integer that fits into a signed word of 64 bits. -/
def integerDatum? (n : Int) : Option Datum :=
  if -9223372036854775808 ≤ n ∧ n < 9223372036854775808 then some (.integer n) else none

def radixNumber (radix : Nat) (isDigit : Char → Bool) (cs : List Char) : Option (Datum × List Char) := do
  let (ds, rest) ← digits? isDigit cs
  return (← integerDatum? (digitsValue radix ds), rest)

/-- Messages write real numbers plainly, whatever their size. -/
def realLayout : Decimal.Layout where
  isPlain _ := true
  infinity := "inf"
  notANumber := "NaN"

/-- The magnitude nearest to `n * 10 ^ e`.  Exponents far off every number are settled at once. -/
def magnitude (n : Nat) (e : Int) : Decimal.Magnitude :=
  let size : Int := (Nat.toDigits 10 n).length + e
  if n = 0 ∨ size < -400 then .finite 0 Decimal.Magnitude.minExponent
  else if 400 < size then .infinite
  else .ofDecimal n e

/-- A real number; one too large is refused. -/
def realDatum? (negative : Bool) (ds : List Char) (e : Int) : Option Datum :=
  let m := magnitude (digitsValue 10 ds) e
  if m = .infinite ∧ !negative then none
  else some (.real ((Decimal.Binary64.number negative m).render realLayout))

def exponent (cs : List Char) : Option (Int × List Char) :=
  let (negative, cs) := match cs with
    | '-' :: r => (true, r)
    | '+' :: r => (false, r)
    | _ => (false, cs)
  (digits? Char.isDigit cs).map fun (ds, rest) =>
    (if negative then -(digitsValue 10 ds : Int) else digitsValue 10 ds, rest)

/-- The whole part of a decimal number: a zero stands alone. -/
def whole : Scan (List Char)
  | '0' :: r => some (['0'], r)
  | cs => digits? Char.isDigit cs

/-- What a number with a sign goes on with. -/
def decimal (negative : Bool) (cs : List Char) : Option (Datum × List Char) := do
  let (w, r) ← whole cs
  match r with
  | '.' :: r =>
    let (f, r) ← digits? Char.isDigit r
    let (e, r) ← match r with
      | 'e' :: r | 'E' :: r => exponent r
      | r => some (0, r)
    return (← realDatum? negative (w ++ f) (e - f.length), r)
  | 'e' :: r | 'E' :: r =>
    let (e, r) ← exponent r
    return (← realDatum? negative w e, r)
  | r =>
    let n : Int := digitsValue 10 w
    return (← integerDatum? (if negative then -n else n), r)

def signed (negative : Bool) : Scan Datum
  | 'i' :: 'n' :: 'f' :: r =>
    some (.real ((Decimal.Binary64.number negative .infinite).render realLayout), r)
  | 'n' :: 'a' :: 'n' :: r => some (.real (Decimal.Binary64.notANumber.render realLayout), r)
  | cs => decimal negative cs

def number : Scan Datum
  | '+' :: r => signed false r
  | '-' :: r => signed true r
  | '0' :: 'x' :: r => radixNumber 16 (fun c =>
      c.isDigit || ('a' ≤ c && c ≤ 'f') || ('A' ≤ c && c ≤ 'F')) r
  | '0' :: 'o' :: r => radixNumber 8 (fun c => '0' ≤ c && c ≤ '7') r
  | '0' :: 'b' :: r => radixNumber 2 (fun c => c == '0' || c == '1') r
  | cs => signed false cs

/-! ### Dates and times -/

/-- A number of exactly `n` digits from `lo` to `hi`. -/
def fixed (n lo hi : Nat) (cs : List Char) : Option (Nat × List Char) :=
  let ds := cs.take n
  let v := digitsValue 10 ds
  if ds.length = n ∧ ds.all Char.isDigit ∧ lo ≤ v ∧ v ≤ hi then some (v, cs.drop n) else none

def after? (c : Char) : List Char → Option (List Char)
  | d :: r => if c = d then some r else none
  | [] => none

def daysIn (year month : Nat) : Nat :=
  if month = 2 then
    if year % 4 = 0 ∧ (year % 100 ≠ 0 ∨ year % 400 = 0) then 29 else 28
  else if month = 4 ∨ month = 6 ∨ month = 9 ∨ month = 11 then 30
  else 31

def date? (cs : List Char) : Option (List Char) := do
  let (year, cs) ← fixed 4 0 9999 cs
  let (month, cs) ← fixed 2 1 12 (← after? '-' cs)
  let (_, cs) ← fixed 2 1 (daysIn year month) (← after? '-' cs)
  return cs

def time? (cs : List Char) : Option (List Char) := do
  let (_, cs) ← fixed 2 0 23 cs
  let (_, cs) ← fixed 2 0 59 (← after? ':' cs)
  let (_, cs) ← fixed 2 0 60 (← after? ':' cs)
  match cs with
  | '.' :: r =>
    match r.takeWhile Char.isDigit with
    | [] => none
    | ds => some (r.drop ds.length)
  | cs => some cs

def offset? : List Char → Option (List Char)
  | 'Z' :: r | 'z' :: r => some r
  | '+' :: r | '-' :: r => do
    let (_, r) ← fixed 2 0 23 r
    let (_, r) ← fixed 2 0 59 (← after? ':' r)
    return r
  | cs => some cs

def moment? (cs : List Char) : Option (List Char) :=
  match date? cs with
  | some r =>
    match r with
    | 'T' :: t | 't' :: t => (time? t).bind offset?
    | ' ' :: t =>
      match time? t with
      | some r => offset? r
      | none => some r
    | r => some r
  | none => time? cs

/-- A date or a time counts as a record with one member. -/
def momentDatum (text : List Char) : Datum :=
  .record [(.text "datetime", .text (String.ofList text))] .closed

def quantity (cs : List Char) : Option (Datum × List Char) :=
  match moment? cs with
  | some r => some (momentDatum (cs.take (cs.length - r.length)), r)
  | none => number cs

end ClusterTopology.Toml
