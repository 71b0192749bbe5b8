/-!
Texts as lists of characters and as bytes: what this library reads of them and how it writes numbers.

Everything that arrives as a text is read by the rules in this module.  Addresses, endpoints and words for
a status are trimmed of the characters with the Unicode property White_Space; ports, intervals and times are
decimal numerals with a sign in front or without; bodies of answers are bytes that are read as UTF-8
whatever they are.  Sets of characters that some rule refers to are listed as ranges of code points.

All functions work on lists of characters and give exact values.  A bound on a number is part of the reader
that has it, so that nothing wraps: a numeral beyond the bound is no numeral.

The four parts are about white space, numerals, UTF-8 and ranges of code points.  What trimming leaves,
which texts are numerals and how texts compare by their bytes is said by the lemmas of `Proofs.Text.Basic`;
the functions here follow the rules one by one and are not meant to be reasoned about directly.
-/

namespace ClusterTopology.Text

/-! ## White space

Addresses, endpoints and status words arrive with white space around them, and all of them are
trimmed by one rule: the characters with the Unicode property White_Space.  The functions work on
lists of characters, where a trim is two `dropWhile`s; `trimmed` is the same on strings. -/

/-! ### The property -/

/-- The characters with the Unicode property White_Space. -/
def isBlank (c : Char) : Bool :=
  let n := c.toNat
  (9 ≤ n && n ≤ 13) || n == 0x20 || n == 0x85 || n == 0xA0 || n == 0x1680 ||
    (0x2000 ≤ n && n ≤ 0x200A) || n == 0x2028 || n == 0x2029 || n == 0x202F || n == 0x205F ||
    n == 0x3000

/-! ### Trimming -/

/-- A text without the white space before its first and after its last other character. -/
def trim (cs : List Char) : List Char :=
  ((cs.dropWhile isBlank).reverse.dropWhile isBlank).reverse

def trimmed (s : String) : String :=
  String.ofList (trim s.toList)

/-! ## Decimal numerals

A natural numeral is an optional `+` and one or more ASCII digits; leading zeros carry no weight.
An integer numeral may start with `-` instead.  Both readers give the exact value, so a range check
is the business of the caller (`readBelow?`, `readInt64?`). -/

/-! ### Reading -/

def digitsValue (ds : List Char) : Nat :=
  ds.foldl (fun n d => 10 * n + (d.toNat - '0'.toNat)) 0

/-- One or more ASCII digits and nothing else. -/
def readDigits? (cs : List Char) : Option Nat :=
  if cs ≠ [] ∧ cs.all Char.isDigit then some (digitsValue cs) else none

/-- A natural numeral: digits, after at most one `+`. -/
def readNat? : List Char → Option Nat
  | '+' :: ds => readDigits? ds
  | ds => readDigits? ds

/-- An integer numeral: digits, after at most one sign. -/
def readInt? : List Char → Option Int
  | '-' :: ds => (readDigits? ds).map fun n => -(n : Int)
  | cs => (readNat? cs).map Int.ofNat

/-- A natural numeral whose value is below `bound`. -/
def readBelow? (bound : Nat) (cs : List Char) : Option Nat :=
  (readNat? cs).filter (· < bound)

/-- A natural numeral for a sixteen bit word, such as a port. -/
def readUInt16? (cs : List Char) : Option UInt16 :=
  (readBelow? 65536 cs).map UInt16.ofNat

/-- An integer numeral from `-2 ^ 63` up to but not including `2 ^ 63`. -/
def readInt64? (cs : List Char) : Option Int :=
  (readInt? cs).filter fun n => -9223372036854775808 ≤ n && n < 9223372036854775808

/-! ### Writing -/

def natText (n : Nat) : String :=
  String.ofList (Nat.toDigits 10 n)

def intText : Int → String
  | .ofNat n => natText n
  | .negSucc n => "-" ++ natText (n + 1)

def hexText (n : Nat) : String :=
  String.ofList (Nat.toDigits 16 n)

/-! ## UTF-8 read without refusing anything

A run of bytes that is no character is shown as the replacement character, one for each longest run
that could have become a character and one for each byte that could not. -/

/-- What the first byte of a character says: how many bytes follow, its own bits, and between which
bounds the second byte lies. -/
structure Lead where
  following : Nat
  bits : Nat
  low : UInt8
  high : UInt8
deriving DecidableEq, Repr

/-- The lead that a byte is, if characters of more than one byte begin with it. -/
def Lead.ofByte? (b : UInt8) : Option Lead :=
  let n := b.toNat
  if 0xC2 ≤ n && n ≤ 0xDF then some ⟨1, n - 0xC0, 0x80, 0xBF⟩
  else if n == 0xE0 then some ⟨2, n - 0xE0, 0xA0, 0xBF⟩
  else if n == 0xED then some ⟨2, n - 0xE0, 0x80, 0x9F⟩
  else if 0xE1 ≤ n && n ≤ 0xEF then some ⟨2, n - 0xE0, 0x80, 0xBF⟩
  else if n == 0xF0 then some ⟨3, n - 0xF0, 0x90, 0xBF⟩
  else if 0xF1 ≤ n && n ≤ 0xF3 then some ⟨3, n - 0xF0, 0x80, 0xBF⟩
  else if n == 0xF4 then some ⟨3, n - 0xF0, 0x80, 0x8F⟩
  else none

def replacement : Char := Char.ofNat 0xFFFD

/-- The characters of bytes.  `open?` is a character that has begun: how many bytes it still needs, its
bits so far, and between which bounds the next byte lies. -/
def lossyChars : Option Lead → List UInt8 → List Char
  | none, [] => []
  | some _, [] => [replacement]
  | none, b :: bs => fresh b bs
  | some l, b :: bs =>
    if l.low ≤ b && b ≤ l.high then
      let bits := l.bits * 64 + (b.toNat - 0x80)
      match l.following with
      | 0 | 1 => Char.ofNat bits :: lossyChars none bs
      | n + 2 => lossyChars (some ⟨n + 1, bits, 0x80, 0xBF⟩) bs
    else replacement :: fresh b bs
where
  /-- The characters when a byte begins one. -/
  fresh (b : UInt8) (bs : List UInt8) : List Char :=
    if b < 0x80 then Char.ofNat b.toNat :: lossyChars none bs
    else
      match Lead.ofByte? b with
      | some l => lossyChars (some l) bs
      | none => replacement :: lossyChars none bs

def lossyText (bs : List UInt8) : String :=
  String.ofList (lossyChars none bs)

def asciiBytes (s : String) : List UInt8 :=
  s.toList.map fun c => UInt8.ofNat c.toNat

/-! ## Ranges of code points

Sets of characters and maps from characters are sorted ranges of code points, written as listings.

A listing is a line of items divided by blanks.  In a set an item is one code point or the first and
the last of a range, in hexadecimal: `a0 ad 300-36f`.  In a map an item also has what its characters
go to: `df=73+73` one character to several, `41-5a=61` a range onto a range, `100*12e=101` every second
character of a range onto every second of a range, `300-314:e6` a range to one and the same. -/

abbrev Ranges := Array (Nat × Nat)

namespace Ranges

def hexValue (c : Char) : Nat :=
  if c.isDigit then c.toNat - '0'.toNat else c.toLower.toNat - 'a'.toNat + 10

def hexNumber (cs : List Char) : Nat :=
  cs.foldl (fun n c => 16 * n + hexValue c) 0

def ofItem (cs : List Char) : Nat × Nat :=
  let first := cs.takeWhile (· != '-')
  match cs.drop (first.length + 1) with
  | [] => (hexNumber first, hexNumber first)
  | last => (hexNumber first, hexNumber last)

def ofListings (lines : List String) : Ranges :=
  (lines.flatMap fun s => (s.toList.splitOn ' ').map ofItem).toArray

/-- Whether a code point is in one of the ranges `lo` to `hi` of a sorted array: halving, at most
`fuel` times. -/
def search (rs : Ranges) (n : Nat) : Nat → Nat → Nat → Bool
  | 0, _, _ => false
  | fuel + 1, lo, hi =>
    if lo < hi then
      let mid := (lo + hi) / 2
      match rs[mid]? with
      | none => false
      | some (a, b) =>
        if n < a then search rs n fuel lo mid
        else if b < n then search rs n fuel (mid + 1) hi
        else true
    else false

def has (rs : Ranges) (c : Char) : Bool :=
  search rs c.toNat (rs.size + 1) 0 rs.size

end Ranges

/-! ### Maps -/

/-- The characters of a range, and what they go to. -/
structure MapItem where
  first : Nat
  last : Nat
  /-- One, or two if only every second character of the range is meant. -/
  stride : Nat
  /-- What the first character goes to. -/
  target : List Nat
  /-- Whether what a character goes to moves with its place in the range. -/
  moves : Bool
deriving Repr

abbrev RangeMap := Array MapItem

namespace RangeMap

def ofItem (cs : List Char) : MapItem :=
  let isMark (c : Char) : Bool := c == '=' || c == ':'
  let source := cs.takeWhile (!isMark ·)
  let isRange (c : Char) : Bool := c == '-' || c == '*'
  let first := source.takeWhile (!isRange ·)
  let target := (cs.drop (source.length + 1)).splitOn '+'
  let last := match source.drop (first.length + 1) with
    | [] => first
    | last => last
  ⟨Ranges.hexNumber first, Ranges.hexNumber last, if source.contains '*' then 2 else 1,
    target.map Ranges.hexNumber, cs.contains '='⟩

def ofListings (lines : List String) : RangeMap :=
  (lines.flatMap fun s => (s.toList.splitOn ' ').map ofItem).toArray

/-- The item with a code point among those from `lo` to `hi` of a sorted array: halving, at most `fuel`
times. -/
def search (m : RangeMap) (n : Nat) : Nat → Nat → Nat → Option MapItem
  | 0, _, _ => none
  | fuel + 1, lo, hi =>
    if lo < hi then
      let mid := (lo + hi) / 2
      match m[mid]? with
      | none => none
      | some i =>
        if n < i.first then search m n fuel lo mid
        else if i.last < n then search m n fuel (mid + 1) hi
        else some i
    else none

def find? (m : RangeMap) (n : Nat) : Option (List Nat) := do
  let i ← search m n (m.size + 1) 0 m.size
  let offset := n - i.first
  if offset % i.stride = 0 then
    return if i.moves then i.target.map (· + offset) else i.target
  else none

end RangeMap

end ClusterTopology.Text
