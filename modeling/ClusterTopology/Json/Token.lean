import ClusterTopology.Data.Datum
import ClusterTopology.Decimal
/-!
The tokens of a JSON text.

A text is a list of bytes.  Its tokens are brackets, marks, and the values without parts; a fault in
the text is the last token.  A string may be unreadable (half of a surrogate pair, bytes that are not
UTF-8) and yet well-formed, and a number may be too large and yet well-formed: both are tokens of
values that are spoiled.

A string is scanned as `Piece`s first and put together by `assemble` at its end, because two escapes may make
one character, and half of such a pair is a fault that comes before any at which the scan has ended.  A number
is scanned as a `Numeral` and then given its value: an integer when it fits into 64 bits, and otherwise the text
of a rounded real number.

A text is cut into tokens in so many steps as it has bytes and one more.  That these are enough is shown in
`Proofs.Json.Tokens`.
-/

namespace ClusterTopology.Json

open ClusterTopology.Data

inductive Token where
  | openList
  | closeList
  | openRecord
  | closeRecord
  | comma
  | colon
  | value (d : Datum)
  /-- The text cannot be followed any further. -/
  | fault (f : Fault)

/-- A byte, by the ASCII character that it stands for. -/
def byte (c : Char) : UInt8 := UInt8.ofNat c.toNat

/-! ### Strings -/

/-- A part of a string: a byte as it stands or for which an escape stands, or a UTF-16 unit. -/
inductive Piece where
  | byte (b : UInt8)
  | unit (u : Nat)
deriving DecidableEq, Repr

def hexDigit? (b : UInt8) : Option Nat :=
  let n := b.toNat
  if 48 ≤ n ∧ n ≤ 57 then some (n - 48)
  else if 97 ≤ n ∧ n ≤ 102 then some (n - 87)
  else if 65 ≤ n ∧ n ≤ 70 then some (n - 55)
  else none

def hexUnit? (a b c d : UInt8) : Option Nat := do
  return 4096 * (← hexDigit? a) + 256 * (← hexDigit? b) + 16 * (← hexDigit? c) + (← hexDigit? d)

def escaped? (e : UInt8) : Option UInt8 :=
  if e = byte '"' ∨ e = byte '\\' ∨ e = byte '/' then some e
  else if e = byte 'b' then some 8
  else if e = byte 'f' then some 12
  else if e = byte 'n' then some 10
  else if e = byte 'r' then some 13
  else if e = byte 't' then some 9
  else none

/-- A string as far as it can be followed, and the text after it. -/
structure Scan where
  pieces : List Piece
  fault : Option Fault
  rest : List UInt8

def Scan.cons (p : Piece) (s : Scan) : Scan :=
  { s with pieces := p :: s.pieces }

def scanString : List UInt8 → Scan
  | [] => ⟨[], some .incomplete, []⟩
  | b :: r =>
    if b = byte '"' then ⟨[], none, r⟩
    else if b = byte '\\' then
      match r with
      | [] => ⟨[], some .incomplete, []⟩
      | e :: r =>
        if e = byte 'u' then
          match r with
          | a :: b :: c :: d :: r =>
            match hexUnit? a b c d with
            | some u => (scanString r).cons (.unit u)
            | none => ⟨[], some .malformed, []⟩
          | _ => ⟨[], some .incomplete, []⟩
        else
          match escaped? e with
          | some x => (scanString r).cons (.byte x)
          | none => ⟨[], some .malformed, []⟩
    else if b < 0x20 then ⟨[], some .malformed, []⟩
    else (scanString r).cons (.byte b)

def isHigh (u : Nat) : Bool := 0xD800 ≤ u && u ≤ 0xDBFF

def isLow (u : Nat) : Bool := 0xDC00 ≤ u && u ≤ 0xDFFF

def charBytes (n : Nat) : List UInt8 :=
  String.utf8EncodeChar (Char.ofNat n)

/-- The bytes of a string.  A half of a surrogate pair without the other is a fault at its place,
which comes before the fault at which the scan ended. -/
def assemble (fault : Option Fault) : List Piece → Except Fault (List UInt8)
  | [] =>
    match fault with
    | none => .ok []
    | some f => .error f
  | .byte b :: r => (assemble fault r).map (b :: ·)
  | .unit u :: r =>
    if isLow u then .error .malformed
    else if isHigh u then
      match r with
      | .unit v :: r =>
        if isLow v then
          let n := 0x10000 + 0x400 * (u - 0xD800) + (v - 0xDC00)
          (assemble fault r).map (charBytes n ++ ·)
        else .error .malformed
      | [] => if fault = some .incomplete then .error .incomplete else .error .malformed
      | _ => .error .malformed
    else (assemble fault r).map (charBytes u ++ ·)

def utf8Text? (bs : List UInt8) : Option String :=
  String.fromUTF8? ⟨bs.toArray⟩

def Scan.datum (s : Scan) : Datum :=
  match assemble s.fault s.pieces with
  | .error f => .spoiled .quote f
  | .ok bs =>
    match utf8Text? bs with
    | some t => .text t
    | none => .spoiled .quote .malformed

/-! ### Numbers -/

/-- The parts of a number, digits as numbers below ten. -/
structure Numeral where
  negative : Bool
  whole : List Nat
  fraction : List Nat
  /-- The sign (`true` for minus) and the digits of the exponent. -/
  exponent : Option (Bool × List Nat)

def isDigit (b : UInt8) : Bool := 48 ≤ b && b ≤ 57

/-- The digits at the start of a text, and the text after them. -/
def spanDigits (bs : List UInt8) : List Nat × List UInt8 :=
  ((bs.takeWhile isDigit).map fun b => b.toNat - 48, bs.dropWhile isDigit)

def digits? (bs : List UInt8) : Except Fault (List Nat × List UInt8) :=
  match spanDigits bs with
  | ([], []) => .error .incomplete
  | ([], _) => .error .malformed
  | r => .ok r

/-- The digits before the point: a zero stands alone. -/
def whole? : List UInt8 → Except Fault (List Nat × List UInt8)
  | [] => .error .incomplete
  | b :: r =>
    if b = byte '0' then
      match r with
      | [] => .ok ([0], [])
      | c :: _ => if isDigit c then .error .malformed else .ok ([0], r)
    else digits? (b :: r)

/-- The digits after a point, if there is one. -/
def fraction? : List UInt8 → Except Fault (List Nat × List UInt8)
  | [] => .ok ([], [])
  | b :: r => if b = byte '.' then digits? r else .ok ([], b :: r)

def exponent? : List UInt8 → Except Fault (Option (Bool × List Nat) × List UInt8)
  | [] => .ok (none, [])
  | b :: r =>
    if b = byte 'e' ∨ b = byte 'E' then
      let signed := match r with
        | c :: r' => if c = byte '-' then (true, r') else if c = byte '+' then (false, r') else (false, r)
        | [] => (false, [])
      (digits? signed.2).map fun (ds, rest) => (some (signed.1, ds), rest)
    else .ok (none, b :: r)

def numeral? (bs : List UInt8) : Except Fault (Numeral × List UInt8) := do
  let (negative, r) := match bs with
    | b :: r => if b = byte '-' then (true, r) else (false, bs)
    | [] => (false, [])
  let (whole, r) ← whole? r
  let (fraction, r) ← fraction? r
  let (exponent, r) ← exponent? r
  return (⟨negative, whole, fraction, exponent⟩, r)

/-- Digits taken into a word of 64 bits, up to the first that does not fit: the word, and how many
digits are left. -/
def absorb (n : Nat) : List Nat → Nat × Nat
  | [] => (n, 0)
  | d :: ds => if 10 * n + d < 18446744073709551616 then absorb (10 * n + d) ds else (n, ds.length + 1)

/-- `f * 10 ^ e` by multiplications and divisions by powers that are numbers themselves, each of them
rounded; `none` if it is too large. -/
def scale (f : Decimal.Magnitude) (e : Int) : Nat → Option Decimal.Magnitude
  | 0 => some (.finite 0 Decimal.Magnitude.minExponent)
  | fuel + 1 =>
    if e.natAbs ≤ 308 then
      let power := Decimal.Magnitude.ofDecimal 1 e.natAbs
      if 0 ≤ e then
        match f.mul power with
        | .infinite => none
        | g => some g
      else some (f.div power)
    else if f.ratio.1 = 0 then some f
    else if 0 ≤ e then none
    else scale (f.div (Decimal.Magnitude.ofDecimal 1 308)) (e + 308) fuel

/-- How messages lay out a number: plainly while the first digit has an exponent from -5 to 15. -/
def realLayout : Decimal.Layout where
  isPlain e := -5 ≤ e && e < 16
  infinity := "inf"
  notANumber := "NaN"

/-- The text of a real number, if it is not too large. -/
def Numeral.realText? (n : Numeral) : Option String := do
  let (w, dropped) := absorb 0 n.whole
  let (s, left) := absorb w n.fraction
  let point : Int := (dropped : Int) - (n.fraction.length : Int) + (left : Int)
  let start := Decimal.Magnitude.nearest s 1
  let magnitude ← match n.exponent with
    | none => scale start point 5
    | some (minus, ds) =>
      let e := ds.foldl (fun n d => 10 * n + d) 0
      let size := Int.ofNat e
      if e < 2147483648 then scale start (if minus then point - size else point + size) 5
      else if s = 0 ∨ minus then some (.finite 0 Decimal.Magnitude.minExponent)
      else none
  return (Decimal.Binary64.number n.negative magnitude).render realLayout

/-- The value of a number: an integer if it has neither fraction nor exponent and fits into 64 bits,
with or without a sign.  The negative zero is no integer. -/
def Numeral.datum (n : Numeral) : Datum :=
  let real := match n.realText? with
    | some t => .real t
    | none => .spoiled .other .malformed
  match n.fraction, n.exponent, absorb 0 n.whole with
  | [], none, (w, 0) =>
    if !n.negative then .integer w
    else if 0 < w ∧ w ≤ 9223372036854775808 then .integer (-(w : Int))
    else real
  | _, _, _ => real

/-! ### Words -/

/-- Whether a text goes on with a word; an early end is no mistake yet. -/
def word? : List Char → List UInt8 → Except Fault (List UInt8)
  | [], bs => .ok bs
  | _ :: _, [] => .error .incomplete
  | c :: cs, b :: bs => if b = byte c then word? cs bs else .error .malformed

/-! ### Tokens -/

def isSpace (b : UInt8) : Bool :=
  b = 0x20 || b = 0x0A || b = 0x0D || b = 0x09

/-- The tokens of a value that may have a fault, and the text after it. -/
def faulty (start : Start) : Except Fault (Datum × List UInt8) → List Token × List UInt8
  | .ok (d, r) => ([.value d], r)
  | .error f => ([.value (.spoiled start f), .fault f], [])

/-- The tokens that the text `b :: r` starts with, and the text after them. -/
def lead (b : UInt8) (r : List UInt8) : List Token × List UInt8 :=
  if b = byte '[' then ([.openList], r)
  else if b = byte ']' then ([.closeList], r)
  else if b = byte '\x7b' then ([.openRecord], r)
  else if b = byte '\x7d' then ([.closeRecord], r)
  else if b = byte ',' then ([.comma], r)
  else if b = byte ':' then ([.colon], r)
  else if b = byte '"' then
    let s := scanString r
    match s.fault with
    | none => ([.value s.datum], s.rest)
    | some f => ([.value s.datum, .fault f], [])
  else if b = byte 'n' then faulty .other ((word? "ull".toList r).map fun r => (.null, r))
  else if b = byte 't' then faulty .other ((word? "rue".toList r).map fun r => (.bool true, r))
  else if b = byte 'f' then faulty .other ((word? "alse".toList r).map fun r => (.bool false, r))
  else if b = byte '-' ∨ isDigit b then
    faulty .other ((numeral? (b :: r)).map fun (n, r) => (n.datum, r))
  else ([.fault .malformed], [])

/-- The tokens of a text, in at most `fuel` steps; a text has no more tokens than bytes. -/
def tokensIn : Nat → List UInt8 → List Token
  | 0, _ => []
  | fuel + 1, bs =>
    match bs.dropWhile isSpace with
    | [] => []
    | b :: r =>
      let (ts, rest) := lead b r
      ts ++ tokensIn fuel rest

def tokens (bs : List UInt8) : List Token :=
  tokensIn (bs.length + 1) bs

end ClusterTopology.Json
