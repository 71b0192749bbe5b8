import ClusterTopology.Text.Basic
/-!
Binary floating-point numbers of 64 bits, as exact pairs, and their shortest decimal texts.

A finite number is a sign and `mantissa * 2 ^ exponent`.  The one operation that everything else is made of is
`nearest`: it rounds a quotient of natural numbers to the nearest such pair, a tie to the even mantissa.
Reading a decimal text is one rounding; the product and the quotient of two numbers are one rounding of the
exact product and quotient.

Of all decimals that read back as a number, those with the fewest digits are considered, and of these the
nearest is written.  `shortest` finds its digits; how they are laid out on the page is a matter of the
`Layout`.

Numbers come up in two places: a JSON or TOML text may hold one where none is wanted, and the message about
it then shows it.  So the text that is written for a number is all that anybody sees of it.
-/

namespace ClusterTopology.Decimal

/-! ## Numbers as exact pairs -/

/-- A magnitude: zero or a positive finite number, or too large for one. -/
inductive Magnitude where
  | finite (mantissa : Nat) (exponent : Int)
  | infinite
deriving DecidableEq, Repr

namespace Magnitude

def minExponent : Int := -1074

/-- The greatest exponent of a number with a full mantissa. -/
def maxExponent : Int := 971

/-- `num / den` in whole units of `2 ^ q`, as a quotient again. -/
def inUnits (num den : Nat) (q : Int) : Nat × Nat :=
  if 0 ≤ q then (num, den * Nat.pow 2 q.toNat) else (num * Nat.pow 2 (-q).toNat, den)

/-- The whole number nearest to `num / den`; of two equally near ones the even one. -/
def roundHalfEven (num den : Nat) : Nat :=
  let n := num / den
  let twice := 2 * (num % den)
  if twice < den then n
  else if den < twice then n + 1
  else n + n % 2

/-- The number nearest to `num / den`, for a positive `den`. -/
def nearest (num den : Nat) : Magnitude :=
  if num = 0 then .finite 0 minExponent
  else
    let guess : Int := max (Nat.log2 num - Nat.log2 den - 53 : Int) minExponent
    let (n, d) := inUnits num den guess
    let q := if 9007199254740992 ≤ n / d then guess + 1 else guess
    let (n, d) := inUnits num den q
    let m := roundHalfEven n d
    let (m, q) := if m = 9007199254740992 then (4503599627370496, q + 1) else (m, q)
    if maxExponent < q then .infinite else .finite m q

/-- The numerator and the denominator of a finite number, `(1, 0)` for infinity. -/
def ratio : Magnitude → Nat × Nat
  | finite m q => if 0 ≤ q then (m * Nat.pow 2 q.toNat, 1) else (m, Nat.pow 2 (-q).toNat)
  | infinite => (1, 0)

/-- The number nearest to `n * 10 ^ e`. -/
def ofDecimal (n : Nat) (e : Int) : Magnitude :=
  if 0 ≤ e then nearest (n * Nat.pow 10 e.toNat) 1 else nearest n (Nat.pow 10 (-e).toNat)

def mul : Magnitude → Magnitude → Magnitude
  | a@(finite ..), b@(finite ..) => nearest (a.ratio.1 * b.ratio.1) (a.ratio.2 * b.ratio.2)
  | _, _ => infinite

def div : Magnitude → Magnitude → Magnitude
  | a@(finite ..), b@(finite ..) => nearest (a.ratio.1 * b.ratio.2) (a.ratio.2 * b.ratio.1)
  | _, _ => infinite

end Magnitude

inductive Binary64 where
  | number (negative : Bool) (magnitude : Magnitude)
  | notANumber
deriving DecidableEq, Repr

/-! ## The shortest decimal text -/

/-! ### The digits -/

/-- The decimals that read back as `m * 2 ^ q` lie between these bounds, which are counted in units
of `2 ^ (q - 2)`; a bound belongs to them when `m` is even. -/
def bounds (m : Nat) (q : Int) : Nat × Nat :=
  let below := if m = 4503599627370496 ∧ Magnitude.minExponent < q then 1 else 2
  (4 * m - below, 4 * m + 2)

/-- Whether `a * 10 ^ g` reads back as `m * 2 ^ q`. -/
def readsBack (m : Nat) (q : Int) (a : Nat) (g : Int) : Bool :=
  let (lo, hi) := bounds m q
  let tens := if 0 ≤ g then a * Nat.pow 10 g.toNat else a
  let den := if 0 ≤ g then 1 else Nat.pow 10 (-g).toNat
  let unit := q - 2
  let (x, y) := if 0 ≤ unit then (tens, den * Nat.pow 2 unit.toNat)
    else (tens * Nat.pow 2 (-unit).toNat, den)
  if m % 2 = 0 then lo * y ≤ x && x ≤ hi * y else lo * y < x && x < hi * y

/-- The value of `m * 2 ^ q` in whole units of `10 ^ g`, and twice the rest over the unit. -/
def onGrid (m : Nat) (q g : Int) : Nat × Nat × Nat :=
  let num := (if 0 ≤ q then m * Nat.pow 2 q.toNat else m) * (if 0 ≤ g then 1 else Nat.pow 10 (-g).toNat)
  let den := (if 0 ≤ q then 1 else Nat.pow 2 (-q).toNat) * (if 0 ≤ g then Nat.pow 10 g.toNat else 1)
  (num / den, 2 * (num % den), den)

/-- The exponent of the first decimal digit of `m * 2 ^ q`. -/
def leadingExponent (m : Nat) (q : Int) : Int :=
  if 0 ≤ q then ((Nat.toDigits 10 (m * Nat.pow 2 q.toNat)).length : Int) - 1
  else
    let k := (-q).toNat
    -- `m / 2 ^ k` is `m * 5 ^ k / 10 ^ k`
    ((Nat.toDigits 10 (m * Nat.pow 5 k)).length : Int) - 1 - k

/-- The shortest decimal `a * 10 ^ g` for `m * 2 ^ q`, searched on ever finer grids. -/
def shortestFrom (m : Nat) (q e : Int) : Nat → Nat → Nat × Int
  | 0, digits => ((onGrid m q (e + 1 - digits)).1, e + 1 - digits)
  | fuel + 1, digits =>
    let g := e + 1 - digits
    let (a, twice, den) := onGrid m q g
    let low := readsBack m q a g
    let high := readsBack m q (a + 1) g
    if low && high then
      if twice < den || (twice = den && a % 2 = 0) then (a, g) else (a + 1, g)
    else if low then (a, g)
    else if high then (a + 1, g)
    else shortestFrom m q e fuel (digits + 1)

/-- The digits of the shortest decimal for a positive `m * 2 ^ q`, and the exponent of the first of
them.  Seventeen digits always suffice. -/
def shortest (m : Nat) (q : Int) : List Char × Int :=
  let (a, g) := shortestFrom m q (leadingExponent m q) 17 1
  let digits := Nat.toDigits 10 a
  let bare := (digits.reverse.dropWhile (· == '0')).reverse
  (bare, g + digits.length - 1)

/-! ### The layouts -/

/-- How a number is laid out: plainly while the exponent of its first digit lies in a range, and
with an exponent otherwise. -/
structure Layout where
  /-- The exponents that are written plainly. -/
  isPlain : Int → Bool
  /-- The text of infinity. -/
  infinity : String
  /-- The text of what is not a number. -/
  notANumber : String

/-- Digits with the point after the one whose exponent is zero; at least one digit on each side. -/
def plainText (ds : List Char) (e : Int) : List Char :=
  if e < 0 then '0' :: '.' :: (List.replicate ((-e).toNat - 1) '0' ++ ds)
  else
    let whole := ds.take (e.toNat + 1)
    let padded := whole ++ List.replicate (e.toNat + 1 - whole.length) '0'
    match ds.drop (e.toNat + 1) with
    | [] => padded ++ ['.', '0']
    | rest => padded ++ '.' :: rest

/-- Digits with the point after the first, and the exponent with a sign and at least two digits. -/
def exponentText (ds : List Char) (e : Int) : List Char :=
  let mantissa := match ds with
    | [] => []
    | [d] => [d]
    | d :: rest => d :: '.' :: rest
  let size := Nat.toDigits 10 e.natAbs
  let padded := if size.length < 2 then '0' :: size else size
  mantissa ++ 'e' :: (if e < 0 then '-' else '+') :: padded

def Binary64.render (layout : Layout) : Binary64 → String
  | .notANumber => layout.notANumber
  | .number negative magnitude =>
    let body := match magnitude with
      | .infinite => layout.infinity.toList
      | .finite 0 _ => "0.0".toList
      | .finite m q =>
        let (ds, e) := shortest m q
        if layout.isPlain e then plainText ds e else exponentText ds e
    String.ofList (if negative then '-' :: body else body)

end ClusterTopology.Decimal
