import ClusterTopology.Url.Domain.Tables
import ClusterTopology.Text.Basic
/-!
Domain names: the ASCII name under which a name of any characters is known.

The characters of the name are mapped to their lower case and compatible forms and the whole is put into its
composed form.  Its labels, divided by dots, are then checked one by one; those with characters outside ASCII
are written in Punycode behind `xn--`.  A label that comes in Punycode has to be one that would be written
like that.

The tables that the rules refer to are in `Url.Domain.Tables`; the functions here only look things up in them.

Punycode is written and read by the same pair of rules for the weights of digits, `threshold` and `adapt`.
The composed form takes characters apart, puts the marks behind each into order and composes what can be
composed; the syllables of Hangul are computed and not listed.  Names of small letters come through all of
it unchanged, as is shown in `Proofs.Url.PlainNames`.
-/

namespace ClusterTopology.Url.Punycode

/-! ## Punycode

Texts of any characters are written as texts of ASCII letters, digits and hyphens.

The ASCII characters come first, then a hyphen if there are any, then the others in the order of their
code points: each as the distance from the one before, in a count of code points and places together,
written as a numeral of mixed radix whose weights adapt to the distances met so far. -/

/-! ### Digits and weights -/

def digit (n : Nat) : Char :=
  if n < 26 then Char.ofNat ('a'.toNat + n) else Char.ofNat ('0'.toNat + (n - 26))

def value? (c : Char) : Option Nat :=
  if 'a' ≤ c ∧ c ≤ 'z' then some (c.toNat - 'a'.toNat)
  else if 'A' ≤ c ∧ c ≤ 'Z' then some (c.toNat - 'A'.toNat)
  else if '0' ≤ c ∧ c ≤ '9' then some (c.toNat - '0'.toNat + 26)
  else none

def threshold (k bias : Nat) : Nat :=
  if k ≤ bias then 1 else if bias + 26 ≤ k then 26 else k - bias

theorem threshold_bounds (k bias : Nat) : 1 ≤ threshold k bias ∧ threshold k bias ≤ 26 := by
  unfold threshold
  split
  · omega
  · split <;> omega

/-- A distance divided down to below 456, and 36 for each division. -/
def damp (delta k : Nat) : Nat × Nat :=
  if 455 < delta then damp (delta / 35) (k + 36) else (delta, k)
termination_by delta

/-- The bias after a distance, when `count` characters have been placed. -/
def adapt (delta count : Nat) (isFirst : Bool) : Nat :=
  let delta := if isFirst then delta / 700 else delta / 2
  let (delta, k) := damp (delta + delta / count) 0
  k + 36 * delta / (delta + 38)

/-! ### Writing -/

def numeral (q k bias : Nat) : List Char :=
  let t := threshold k bias
  if h : q < t then [digit q]
  else digit (t + (q - t) % (36 - t)) :: numeral ((q - t) / (36 - t)) (k + 36) bias
termination_by q
decreasing_by
  have ht : 1 ≤ t := (threshold_bounds k bias).1
  exact Nat.lt_of_le_of_lt (Nat.div_le_self _ _) (Nat.sub_lt (by omega) ht)

structure Writing where
  bias : Nat
  delta : Nat
  /-- How many characters have been placed. -/
  placed : Nat
  isFirst : Bool
  /-- The numerals so far. -/
  out : List Char

/-- One pass over the text for the character with code point `n`: characters before it in the order
make the distance longer, itself it writes the distance. -/
def writePass (n : Nat) (cs : List Char) (w : Writing) : Writing :=
  cs.foldl (fun w c =>
    if c.toNat < n then { w with delta := w.delta + 1 }
    else if c.toNat = n then
      { bias := adapt w.delta (w.placed + 1) w.isFirst
        delta := 0
        placed := w.placed + 1
        isFirst := false
        out := w.out ++ numeral w.delta 36 w.bias }
    else w) w

/-- The passes for the code points of a sorted list, from code point `n` on. -/
def writePasses (cs : List Char) : List Nat → Nat → Writing → Writing
  | [], _, w => w
  | m :: ms, n, w =>
    let w := writePass m cs { w with delta := w.delta + (m - n) * (w.placed + 1) }
    writePasses cs ms (m + 1) { w with delta := w.delta + 1 }

def encode (cs : List Char) : List Char :=
  let basic := cs.filter (·.toNat < 128)
  let others := ((cs.map Char.toNat).filter (128 ≤ ·)).mergeSort.eraseDups
  let start := if basic = [] then [] else basic ++ ['-']
  (writePasses cs others 128 ⟨72, 0, basic.length, true, start⟩).out

/-! ### Reading -/

/-- A numeral from place `k` on, added with weight `w` to `i`, and what follows it. -/
def readNumeral? (bias : Nat) : List Char → (k w i : Nat) → Option (Nat × List Char)
  | [], _, _, _ => none
  | c :: cs, k, w, i => do
    let d ← value? c
    let t := threshold k bias
    let i := i + d * w
    if d < t then some (i, cs) else readNumeral? bias cs (k + 36) (w * (36 - t)) i

/-- What follows a numeral is shorter than what it is read from. -/
theorem length_lt_of_readNumeral? {bias : Nat} {cs : List Char} {k w i j : Nat} {rest : List Char}
    (h : readNumeral? bias cs k w i = some (j, rest)) : rest.length < cs.length := by
  induction cs generalizing k w i with
  | nil => simp [readNumeral?] at h
  | cons c cs ih =>
    simp only [readNumeral?, Option.bind_eq_bind, Option.bind_eq_some_iff] at h
    obtain ⟨d, -, h⟩ := h
    split at h
    · cases h
      simp
    · have := ih h
      simp only [List.length_cons]
      omega

def readNumerals? (cs : List Char) (n i bias : Nat) (isFirst : Bool) (out : List Char) :
    Option (List Char) :=
  match h : readNumeral? bias cs 36 1 i with
  | none => if cs = [] then some out else none
  | some (j, rest) =>
    have := length_lt_of_readNumeral? h
    let count := out.length + 1
    let n := n + j / count
    if n < 0xD800 ∨ (0xDFFF < n ∧ n ≤ 0x10FFFF) then
      let place := j % count
      readNumerals? rest n (place + 1) (adapt (j - i) count isFirst) false
        (out.take place ++ Char.ofNat n :: out.drop place)
    else none
termination_by cs.length

/-- What stands before the last hyphen of a text and what stands behind it; a hyphen with nothing
before it divides nothing. -/
def splitLastHyphen (cs : List Char) : List Char × List Char :=
  let tail := (cs.reverse.takeWhile (· != '-')).reverse
  if cs.length ≤ tail.length + 1 then ([], cs) else (cs.take (cs.length - tail.length - 1), tail)

def decode? (cs : List Char) : Option (List Char) :=
  let (basic, numerals) := splitLastHyphen cs
  if cs.all (·.toNat < 128) then readNumerals? numerals 128 0 72 true basic else none

end ClusterTopology.Url.Punycode

/-! ## The composed form of a text

Characters that are others put together are taken apart, marks on one letter are ordered by their class,
and everything that can be put together is put together again. -/

namespace ClusterTopology.Url.Domain

/-! ### Taking apart -/

/-- The first Hangul syllable, and the first leading, vowel and trailing letter less one. -/
def hangulBase : Nat := 0xAC00
def leadBase : Nat := 0x1100
def vowelBase : Nat := 0x1161
def trailBase : Nat := 0x11A7

def hangulParts? (n : Nat) : Option (List Nat) :=
  let s := n - hangulBase
  if hangulBase ≤ n ∧ s < 11172 then
    let letters := [leadBase + s / 588, vowelBase + s % 588 / 28]
    some (if s % 28 = 0 then letters else letters ++ [trailBase + s % 28])
  else none

/-- A code point taken apart by what a table has for it, at most `fuel` times over. -/
def decomposeBy (parts? : Nat → Option (List Nat)) : Nat → Nat → List Nat
  | 0, n => [n]
  | fuel + 1, n =>
    match hangulParts? n with
    | some ns => ns
    | none =>
      match parts? n with
      | some ns => ns.flatMap (decomposeBy parts? fuel)
      | none => [n]

def decompose : Nat → Nat → List Nat := decomposeBy composites.find?

/-- The class that a table has for a mark; zero for what it does not have. -/
def classOf : Option (List Nat) → Nat
  | some [k] => k
  | _ => 0

/-- The class that orders marks; zero for what is no mark. -/
def combiningClass (n : Nat) : Nat := classOf (combiningClasses.find? n)

/-! ### Ordering -/

/-- A mark put into a run of marks behind those of its own and of lower classes; the run has the last
mark first. -/
def insertMark (n : Nat) : List Nat → List Nat
  | [] => [n]
  | m :: ms =>
    if combiningClass n ≠ 0 ∧ combiningClass n < combiningClass m then m :: insertMark n ms
    else n :: m :: ms

def orderMarks (ns : List Nat) : List Nat :=
  (ns.foldl (fun before n => insertMark n before) []).reverse

/-! ### Putting together -/

def composePair? (a b : Nat) : Option Nat :=
  if leadBase ≤ a ∧ a < leadBase + 19 ∧ vowelBase ≤ b ∧ b < vowelBase + 21 then
    some (hangulBase + ((a - leadBase) * 21 + (b - vowelBase)) * 28)
  else if hangulBase ≤ a ∧ a < hangulBase + 11172 ∧ (a - hangulBase) % 28 = 0 ∧ trailBase < b
      ∧ b < trailBase + 28 then
    some (a + (b - trailBase))
  else if b < 0x300 then none
  else (composites.toList.find? fun i => i.target == [a, b]).map fun i => i.first

/-- A text that is being put together: what is done, the letter that marks may still be put on, and
the marks behind it that have stayed by themselves.  The lists have the last first. -/
structure Composing where
  done : List Nat
  letter : Option Nat
  marks : List Nat

def Composing.add (s : Composing) (n : Nat) : Composing :=
  let k := combiningClass n
  match s.letter with
  | none => if k = 0 then { s with letter := some n } else { s with done := n :: s.done }
  | some a =>
    let isBlocked := match s.marks with
      | [] => false
      | m :: _ => k ≤ combiningClass m
    match if isBlocked then none else composePair? a n with
    | some c => { s with letter := some c }
    | none =>
      if k = 0 then ⟨s.marks ++ a :: s.done, some n, []⟩
      else { s with marks := n :: s.marks }

def compose (ns : List Nat) : List Nat :=
  let s := ns.foldl Composing.add ⟨[], none, []⟩
  (s.marks ++ s.letter.toList ++ s.done).reverse

def normal (cs : List Char) : List Char :=
  (compose (orderMarks (cs.flatMap fun c => decompose 4 c.toNat))).map Char.ofNat

/-! ## Names and their labels -/

open ClusterTopology.Text

/-! ### Characters -/

/-- What a character is replaced by; nothing if it may not stand in a name. -/
def mapChar? (c : Char) : Option (List Char) :=
  if c.toNat < 128 then some [c.toLower]
  else
    match mappings.find? c.toNat with
    | some ns => some (ns.map Char.ofNat)
    | none =>
      if ignored.has c then some []
      else if disallowed.has c then none
      else some [c]

def isForbidden (c : Char) : Bool :=
  c.toNat ≤ 0x20 || c == '\x7f' || "%#/:<>?@[\\]^|".toList.contains c

def mapped? (cs : List Char) : Option (List Char) :=
  (cs.mapM mapChar?).map fun css => normal css.flatten

/-! ### Joiners -/

def nonJoiner : Char := Char.ofNat 0x200C

def joiner : Char := Char.ofNat 0x200D

/-- Whether a mark takes the vowel from the letter before it. -/
def isVirama (c : Char) : Bool := combiningClass c.toNat == 9

/-- Whether the joiners of a label stand where they mean something; `before` is what precedes, the
last first. -/
def joinersFit (before : List Char) : List Char → Bool
  | [] => true
  | c :: cs =>
    let followsVirama := match before with
      | v :: _ => isVirama v
      | [] => false
    let fits :=
      if c = joiner then followsVirama
      else if c = nonJoiner then
        let left := before.dropWhile transparent.has
        let right := cs.dropWhile transparent.has
        followsVirama || (left.head?.any joinsLeft.has && right.head?.any joinsRight.has)
      else true
    fits && joinersFit (c :: before) cs

/-! ### Direction -/

def isRightToLeft (cs : List Char) : Bool :=
  cs.any fun c => rightToLeft.has c || arabicDigits.has c

def isLeftToRight (c : Char) : Bool :=
  !(rightToLeft.has c || arabicDigits.has c || europeanDigits.has c || neutrals.has c
    || nonSpacing.has c || separators.has c)

/-- Whether the directions in a label of a name with right-to-left labels go together. -/
def directionsFit : List Char → Bool
  | [] => true
  | c :: cs =>
    let label := c :: cs
    let last := (label.reverse.dropWhile nonSpacing.has).head?
    if rightToLeft.has c then
      label.all (fun c => rightToLeft.has c || arabicDigits.has c || europeanDigits.has c
          || neutrals.has c || nonSpacing.has c)
        && last.any (fun c => rightToLeft.has c || arabicDigits.has c || europeanDigits.has c)
        && !(label.any arabicDigits.has && label.any europeanDigits.has)
    else if isLeftToRight c then
      label.all (fun c => isLeftToRight c || europeanDigits.has c || neutrals.has c || nonSpacing.has c)
        && last.any (fun c => isLeftToRight c || europeanDigits.has c)
    else false

/-! ### Labels -/

def punycodeMark : List Char := ['x', 'n', '-', '-']

def label? (cs : List Char) : Option (List Char) :=
  if punycodeMark.isPrefixOf cs then do
    let label ← Punycode.decode? (cs.drop punycodeMark.length)
    if label.any (128 ≤ ·.toNat) && mapped? label == some label && !label.contains '.' then some label
    else none
  else some cs

def isLabel (cs : List Char) : Bool :=
  !cs.any isForbidden && !cs.head?.any marks.has && joinersFit [] cs

def asciiLabel (cs : List Char) : List Char :=
  if cs.all (·.toNat < 128) then cs else punycodeMark ++ Punycode.encode cs

def ascii? (name : String) : Option String := do
  let cs ← mapped? name.toList
  let labels ← (cs.splitOn '.').mapM label?
  let fits := labels.all isLabel && (!labels.any isRightToLeft || labels.all directionsFit)
  if fits then return String.ofList (['.'].intercalate (labels.map asciiLabel)) else none

end ClusterTopology.Url.Domain
