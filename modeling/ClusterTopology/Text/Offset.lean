/-!
Places in a text, counted in bytes of UTF-8.

A text can be cut at its start, at its end and between two characters, and nowhere else: an offset beyond
the end or inside a character is no place, and what would be cut there is not there.

`splitAt?` cuts a text in two at an offset, and all other ways of cutting and replacing are made of it.  What
they give is said of texts that are written as parts one behind the other, as in `slice?_append` and
`replaceRange?_append`, so that a proof about edits never counts bytes.

`find?` gives the offset of the first place where a pattern stands.  `SplitsAtFirst` says the same without
offsets: the pattern stands between what is before and what is behind, and no earlier.  `find?_of_splits`
ties the two together, and `exists_splits` gives such a place for every pattern that stands anywhere.
-/

namespace ClusterTopology.Text

/-! ### Cutting -/

def byteLength : List Char → Nat
  | [] => 0
  | c :: cs => c.utf8Size + byteLength cs

@[simp] theorem byteLength_nil : byteLength [] = 0 := rfl

@[simp] theorem byteLength_cons (c : Char) (cs : List Char) :
    byteLength (c :: cs) = c.utf8Size + byteLength cs := rfl

@[simp] theorem byteLength_append (a b : List Char) :
    byteLength (a ++ b) = byteLength a + byteLength b := by
  induction a with
  | nil => simp
  | cons c a ih => simp [ih, Nat.add_assoc]

/-- What stands before an offset and what stands from there on. -/
def splitAt? : List Char → Nat → Option (List Char × List Char)
  | cs, 0 => some ([], cs)
  | [], _ + 1 => none
  | c :: cs, n + 1 =>
    if c.utf8Size ≤ n + 1 then (splitAt? cs (n + 1 - c.utf8Size)).map fun p => (c :: p.1, p.2)
    else none

/-- **A text can be cut where a part of it ends,** and only there. -/
theorem splitAt?_eq_some_iff {s a b : List Char} {n : Nat} :
    splitAt? s n = some (a, b) ↔ s = a ++ b ∧ byteLength a = n := by
  induction s generalizing a b n with
  | nil =>
    cases n with
    | zero => cases a <;> simp [splitAt?, eq_comm]
    | succ n => cases a <;> simp [splitAt?]
  | cons c s ih =>
    have hsize := c.utf8Size_pos
    cases n with
    | zero =>
      cases a with
      | nil => simp [splitAt?, eq_comm]
      | cons d a =>
        have hd := d.utf8Size_pos
        simp only [splitAt?, Option.some.injEq, Prod.mk.injEq, byteLength_cons]
        constructor
        · rintro ⟨⟨⟩, -⟩
        · omega
    | succ n =>
      cases a with
      | nil =>
        simp only [splitAt?, byteLength_nil]
        constructor
        · split <;> simp
        · omega
      | cons d a =>
        simp only [splitAt?, List.cons_append, List.cons.injEq, byteLength_cons]
        split
        next hle =>
          simp only [Option.map_eq_some_iff, Prod.mk.injEq, List.cons.injEq, Prod.exists]
          constructor
          · rintro ⟨a', b', hsplit, ⟨rfl, rfl⟩, rfl⟩
            obtain ⟨hs, hlength⟩ := ih.1 hsplit
            exact ⟨⟨rfl, hs⟩, by omega⟩
          · rintro ⟨⟨rfl, hs⟩, hlength⟩
            exact ⟨a, b, ih.2 ⟨hs, by omega⟩, ⟨rfl, rfl⟩, rfl⟩
        next hgt =>
          simp only [reduceCtorEq, false_iff]
          rintro ⟨⟨rfl, -⟩, hlength⟩
          omega

def sliceFrom? (s : List Char) (start : Nat) : Option (List Char) :=
  (splitAt? s start).map (·.2)

def sliceTo? (s : List Char) (stop : Nat) : Option (List Char) :=
  (splitAt? s stop).map (·.1)

def slice? (s : List Char) (start stop : Nat) : Option (List Char) := do
  let front ← sliceTo? s stop
  sliceFrom? front start

def replaceRange? (s : List Char) (start stop : Nat) (new : List Char) : Option (List Char) :=
  if start ≤ stop then do
    let front ← sliceTo? s start
    let back ← sliceFrom? s stop
    return front ++ new ++ back
  else none

theorem sliceFrom?_eq_some_iff {s b : List Char} {n : Nat} :
    sliceFrom? s n = some b ↔ ∃ a, s = a ++ b ∧ byteLength a = n := by
  simp [sliceFrom?, splitAt?_eq_some_iff]

theorem sliceTo?_eq_some_iff {s a : List Char} {n : Nat} :
    sliceTo? s n = some a ↔ ∃ b, s = a ++ b ∧ byteLength a = n := by
  simp [sliceTo?, splitAt?_eq_some_iff]

theorem slice?_append (a b c : List Char) :
    slice? (a ++ b ++ c) (byteLength a) (byteLength (a ++ b)) = some b := by
  have hto : sliceTo? (a ++ b ++ c) (byteLength (a ++ b)) = some (a ++ b) :=
    sliceTo?_eq_some_iff.2 ⟨c, rfl, rfl⟩
  simp only [slice?, hto, Option.bind_eq_bind, Option.bind_some]
  exact sliceFrom?_eq_some_iff.2 ⟨a, rfl, rfl⟩

theorem replaceRange?_append (a b c new : List Char) :
    replaceRange? (a ++ b ++ c) (byteLength a) (byteLength (a ++ b)) new = some (a ++ new ++ c) := by
  have hto : sliceTo? (a ++ b ++ c) (byteLength a) = some a :=
    sliceTo?_eq_some_iff.2 ⟨b ++ c, by simp, rfl⟩
  have hfrom : sliceFrom? (a ++ b ++ c) (byteLength (a ++ b)) = some c :=
    sliceFrom?_eq_some_iff.2 ⟨a ++ b, rfl, rfl⟩
  have hle : byteLength a ≤ byteLength (a ++ b) := by simp
  rw [replaceRange?, if_pos hle, hto, hfrom]
  rfl

/-- What a replacement takes away lies within the text, and what it puts there comes on top. -/
theorem byteLength_of_replaceRange? {s t new : List Char} {start stop : Nat}
    (h : replaceRange? s start stop new = some t) :
    stop ≤ byteLength s ∧ byteLength t + stop = start + byteLength new + byteLength s := by
  unfold replaceRange? at h
  split at h
  next hle =>
    simp only [Option.bind_eq_bind, Option.bind_eq_some_iff, Option.pure_def, Option.some.injEq] at h
    obtain ⟨front, hfront, back, hback, rfl⟩ := h
    obtain ⟨-, -, rfl⟩ := sliceTo?_eq_some_iff.1 hfront
    obtain ⟨before, rfl, rfl⟩ := sliceFrom?_eq_some_iff.1 hback
    simp only [byteLength_append]
    omega
  next => cases h

/-! ### Finding -/

/-- The parts of a text before and behind the first place where a pattern occurs in it. -/
structure SplitsAtFirst (pat s before behind : List Char) : Prop where
  eq : s = before ++ pat ++ behind
  first : ∀ a b, s = a ++ pat ++ b → before.length ≤ a.length

namespace SplitsAtFirst

variable {pat s before behind : List Char} {c : Char}

/-- A pattern does not stand where nothing has been passed over yet. -/
theorem not_isPrefix (h : SplitsAtFirst pat s (c :: before) behind) : ¬ pat <+: s := by
  rintro ⟨b, hb⟩
  have := h.first [] b (by simpa using hb.symm)
  simp at this

/-- A first place stays the first when a character before it is taken away. -/
theorem tail (h : SplitsAtFirst pat (c :: s) (c :: before) behind) :
    SplitsAtFirst pat s before behind := by
  refine ⟨by simpa using h.eq, fun a b hab => ?_⟩
  simpa using h.first (c :: a) b (by simp [hab])

end SplitsAtFirst

/-- The offset of the first place where a pattern occurs. -/
def find? (pat : List Char) : List Char → Option Nat
  | [] => if pat = [] then some 0 else none
  | c :: cs => if pat.isPrefixOf (c :: cs) then some 0 else (find? pat cs).map (c.utf8Size + ·)

theorem find?_of_not_isInfix {pat s : List Char} (h : ¬ pat <:+: s) : find? pat s = none := by
  induction s with
  | nil =>
    have hne : pat ≠ [] := fun hnil => h (hnil ▸ List.nil_infix)
    simp [find?, hne]
  | cons c s ih =>
    have hstarts : ¬ pat <+: c :: s := fun hp => h hp.isInfix
    have hrest : ¬ pat <:+: s := fun hi => h (hi.trans (List.suffix_cons c s).isInfix)
    simp [find?, List.isPrefixOf_iff_prefix, hstarts, ih hrest]

/-- **The first place is found.** -/
theorem find?_of_splits {pat s before behind : List Char} (h : SplitsAtFirst pat s before behind) :
    find? pat s = some (byteLength before) := by
  induction before generalizing s with
  | nil =>
    cases s with
    | nil =>
      have hnil : pat = [] := (List.append_eq_nil_iff.1 h.eq.symm).1
      simp [find?, hnil]
    | cons c s =>
      have hstarts : pat <+: c :: s := ⟨behind, by simpa using h.eq.symm⟩
      simp [find?, List.isPrefixOf_iff_prefix, hstarts]
  | cons c before ih =>
    obtain rfl : s = c :: (before ++ pat ++ behind) := h.eq
    rw [find?, if_neg (by simpa only [List.isPrefixOf_iff_prefix] using h.not_isPrefix), ih h.tail]
    simp

/-- A pattern that occurs has a first place. -/
theorem exists_splits {pat s : List Char} (h : pat <:+: s) :
    ∃ before behind, SplitsAtFirst pat s before behind := by
  induction s with
  | nil =>
    obtain rfl : pat = [] := List.infix_nil.1 h
    exact ⟨[], [], rfl, fun _ _ _ => Nat.zero_le _⟩
  | cons c s ih =>
    by_cases hstarts : pat <+: c :: s
    · obtain ⟨behind, hbehind⟩ := hstarts
      exact ⟨[], behind, by simpa using hbehind.symm, fun _ _ _ => Nat.zero_le _⟩
    · obtain ⟨before, behind, rfl, hfirst⟩ :=
        ih ((List.infix_cons_iff.1 h).resolve_left hstarts)
      refine ⟨c :: before, behind, rfl, fun a b hab => ?_⟩
      cases a with
      | nil => exact absurd ⟨b, by simpa using hab.symm⟩ hstarts
      | cons d a =>
        simp only [List.cons_append, List.cons.injEq] at hab
        exact Nat.succ_le_succ (hfirst a b hab.2)

end ClusterTopology.Text
