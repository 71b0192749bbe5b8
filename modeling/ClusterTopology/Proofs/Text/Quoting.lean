import Mathlib.Algebra.GroupWithZero.Nat
import Mathlib.Data.List.Infix
import Mathlib.Tactic.Common
import ClusterTopology.Text.Quoted
import ClusterTopology.Text.Basic
/-!
What of a text stands in the form in which messages show it.

A message shows bytes as characters, and characters between quotes, where some of them become escapes.  A
long row of letters and digits that can be seen there has to come from somewhere: it stands in the bytes
themselves, or all but its first letter does, and that letter belongs to an escape in front of it.

The module goes from the outside inwards: what can be seen between the quotes, what of that is an escape,
and what of the rest are characters that bytes have become.  `Escaped` lists the forms in which a character
is shown, and `Lead.IsSound` says of the start of a character in UTF-8 that the bytes it asks for are not
ASCII, so a row of ASCII characters is never made of parts of others.  A row that belongs to no escape has
to be longer than any escape: hence the bound on the length of `w` in most statements.
-/

namespace ClusterTopology.Text

/-! ### Separators -/

section Separators

variable {α : Type} {w u v : List α} {c : α}

theorem not_prefix_cons (hc : c ∉ w) (hne : w ≠ []) : ¬ w <+: c :: v := by
  cases w with
  | nil => exact absurd rfl hne
  | cons x w =>
    rw [List.cons_prefix_cons]
    rintro ⟨rfl, -⟩
    exact hc List.mem_cons_self

/-- What does not hold a separator stands on one side of it. -/
theorem infix_append_cons_iff (hc : c ∉ w) (hne : w ≠ []) : w <:+: u ++ c :: v ↔ w <:+: u ∨ w <:+: v := by
  rw [List.infix_append_iff, List.infix_cons_iff]
  constructor
  · rintro (hu | (hstart | hv) | ⟨l, r, rfl, hl, hr⟩)
    · exact .inl hu
    · exact absurd hstart (not_prefix_cons hc hne)
    · exact .inr hv
    · -- nothing of it can be behind the separator, which it would hold
      cases r with
      | nil => exact .inl (by simpa using hl.isInfix)
      | cons x r => exact absurd hr (not_prefix_cons (fun h => hc (List.mem_append_right l h)) (by simp))
  · rintro (hu | hv)
    · exact .inl hu
    · exact .inr (.inl (.inr hv))

theorem infix_cons_iff_of_not_mem (hc : c ∉ w) (hne : w ≠ []) : w <:+: c :: v ↔ w <:+: v := by
  rw [List.infix_cons_iff]
  exact or_iff_right (not_prefix_cons hc hne)

end Separators

/-! ### Quotes -/

/-- A letter, a digit, a plus sign or a slash. -/
def isCode (c : Char) : Bool := c.isAlphanum || c == '+' || c == '/'

/-- How a character stands in a quoted text. -/
inductive Escaped (c : Char) : List Char → Prop where
  | shown : Escaped c [c]
  | letter (l : Char) : Escaped c ['\\', l]
  | number {digits : List Char} (h : digits.length ≤ 6) :
    Escaped c ('\\' :: 'u' :: '\x7b' :: (digits ++ ['\x7d']))

theorem isCode_iff {c : Char} : isCode c = true ↔
    65 ≤ c.toNat ∧ c.toNat ≤ 90 ∨ 97 ≤ c.toNat ∧ c.toNat ≤ 122 ∨ 48 ≤ c.toNat ∧ c.toNat ≤ 57 ∨
      c.toNat = 43 ∨ c.toNat = 47 := by
  have hplus : c = '+' ↔ c.toNat = 43 := Char.toNat_inj.symm
  have hslash : c = '/' ↔ c.toNat = 47 := Char.toNat_inj.symm
  have hupper : c.isUpper = true ↔ 65 ≤ c.toNat ∧ c.toNat ≤ 90 := by
    unfold Char.isUpper
    simp only [decide_eq_true_eq]
    rfl
  have hlower : c.isLower = true ↔ 97 ≤ c.toNat ∧ c.toNat ≤ 122 := by
    unfold Char.isLower
    simp only [Bool.and_eq_true, decide_eq_true_eq]
    rfl
  have hdigit : c.isDigit = true ↔ 48 ≤ c.toNat ∧ c.toNat ≤ 57 := Char.isDigit_iff_toNat
  unfold isCode Char.isAlphanum Char.isAlpha
  simp only [Bool.or_eq_true, beq_iff_eq, hplus, hslash, hupper, hlower, hdigit, or_assoc]

theorem escaped_escape (c : Char) : Escaped c (escape c) := by
  have hlength : (hexText c.toNat).toList.length ≤ 6 := by
    have hlt : c.toNat < 1114112 := by
      have hvalid := c.valid
      change c.toNat.isValidChar at hvalid
      rcases hvalid with h | h <;> omega
    rw [hexText, String.toList_ofList, Nat.length_toDigits_le_iff (by decide) (by decide)]
    omega
  unfold escape
  repeat' split
  · exact .letter _
  · exact .letter _
  · exact .letter _
  · exact .letter _
  · exact .letter _
  · exact .letter _
  · exact .shown
  · exact .number hlength

theorem escape_of_isCode {c : Char} (h : isCode c = true) : escape c = [c] := by
  have hbounds := isCode_iff.mp h
  have hne {d : Char} (hd : isCode d = false) : c ≠ d := by
    rintro rfl
    rw [h] at hd
    cases hd
  have hshown : isShown c = true := by
    have hlt : c.toNat < 128 := by omega
    simp only [isShown, hlt, if_true, Bool.and_eq_true, decide_eq_true_eq, bne_iff_ne]
    omega
  rw [escape, if_neg (hne (by decide)), if_neg (hne (by decide)), if_neg (hne (by decide)),
    if_neg (hne (by decide)), if_neg (hne (by decide)), if_neg (hne (by decide)), if_pos hshown]

section Quotes

variable {w s : List Char} {c : Char}

theorem not_mem_of_not_isCode (hw : ∀ c ∈ w, isCode c = true) (hc : isCode c = false) : c ∉ w := by
  intro hmem
  rw [hw c hmem] at hc
  cases hc

theorem exists_escape_of_not_isCode (hc : isCode c = false) :
    ∃ d rest, escape c = d :: rest ∧ isCode d = false := by
  have h := escaped_escape c
  generalize escape c = shown at h
  cases h with
  | shown => exact ⟨c, [], rfl, hc⟩
  | letter l => exact ⟨_, _, rfl, by decide⟩
  | number _ => exact ⟨_, _, rfl, by decide⟩

theorem prefix_flatMap_escape_iff (hw : ∀ c ∈ w, isCode c = true) : w <+: s.flatMap escape ↔ w <+: s := by
  induction s generalizing w with
  | nil => rfl
  | cons c s ih =>
    rw [List.flatMap_cons]
    cases w with
    | nil => simp
    | cons x w =>
      by_cases hc : isCode c = true
      · rw [escape_of_isCode hc, List.singleton_append, List.cons_prefix_cons, List.cons_prefix_cons,
          ih fun d hd => hw d (List.mem_cons_of_mem x hd)]
      · have hc : isCode c = false := by simpa using hc
        obtain ⟨d, rest, hescape, hd⟩ := exists_escape_of_not_isCode hc
        rw [hescape, List.cons_append]
        exact iff_of_false (not_prefix_cons (not_mem_of_not_isCode hw hd) (List.cons_ne_nil x w))
          (not_prefix_cons (not_mem_of_not_isCode hw hc) (List.cons_ne_nil x w))

/-- A row stands in a text behind a character whose escape ends in the first letter of it. -/
def BehindEscape (w s : List Char) : Prop :=
  ∃ c l rest, w = l :: rest ∧ escape c = ['\\', l] ∧ c :: rest <:+: s

theorem behindEscape_cons_iff : BehindEscape w (c :: s) ↔
    (∃ l rest, w = l :: rest ∧ escape c = ['\\', l] ∧ rest <+: s) ∨ BehindEscape w s := by
  constructor
  · rintro ⟨d, l, rest, hw, hescape, hinside⟩
    rcases List.infix_cons_iff.mp hinside with hstart | hinside
    · obtain ⟨rfl, hrest⟩ := List.cons_prefix_cons.mp hstart
      exact .inl ⟨l, rest, hw, hescape, hrest⟩
    · exact .inr ⟨d, l, rest, hw, hescape, hinside⟩
  · rintro (⟨l, rest, hw, hescape, hstart⟩ | ⟨d, l, rest, hw, hescape, hinside⟩)
    · exact ⟨c, l, rest, hw, hescape, (List.cons_prefix_cons.mpr ⟨rfl, hstart⟩).isInfix⟩
    · exact ⟨d, l, rest, hw, hescape, List.infix_cons_iff.mpr (.inr hinside)⟩

theorem prefix_letter_iff (hw : ∀ c ∈ w, isCode c = true) (hne : w ≠ []) (l : Char) :
    w <+: l :: s.flatMap escape ↔ ∃ l' rest, w = l' :: rest ∧ ['\\', l] = ['\\', l'] ∧ rest <+: s := by
  cases w with
  | nil => exact absurd rfl hne
  | cons x w =>
    have hrest := prefix_flatMap_escape_iff (s := s) fun d hd => hw d (List.mem_cons_of_mem x hd)
    rw [List.cons_prefix_cons, hrest]
    constructor
    · rintro ⟨rfl, hstart⟩
      exact ⟨x, w, rfl, rfl, hstart⟩
    · rintro ⟨_, _, ⟨⟩, ⟨⟩, hstart⟩
      exact ⟨rfl, hstart⟩

/-- A long row has no part in an escape that spells a number. -/
theorem infix_number_iff (hw : ∀ c ∈ w, isCode c = true) (hlength : 6 < w.length) (hne : w ≠ [])
    {digits v : List Char} (hdigits : digits.length ≤ 6) :
    w <:+: '\\' :: 'u' :: '\x7b' :: (digits ++ ['\x7d']) ++ v ↔ w <:+: v := by
  have hbackslash : '\\' ∉ w := not_mem_of_not_isCode hw (by decide)
  have hbrace : '\x7b' ∉ w := not_mem_of_not_isCode hw (by decide)
  have hclose : '\x7d' ∉ w := not_mem_of_not_isCode hw (by decide)
  have hfirst : ¬ w <:+: ['u'] := fun h => by
    have hle := h.length_le
    simp at hle
    omega
  have hnumber : ¬ w <:+: digits := fun h => by
    have hle := h.length_le
    omega
  have hparts : '\\' :: 'u' :: '\x7b' :: (digits ++ ['\x7d']) ++ v =
      '\\' :: (['u'] ++ '\x7b' :: (digits ++ '\x7d' :: v)) := by simp
  rw [hparts, infix_cons_iff_of_not_mem hbackslash hne, infix_append_cons_iff hbrace hne,
    infix_append_cons_iff hclose hne, or_iff_right hfirst, or_iff_right hnumber]

/-- **A long row of letters and digits that can be seen in a quoted text** stands in the text itself, or
behind something whose escape ends in the first letter of it. -/
theorem infix_flatMap_escape_iff (hw : ∀ c ∈ w, isCode c = true) (hlength : 6 < w.length) :
    w <:+: s.flatMap escape ↔ w <:+: s ∨ BehindEscape w s := by
  have hne : w ≠ [] := by
    rintro rfl
    simp at hlength
  have hbackslash : '\\' ∉ w := not_mem_of_not_isCode hw (by decide)
  induction s with
  | nil =>
    have hnot : ¬ BehindEscape w [] := by
      rintro ⟨c, l, rest, -, -, hinside⟩
      simp at hinside
    simp [hne, hnot]
  | cons c s ih =>
    have hescaped := escaped_escape c
    rw [behindEscape_cons_iff, List.flatMap_cons]
    by_cases hc : isCode c = true
    · have hshown := escape_of_isCode hc
      have hstart := prefix_flatMap_escape_iff (s := c :: s) hw
      rw [List.flatMap_cons, hshown, List.singleton_append] at hstart
      simp only [hshown, List.singleton_append, List.infix_cons_iff, hstart, ih]
      simp [or_assoc]
    · have hmem : c ∉ w := not_mem_of_not_isCode hw (by simpa using hc)
      rw [infix_cons_iff_of_not_mem hmem hne]
      generalize escape c = shown at hescaped ⊢
      cases hescaped with
      | shown => simp [infix_cons_iff_of_not_mem hmem hne, ih]
      | letter l =>
        rw [List.cons_append, List.singleton_append, infix_cons_iff_of_not_mem hbackslash hne,
          List.infix_cons_iff, prefix_letter_iff hw hne]
        exact (or_congr_right ih).trans or_left_comm
      | @number digits hdigits =>
        rw [infix_number_iff hw hlength hne hdigits]
        simp [ih]

end Quotes

/-! ### Characters -/

def asciiChars (bs : List UInt8) : List Char := bs.map fun b => Char.ofNat b.toNat

/-- Whatever comes in the bounds of a lead and behind, the character is not an ASCII one. -/
structure Lead.IsSound (l : Lead) : Prop where
  following_pos : 0 < l.following
  low_ge : 0x80 ≤ l.low.toNat
  high_le : l.high.toNat ≤ 0xBF
  value_ge : 0x80 ≤ (l.bits * 64 + (l.low.toNat - 0x80)) * 64 ^ (l.following - 1)
  value_valid : (l.bits * 64 + (l.high.toNat - 0x80) + 1) * 64 ^ (l.following - 1) ≤ 0xD800 ∨
    0xE000 ≤ (l.bits * 64 + (l.low.toNat - 0x80)) * 64 ^ (l.following - 1) ∧
      (l.bits * 64 + (l.high.toNat - 0x80) + 1) * 64 ^ (l.following - 1) ≤ 0x110000

theorem Lead.isSound_of_ofByte? {b : UInt8} {l : Lead} (h : Lead.ofByte? b = some l) : l.IsSound := by
  unfold ofByte? at h
  simp only at h
  split_ifs at h with h1 h2 h3 h4 h5 h6 h7
  all_goals
    obtain rfl := Option.some.inj h
    simp only [Bool.and_eq_true, decide_eq_true_eq, beq_iff_eq] at *
    constructor <;> simp <;> omega

section Characters

variable {b : UInt8} {l : Lead} {bs w : List UInt8}

theorem toNat_ofNat_of_valid {n : Nat} (h : n.isValidChar) : (Char.ofNat n).toNat = n := by
  rw [Char.ofNat, dif_pos h]
  rfl

theorem toNat_ofNat_of_ascii (hb : b < 0x80) : (Char.ofNat b.toNat).toNat = b.toNat := by
  have hlt : b.toNat < 128 := hb
  exact toNat_ofNat_of_valid (.inl (by omega))

theorem ofNat_inj_of_ascii {c : UInt8} (hb : b < 0x80) (hc : c < 0x80) :
    Char.ofNat b.toNat = Char.ofNat c.toNat ↔ b = c := by
  rw [← Char.toNat_inj, toNat_ofNat_of_ascii hb, toNat_ofNat_of_ascii hc, UInt8.toNat_inj]

theorem Lead.IsSound.last (h : l.IsSound) (hlow : l.low ≤ b) (hhigh : b ≤ l.high) (hone : l.following = 1) :
    0x80 ≤ (Char.ofNat (l.bits * 64 + (b.toNat - 0x80))).toNat := by
  obtain ⟨-, hlow_ge, -, hvalue, hvalid⟩ := h
  have hlow : l.low.toNat ≤ b.toNat := hlow
  have hhigh : b.toNat ≤ l.high.toNat := hhigh
  simp only [hone, Nat.sub_self, Nat.pow_zero, Nat.mul_one] at hvalue hvalid
  have hchar : (l.bits * 64 + (b.toNat - 0x80)).isValidChar := by
    rcases hvalid with hbelow | ⟨habove, hbound⟩
    · exact .inl (by omega)
    · exact .inr ⟨by omega, by omega⟩
  rw [toNat_ofNat_of_valid hchar]
  omega

theorem Lead.IsSound.next (h : l.IsSound) (hlow : l.low ≤ b) (hhigh : b ≤ l.high) {n : Nat}
    (hmore : l.following = n + 2) :
    Lead.IsSound ⟨n + 1, l.bits * 64 + (b.toNat - 0x80), 0x80, 0xBF⟩ := by
  obtain ⟨-, hlow_ge, -, hvalue, hvalid⟩ := h
  have hlow : l.low.toNat ≤ b.toNat := hlow
  have hhigh : b.toNat ≤ l.high.toNat := hhigh
  have hpow : 64 ^ (l.following - 1) = 64 * 64 ^ n := by
    rw [hmore, Nat.add_sub_assoc (by decide), Nat.pow_succ, Nat.mul_comm]
  rw [hpow] at hvalue hvalid
  have hge : (l.bits * 64 + (l.low.toNat - 0x80)) * (64 * 64 ^ n) ≤
      ((l.bits * 64 + (b.toNat - 0x80)) * 64 + 0) * 64 ^ n := by
    rw [← Nat.mul_assoc]
    apply Nat.mul_le_mul_right
    omega
  have hle : ((l.bits * 64 + (b.toNat - 0x80)) * 64 + 63 + 1) * 64 ^ n ≤
      (l.bits * 64 + (l.high.toNat - 0x80) + 1) * (64 * 64 ^ n) := by
    rw [← Nat.mul_assoc]
    apply Nat.mul_le_mul_right
    omega
  constructor
  case following_pos => exact Nat.succ_pos n
  case low_ge => exact Nat.le_refl 128
  case high_le => exact Nat.le_refl 191
  all_goals simp only [Nat.add_sub_cancel, UInt8.reduceToNat, Nat.reduceSub]
  case value_ge => exact Nat.le_trans hvalue hge
  case value_valid =>
    exact hvalid.imp (Nat.le_trans hle) (And.imp (fun habove => Nat.le_trans habove hge) (Nat.le_trans hle))

theorem not_mem_asciiChars (hw : ∀ b ∈ w, b < 0x80) {c : Char} (hc : 0x80 ≤ c.toNat) :
    c ∉ asciiChars w := by
  rw [asciiChars, List.mem_map]
  rintro ⟨b, hb, rfl⟩
  have hlt : b.toNat < 128 := hw b hb
  rw [toNat_ofNat_of_ascii (hw b hb)] at hc
  omega

theorem toNat_replacement : 0x80 ≤ replacement.toNat := by decide

/-! The two states of reading, each with what it does at a byte. -/

theorem lossyChars_of_ascii (hb : b < 0x80) :
    lossyChars none (b :: bs) = Char.ofNat b.toNat :: lossyChars none bs := by
  rw [lossyChars, lossyChars.fresh, if_pos hb]

theorem lossyChars_of_lead (hb : ¬ b < 0x80) (hl : Lead.ofByte? b = some l) :
    lossyChars none (b :: bs) = lossyChars (some l) bs := by
  rw [lossyChars, lossyChars.fresh, if_neg hb, hl]

theorem lossyChars_of_stray (hb : ¬ b < 0x80) (hl : Lead.ofByte? b = none) :
    lossyChars none (b :: bs) = replacement :: lossyChars none bs := by
  rw [lossyChars, lossyChars.fresh, if_neg hb, hl]

theorem lossyChars_of_last (hlow : l.low ≤ b) (hhigh : b ≤ l.high) (hone : l.following = 1) :
    lossyChars (some l) (b :: bs) = Char.ofNat (l.bits * 64 + (b.toNat - 0x80)) :: lossyChars none bs := by
  rw [lossyChars, if_pos (by simp [hlow, hhigh])]
  simp only [hone]

theorem lossyChars_of_next (hlow : l.low ≤ b) (hhigh : b ≤ l.high) {n : Nat} (hmore : l.following = n + 2) :
    lossyChars (some l) (b :: bs) =
      lossyChars (some ⟨n + 1, l.bits * 64 + (b.toNat - 0x80), 0x80, 0xBF⟩) bs := by
  rw [lossyChars, if_pos (by simp [hlow, hhigh])]
  simp only [hmore]

theorem lossyChars_of_broken (h : ¬ (l.low ≤ b ∧ b ≤ l.high)) :
    lossyChars (some l) (b :: bs) = replacement :: lossyChars none (b :: bs) := by
  have hread : lossyChars none (b :: bs) = lossyChars.fresh b bs := by rw [lossyChars]
  rw [hread, lossyChars, if_neg (by simpa using h)]

theorem lossyChars_eq_asciiChars (h : ∀ b ∈ bs, b < 0x80) : lossyChars none bs = asciiChars bs := by
  induction bs with
  | nil => rw [lossyChars, asciiChars, List.map_nil]
  | cons b bs ih =>
    rw [lossyChars_of_ascii (h b List.mem_cons_self), ih fun c hc => h c (List.mem_cons_of_mem b hc),
      asciiChars, asciiChars, List.map_cons]

/-- What is read of a character that has begun is not ASCII. -/
theorem Lead.IsSound.exists_cons (h : l.IsSound) (bs : List UInt8) :
    ∃ c rest, lossyChars (some l) bs = c :: rest ∧ 0x80 ≤ c.toNat := by
  induction bs generalizing l with
  | nil => exact ⟨replacement, [], by rw [lossyChars], toNat_replacement⟩
  | cons b bs ih =>
    by_cases hrange : l.low ≤ b ∧ b ≤ l.high
    · obtain ⟨hlow, hhigh⟩ := hrange
      rcases Nat.exists_eq_add_one.mpr h.following_pos with ⟨_ | n, hfollowing⟩
      · exact ⟨_, _, lossyChars_of_last hlow hhigh hfollowing, h.last hlow hhigh hfollowing⟩
      · obtain ⟨c, rest, hread, hc⟩ := ih (h.next hlow hhigh hfollowing)
        exact ⟨c, rest, (lossyChars_of_next hlow hhigh hfollowing).trans hread, hc⟩
    · exact ⟨_, _, lossyChars_of_broken hrange, toNat_replacement⟩

theorem prefix_lossyChars_iff (hw : ∀ b ∈ w, b < 0x80) :
    asciiChars w <+: lossyChars none bs ↔ w <+: bs := by
  induction bs generalizing w with
  | nil => simp [lossyChars, asciiChars]
  | cons b bs ih =>
    cases w with
    | nil => simp [asciiChars]
    | cons x w =>
      have hx : x < 0x80 := hw x List.mem_cons_self
      by_cases hb : b < 0x80
      · rw [lossyChars_of_ascii hb, asciiChars, List.map_cons, List.cons_prefix_cons, List.cons_prefix_cons,
          ofNat_inj_of_ascii hx hb, ← asciiChars, ih fun y hy => hw y (List.mem_cons_of_mem x hy)]
      · have hne : asciiChars (x :: w) ≠ [] := by simp [asciiChars]
        have hother : ¬ asciiChars (x :: w) <+: lossyChars none (b :: bs) := by
          cases hl : Lead.ofByte? b with
          | none =>
            rw [lossyChars_of_stray hb hl]
            exact not_prefix_cons (not_mem_asciiChars hw toNat_replacement) hne
          | some l =>
            obtain ⟨c, rest, hread, hc⟩ := (Lead.isSound_of_ofByte? hl).exists_cons bs
            rw [lossyChars_of_lead hb hl, hread]
            exact not_prefix_cons (not_mem_asciiChars hw hc) hne
        refine iff_of_false hother (not_prefix_cons ?_ (List.cons_ne_nil x w))
        exact fun hmem => hb (hw b hmem)

/-- **A row of ASCII bytes stands in bytes exactly when it can be seen in their text**, whatever has begun
before. -/
theorem infix_lossyChars (hw : ∀ b ∈ w, b < 0x80) (hne : w ≠ []) (bs : List UInt8) :
    (asciiChars w <:+: lossyChars none bs ↔ w <:+: bs) ∧
      ∀ l : Lead, l.IsSound → (asciiChars w <:+: lossyChars (some l) bs ↔ w <:+: bs) := by
  have hchars : asciiChars w ≠ [] := by simpa [asciiChars] using hne
  have hdrop {c : Char} (hc : 0x80 ≤ c.toNat) (cs : List Char) :
      asciiChars w <:+: c :: cs ↔ asciiChars w <:+: cs :=
    infix_cons_iff_of_not_mem (not_mem_asciiChars hw hc) hchars
  induction bs with
  | nil =>
    refine ⟨by simp [lossyChars, asciiChars], fun l _ => ?_⟩
    rw [lossyChars, hdrop toNat_replacement]
    simp [asciiChars]
  | cons b bs ih =>
    have hfresh : asciiChars w <:+: lossyChars none (b :: bs) ↔ w <:+: b :: bs := by
      by_cases hb : b < 0x80
      · have hstart : asciiChars w <+: lossyChars none (b :: bs) ↔ w <+: b :: bs := prefix_lossyChars_iff hw
        rw [lossyChars_of_ascii hb] at hstart ⊢
        rw [List.infix_cons_iff, List.infix_cons_iff, hstart, ih.1]
      · rw [infix_cons_iff_of_not_mem (fun hmem => hb (hw b hmem)) hne]
        cases hl : Lead.ofByte? b with
        | none => rw [lossyChars_of_stray hb hl, hdrop toNat_replacement, ih.1]
        | some l => rw [lossyChars_of_lead hb hl, ih.2 l (Lead.isSound_of_ofByte? hl)]
    refine ⟨hfresh, fun l h => ?_⟩
    by_cases hrange : l.low ≤ b ∧ b ≤ l.high
    · obtain ⟨hlow, hhigh⟩ := hrange
      have hb : ¬ b < 0x80 := UInt8.not_lt.mpr (UInt8.le_trans h.low_ge hlow)
      rw [infix_cons_iff_of_not_mem (fun hmem => hb (hw b hmem)) hne]
      rcases Nat.exists_eq_add_one.mpr h.following_pos with ⟨_ | n, hfollowing⟩
      · rw [lossyChars_of_last hlow hhigh hfollowing, hdrop (h.last hlow hhigh hfollowing), ih.1]
      · rw [lossyChars_of_next hlow hhigh hfollowing, ih.2 _ (h.next hlow hhigh hfollowing)]
    · rw [lossyChars_of_broken hrange, hdrop toNat_replacement, hfresh]

end Characters

/-! ### Bytes between quotes -/

/-- A row of bytes shows in the quoted text of bytes: it stands there, or all of it but the first byte stands
behind a byte whose escape ends in that. -/
inductive Shows (bs : List UInt8) : List UInt8 → Prop where
  | plain {w : List UInt8} (h : w <:+: bs) : Shows bs w
  | escaped {b l : UInt8} {rest : List UInt8} (hb : b < 0x80)
      (hescape : escape (Char.ofNat b.toNat) = ['\\', Char.ofNat l.toNat]) (h : b :: rest <:+: bs) :
      Shows bs (l :: rest)

theorem lt_of_isCode {b : UInt8} (h : isCode (Char.ofNat b.toNat) = true) : b < 0x80 := by
  have hlt := b.toNat_lt
  have hbounds := isCode_iff.mp h
  rw [toNat_ofNat_of_valid (.inl (by omega))] at hbounds
  change b.toNat < 128
  omega

/-- What has an escape of two characters is ASCII. -/
theorem toNat_lt_of_escape {c l : Char} (h : escape c = ['\\', l]) : c.toNat < 128 := by
  by_contra hge
  have hne {d : Char} (hd : d.toNat < 128) : c ≠ d := by
    rintro rfl
    exact hge hd
  rw [escape, if_neg (hne (by decide)), if_neg (hne (by decide)), if_neg (hne (by decide)),
    if_neg (hne (by decide)), if_neg (hne (by decide)), if_neg (hne (by decide))] at h
  split at h
  · cases h
  · simp at h

theorem exists_byte_of_escape {c l : Char} (h : escape c = ['\\', l]) :
    ∃ b : UInt8, b < 0x80 ∧ Char.ofNat b.toNat = c := by
  have hlt := toNat_lt_of_escape h
  have hbyte : (UInt8.ofNat c.toNat).toNat = c.toNat :=
    UInt8.toNat_ofNat_of_lt' (Nat.lt_trans hlt (by decide))
  refine ⟨UInt8.ofNat c.toNat, ?_, by rw [hbyte, Char.ofNat_toNat]⟩
  change (UInt8.ofNat c.toNat).toNat < 128
  rw [hbyte]
  exact hlt

variable {w bs : List UInt8}

theorem infix_quoted_iff (hw : ∀ b ∈ w, isCode (Char.ofNat b.toNat) = true) (hlength : 6 < w.length) :
    asciiChars w <:+: (quoted (lossyText bs)).toList ↔ Shows bs w := by
  have hascii : ∀ b ∈ w, b < 0x80 := fun b hb => lt_of_isCode (hw b hb)
  have hchars : ∀ c ∈ asciiChars w, isCode c = true := by
    intro c hc
    obtain ⟨b, hb, rfl⟩ := List.mem_map.mp hc
    exact hw b hb
  have hw_ne : w ≠ [] := by
    rintro rfl
    simp at hlength
  have hne : asciiChars w ≠ [] := by simpa [asciiChars] using hw_ne
  have hquote : '"' ∉ asciiChars w := not_mem_of_not_isCode hchars (by decide)
  have hseen := (infix_lossyChars hascii hw_ne bs).1
  rw [quoted, String.toList_ofList, List.cons_append, infix_cons_iff_of_not_mem hquote hne,
    infix_append_cons_iff hquote hne, lossyText, String.toList_ofList,
    infix_flatMap_escape_iff hchars (by simpa [asciiChars] using hlength), hseen,
    or_iff_left (by simpa using hne)]
  constructor
  · rintro (hplain | ⟨c, l, rest, heq, hescape, hinside⟩)
    · exact .plain hplain
    · cases w with
      | nil => exact absurd rfl hw_ne
      | cons x w =>
        obtain ⟨rfl, rfl⟩ := List.cons.inj heq
        obtain ⟨b, hb, rfl⟩ := exists_byte_of_escape hescape
        have hrow : ∀ y ∈ b :: w, y < 0x80 :=
          List.forall_mem_cons.mpr ⟨hb, fun y hmem => hascii y (List.mem_cons_of_mem x hmem)⟩
        exact .escaped hb hescape ((infix_lossyChars hrow (List.cons_ne_nil b w) bs).1.mp hinside)
  · intro hshows
    cases hshows with
    | plain h => exact .inl h
    | @escaped b l rest hb hescape hbehind =>
      refine .inr ⟨_, _, _, rfl, hescape, ?_⟩
      have hrow : ∀ x ∈ b :: rest, x < 0x80 :=
        List.forall_mem_cons.mpr ⟨hb, fun x hmem => hascii x (List.mem_cons_of_mem l hmem)⟩
      exact (infix_lossyChars hrow (List.cons_ne_nil _ _) bs).1.mpr hbehind

end ClusterTopology.Text
