import Mathlib.Data.List.DropRight
import Mathlib.Data.String.Basic
import Mathlib.Tactic.Common
import ClusterTopology.Text.Basic
/-!
What trimming leaves, what numerals denote, and how texts compare by their bytes.

A text is trimmed by two drops, one at its start and one at its end, and the characters that go may be
different ones at the two ends.  `Strips` says it the other way round: the text is something that may go, what
is left, and something that may go again, and what is left neither begins nor ends with anything that may.
The drop at the end is `List.rdropWhile`, and what it drops is `List.rtakeWhile`.

`IsNumeral` and `IsInteger` say which texts denote a number, and the readers of numerals take exactly those.  A
number that is written is a numeral of it.

Texts are compared here character by character, and elsewhere as the bytes that encode them.  The two orders
are one: the bytes of a character tell it from every other at the first place where they differ, and there
the lower character has the lower byte (`utf8Bytes_lt_iff`).
-/

/-! ## Trimming -/

namespace ClusterTopology.Text

theorem rdropWhile_append_of_all {α : Type} {p : α → Bool} (l : List α) {r : List α}
    (h : ∀ a ∈ r, p a = true) : (l ++ r).rdropWhile p = l.rdropWhile p := by
  unfold List.rdropWhile
  rw [List.reverse_append, List.dropWhile_append_of_pos]
  intro a ha
  exact h a (List.mem_reverse.mp ha)

/-- What is in front of something that stays is not reached. -/
theorem rdropWhile_append_of_exists {α : Type} {p : α → Bool} (l : List α) {r : List α}
    (h : ∃ a ∈ r, p a = false) : (l ++ r).rdropWhile p = l ++ r.rdropWhile p := by
  have hleft : ¬ (r.reverse.dropWhile p).isEmpty = true := by
    simpa [List.dropWhile_eq_nil_iff] using h
  unfold List.rdropWhile
  rw [List.reverse_append, List.dropWhile_append, if_neg hleft, List.reverse_append, List.reverse_reverse]

/-- A start that stays is the start of what is left. -/
theorem head?_rdropWhile_iff {α : Type} {p : α → Bool} {l : List α} {a : α} (h : p a = false) :
    (l.rdropWhile p).head? = some a ↔ l.head? = some a := by
  constructor
  · intro hhead
    rw [← List.rdropWhile_append_rtakeWhile (p := p) (l := l), List.head?_append, hhead]
    rfl
  · intro hhead
    rw [← List.rdropWhile_append_rtakeWhile (p := p) (l := l), List.head?_append] at hhead
    cases hleft : (l.rdropWhile p).head? with
    | some b =>
      rw [hleft] at hhead
      exact hhead
    | none =>
      rw [hleft] at hhead
      have hgone : p a = true := List.mem_rtakeWhile_imp (List.mem_of_mem_head? hhead)
      rw [h] at hgone
      cases hgone

/-- `t` is what is left of `s` when all of `p` at its start has gone, and all of `q` at its end. -/
structure Strips {α : Type} (p q : α → Bool) (s t : List α) : Prop where
  parts : ∃ lead trail, s = lead ++ t ++ trail ∧ (∀ a ∈ lead, p a = true) ∧ ∀ a ∈ trail, q a = true
  first : ∀ a, t.head? = some a → p a = false
  last : ∀ a, t.getLast? = some a → q a = false

variable {α : Type} {p q : α → Bool} {s t : List α}

/-- **A text that is trimmed is stripped at both ends.** -/
theorem rdropWhile_dropWhile_eq_iff : (s.dropWhile p).rdropWhile q = t ↔ Strips p q s t := by
  constructor
  · rintro rfl
    refine ⟨⟨s.takeWhile p, (s.dropWhile p).rtakeWhile q, ?_, fun a => List.mem_takeWhile_imp,
      fun a => List.mem_rtakeWhile_imp⟩, ?_, ?_⟩
    · rw [List.append_assoc, List.rdropWhile_append_rtakeWhile, List.takeWhile_append_dropWhile]
    · intro a ha
      have hhead := List.head?_dropWhile_not p s
      rw [← List.rdropWhile_append_rtakeWhile (p := q) (l := s.dropWhile p), List.head?_append, ha] at hhead
      exact hhead
    · intro a ha
      obtain ⟨hne, rfl⟩ := List.mem_getLast?_eq_getLast ha
      exact Bool.not_eq_true _ ▸ List.rdropWhile_last_not q (s.dropWhile p) hne
  · rintro ⟨⟨lead, trail, rfl, hlead, htrail⟩, hfirst, hlast⟩
    rw [List.append_assoc, List.dropWhile_append_of_pos hlead]
    rcases List.eq_nil_or_concat t with rfl | ⟨init, a, rfl⟩
    · -- nothing is left: what the first drop has spared goes with the second
      rw [List.nil_append, List.rdropWhile_eq_nil_iff]
      intro a ha
      exact htrail a ((List.dropWhile_suffix p).subset ha)
    · obtain ⟨b, behind, hcons⟩ := List.exists_cons_of_ne_nil
        (List.append_ne_nil_of_right_ne_nil init (List.cons_ne_nil a []))
      rw [List.concat_eq_append] at hfirst hlast ⊢
      have hkept : (init ++ [a] ++ trail).dropWhile p = init ++ [a] ++ trail := by
        rw [hcons, List.cons_append]
        exact List.dropWhile_cons_of_neg (by simp [hfirst b (by rw [hcons]; rfl)])
      rw [hkept, rdropWhile_append_of_all _ htrail]
      exact List.rdropWhile_concat_neg q init a (by simp [hlast a (by simp)])

/-- What stands is what neither begins nor ends with anything that may go. -/
theorem strips_self_iff : Strips p q t t ↔
    (∀ a, t.head? = some a → p a = false) ∧ ∀ a, t.getLast? = some a → q a = false := by
  constructor
  · rintro ⟨-, hfirst, hlast⟩
    exact ⟨hfirst, hlast⟩
  · rintro ⟨hfirst, hlast⟩
    exact ⟨⟨[], [], by simp, by simp, by simp⟩, hfirst, hlast⟩

/-- More of what may go makes no difference. -/
theorem Strips.surround (h : Strips p q s t) {a b : α} (ha : p a = true) (hb : q b = true) :
    Strips p q (a :: s ++ [b]) t := by
  obtain ⟨⟨lead, trail, rfl, hlead, htrail⟩, hfirst, hlast⟩ := h
  refine ⟨⟨a :: lead, trail ++ [b], by simp, ?_, ?_⟩, hfirst, hlast⟩
  · intro c hc
    rcases List.mem_cons.mp hc with rfl | hc
    · exact ha
    · exact hlead c hc
  · intro c hc
    rcases List.mem_append.mp hc with hc | hc
    · exact htrail c hc
    · rw [List.mem_singleton.mp hc]
      exact hb

/-- A text that is stripped of an end of it is that end. -/
theorem Strips.eq_of_suffix (h : Strips p q s t) (hsuffix : s <:+ t) : s = t := by
  obtain ⟨⟨lead, trail, hparts, -, -⟩, -, -⟩ := h
  refine hsuffix.eq_of_length_le ?_
  rw [hparts]
  simp only [List.length_append]
  omega

theorem trim_eq_iff {s t : List Char} : trim s = t ↔ Strips isBlank isBlank s t :=
  rdropWhile_dropWhile_eq_iff

/-- Nothing is left of a text of white space alone. -/
theorem trim_eq_nil_iff {s : List Char} : trim s = [] ↔ ∀ c ∈ s, isBlank c = true := by
  rw [trim_eq_iff]
  constructor
  · rintro ⟨⟨lead, trail, rfl, hlead, htrail⟩, -, -⟩ c hc
    rw [List.append_nil] at hc
    exact (List.mem_append.mp hc).elim (hlead c) (htrail c)
  · intro hall
    exact ⟨⟨s, [], by simp, hall, by simp⟩, by simp, by simp⟩

end ClusterTopology.Text

/-! ## Numerals -/

namespace ClusterTopology.Text

/-- A text denotes a natural number: at most one plus sign, and one or more ASCII digits with that value.
There may be zeros in front. -/
def IsNumeral (cs : List Char) (n : Nat) : Prop :=
  ∃ sign ds, cs = sign ++ ds ∧ (sign = [] ∨ sign = ['+']) ∧ ds ≠ [] ∧
    (∀ c ∈ ds, c.isDigit = true) ∧ Nat.ofDigitChars 10 ds 0 = n

variable {cs ds : List Char} {n : Nat}

theorem readDigits?_eq_some_iff : readDigits? ds = some n ↔
    ds ≠ [] ∧ (∀ c ∈ ds, c.isDigit = true) ∧ Nat.ofDigitChars 10 ds 0 = n := by
  unfold readDigits?
  rw [Option.ite_none_right_eq_some, List.all_eq_true, Option.some.injEq, and_assoc]
  rfl

theorem readNat?_eq_some_iff : readNat? cs = some n ↔ IsNumeral cs n := by
  unfold readNat?
  split
  next ds =>
    rw [readDigits?_eq_some_iff]
    constructor
    · intro hdigits
      exact ⟨['+'], ds, rfl, .inr rfl, hdigits⟩
    · rintro ⟨sign, digits, hparts, rfl | rfl, hsome, hall, hvalue⟩
      · -- a plus sign is no digit
        have hplus := hall '+' (by rw [← List.nil_append digits, ← hparts]; exact List.mem_cons_self)
        cases hplus
      · obtain rfl : ds = digits := by simpa using hparts
        exact ⟨hsome, hall, hvalue⟩
  next hplain =>
    rw [readDigits?_eq_some_iff]
    constructor
    · intro hdigits
      exact ⟨[], cs, rfl, .inl rfl, hdigits⟩
    · rintro ⟨sign, digits, hparts, rfl | rfl, hsome, hall, hvalue⟩
      · obtain rfl : cs = digits := hparts
        exact ⟨hsome, hall, hvalue⟩
      · exact absurd hparts (hplain digits)

theorem readUInt16?_eq_some_iff {w : UInt16} : readUInt16? cs = some w ↔ IsNumeral cs w.toNat := by
  unfold readUInt16? readBelow?
  rw [Option.map_eq_some_iff]
  constructor
  · rintro ⟨n, hn, rfl⟩
    obtain ⟨hread, hbound⟩ := Option.filter_eq_some_iff.mp hn
    rw [UInt16.toNat_ofNat_of_lt' (by simpa using hbound)]
    exact readNat?_eq_some_iff.mp hread
  · intro hnumeral
    have hbound : w.toNat < 65536 := w.toNat_lt
    refine ⟨w.toNat, Option.filter_eq_some_iff.mpr ⟨readNat?_eq_some_iff.mpr hnumeral, ?_⟩, ?_⟩
    · simpa using hbound
    · exact UInt16.ofNat_toNat

/-- A text denotes an integer: it denotes a natural number, or it is a minus sign and one or more ASCII
digits whose value is negated. -/
inductive IsInteger : List Char → Int → Prop where
  | natural {cs : List Char} {n : Nat} (h : IsNumeral cs n) : IsInteger cs n
  | negated {ds : List Char} (hsome : ds ≠ []) (hdigits : ∀ c ∈ ds, c.isDigit = true) :
      IsInteger ('-' :: ds) (-(Nat.ofDigitChars 10 ds 0 : Int))

/-- A natural number is not denoted with a minus sign. -/
theorem not_isNumeral_minus : ¬ IsNumeral ('-' :: ds) n := by
  rintro ⟨sign, digits, hparts, rfl | rfl, -, hall, -⟩
  · have hminus := hall '-' (by rw [← List.nil_append digits, ← hparts]; exact List.mem_cons_self)
    cases hminus
  · cases hparts

theorem readInt?_eq_some_iff {z : Int} : readInt? cs = some z ↔ IsInteger cs z := by
  unfold readInt?
  split
  next ds =>
    simp only [Option.map_eq_some_iff, Option.bind_eq_bind, Option.bind_eq_some_iff, Option.pure_def,
      Option.some.injEq]
    constructor
    · rintro ⟨_, ⟨n, hread, rfl⟩, rfl⟩
      obtain ⟨hsome, hdigits, rfl⟩ := readDigits?_eq_some_iff.mp hread
      exact .negated hsome hdigits
    · intro hinteger
      cases hinteger with
      | natural h => exact absurd h not_isNumeral_minus
      | negated hsome hdigits =>
        exact ⟨_, ⟨_, readDigits?_eq_some_iff.mpr ⟨hsome, hdigits, rfl⟩, rfl⟩, rfl⟩
  next hplain =>
    rw [Option.map_eq_some_iff]
    constructor
    · rintro ⟨n, hread, rfl⟩
      exact .natural (readNat?_eq_some_iff.mp hread)
    · intro hinteger
      cases hinteger with
      | natural h => exact ⟨_, readNat?_eq_some_iff.mpr h, rfl⟩
      | negated _ _ => exact absurd rfl (hplain _)

theorem readInt64?_eq_some_iff {z : Int} : readInt64? cs = some z ↔
    IsInteger cs z ∧ -9223372036854775808 ≤ z ∧ z < 9223372036854775808 := by
  unfold readInt64?
  rw [Option.filter_eq_some_iff, readInt?_eq_some_iff, Bool.and_eq_true, decide_eq_true_eq,
    decide_eq_true_eq]

theorem toList_natText (n : Nat) : (natText n).toList = Nat.toDigits 10 n := by
  rw [natText, String.toList_ofList]

theorem isDigit_of_mem_natText {c : Char} (hc : c ∈ (natText n).toList) : c.isDigit = true := by
  rw [toList_natText] at hc
  exact Nat.isDigit_of_mem_toDigits (by decide) (by decide) hc

theorem natText_ne_nil (n : Nat) : (natText n).toList ≠ [] := by
  rw [toList_natText]
  exact Nat.toDigits_ne_nil

theorem isNumeral_natText (n : Nat) : IsNumeral (natText n).toList n := by
  refine ⟨[], (natText n).toList, rfl, .inl rfl, natText_ne_nil n, fun c => isDigit_of_mem_natText, ?_⟩
  rw [toList_natText]
  exact Nat.ofDigitChars_ten_toDigits

end ClusterTopology.Text

/-! ## The order of texts by their bytes -/

namespace ClusterTopology.Text

def utf8Bytes (s : String) : List UInt8 := s.toUTF8.data.toList

theorem utf8Bytes_eq (s : String) : utf8Bytes s = s.toList.flatMap String.utf8EncodeChar := by
  have hencoded : s.toUTF8 = s.toList.utf8Encode := by
    conv_lhs => rw [← String.ofList_toList (s := s)]
    exact String.toByteArray_ofList
  rw [utf8Bytes, hencoded, List.utf8Encode, List.data_toByteArray]

theorem utf8EncodeChar_append_lt {c d : Char} (h : c < d) (s t : List UInt8) :
    String.utf8EncodeChar c ++ s < String.utf8EncodeChar d ++ t := by
  have hlt : c.val.toNat < d.val.toNat := h
  have hd : d.val.toNat < 1114112 := by
    have hvalid := d.valid
    simp only [UInt32.isValidChar, Nat.isValidChar] at hvalid
    omega
  unfold String.utf8EncodeChar
  generalize c.val.toNat = m at *
  generalize d.val.toNat = n at *
  -- omega sees the digits to the base 64 only as quotients of quotients
  have hdigits (k : Nat) : k / 4096 = k / 64 / 64 ∧ k / 262144 = k / 64 / 64 / 64 := by omega
  simp only [hdigits]
  split_ifs <;>
    simp only [List.cons_append, List.nil_append, List.cons_lt_cons_iff, UInt8.lt_iff_toNat_lt,
      ← UInt8.toNat_inj, UInt8.toNat_ofNat'] <;>
    omega

theorem flatMap_utf8EncodeChar_lt {cs ds : List Char} (h : cs < ds) :
    cs.flatMap String.utf8EncodeChar < ds.flatMap String.utf8EncodeChar := by
  induction cs generalizing ds with
  | nil =>
    cases ds with
    | nil => exact absurd h (List.lt_irrefl _)
    | cons d ds =>
      obtain ⟨b, bs, hbytes⟩ := List.exists_cons_of_ne_nil (String.utf8EncodeChar_ne_nil (c := d))
      rw [List.flatMap_nil, List.flatMap_cons, hbytes]
      exact List.nil_lt_cons _ _
  | cons c cs ih =>
    cases ds with
    | nil => cases h
    | cons d ds =>
      rw [List.flatMap_cons, List.flatMap_cons]
      rcases List.cons_lt_cons_iff.mp h with hcd | ⟨rfl, hrest⟩
      · exact utf8EncodeChar_append_lt hcd _ _
      · exact List.append_left_lt (ih hrest)

/-- **The order of texts is the order of their bytes.** -/
theorem utf8Bytes_lt_iff {s t : String} : utf8Bytes s < utf8Bytes t ↔ s < t := by
  have hmono {s t : String} (h : s < t) : utf8Bytes s < utf8Bytes t := by
    rw [utf8Bytes_eq, utf8Bytes_eq]
    exact flatMap_utf8EncodeChar_lt (String.lt_iff_toList_lt.mp h)
  constructor
  · intro h
    rcases lt_trichotomy s t with hlt | rfl | hgt
    · exact hlt
    · exact absurd h (List.lt_irrefl _)
    · exact absurd (hmono hgt) (List.lt_asymm h)
  · exact hmono

end ClusterTopology.Text
