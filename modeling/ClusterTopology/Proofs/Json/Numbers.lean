import Mathlib.Tactic.Common
import ClusterTopology.Json.Document
import ClusterTopology.Proofs.Json.Strings
import ClusterTopology.Proofs.Text.Basic
/-!
An integer that has been written is read back.

Its digits are read up to whatever follows them, which must not go on with a number.

`Stops` says what may follow: no digit, no point and no mark of an exponent.  Under it each of the readers
`digits?`, `whole?`, `fraction?` and `exponent?` takes exactly what was written for it, and so does
`numeral?`, which is made of them.  The value comes back because `absorb` takes digits in as long as the
number that they make fits into 64 bits.
-/

namespace ClusterTopology.Json

open ClusterTopology.Data

/-! ### The value of a numeral -/

/-- The parts of an integer that has been written. -/
def intNumeral (n : Int) : Numeral where
  negative := n < 0
  whole := (Nat.toDigits 10 n.natAbs).map fun c => c.toNat - 48
  fraction := []
  exponent := none

theorem absorb_eq {ds : List Nat} {acc : Nat}
    (h : ds.foldl (fun n d => 10 * n + d) acc < 18446744073709551616) :
    absorb acc ds = (ds.foldl (fun n d => 10 * n + d) acc, 0) := by
  induction ds generalizing acc with
  | nil => rfl
  | cons d ds ih =>
    have hle : ∀ (ds : List Nat) (acc : Nat), acc ≤ ds.foldl (fun n d => 10 * n + d) acc := by
      intro ds
      induction ds with
      | nil => exact fun acc => Nat.le_refl acc
      | cons d ds ih =>
        intro acc
        exact Nat.le_trans (by omega) (ih (10 * acc + d))
    rw [List.foldl_cons] at h ⊢
    rw [absorb, if_pos (Nat.lt_of_le_of_lt (hle ds _) h), ih h]

/-- A natural number of 64 bits is read as itself. -/
theorem datum_intNumeral {n : Nat} (h : n < 18446744073709551616) :
    (intNumeral n).datum = .integer n := by
  have hvalue : ((Nat.toDigits 10 n).map fun c => c.toNat - 48).foldl (fun n d => 10 * n + d) 0 = n := by
    rw [List.foldl_map]
    have hdigits : Nat.ofDigitChars 10 (Nat.toDigits 10 n) 0 = n := Nat.ofDigitChars_ten_toDigits
    rwa [Nat.ofDigitChars_eq_foldl] at hdigits
  have hwhole : absorb 0 (intNumeral n).whole = (n, 0) := by
    rw [intNumeral, Int.natAbs_natCast, absorb_eq (by rw [hvalue]; exact h), hvalue]
  have hnegative : (intNumeral n).negative = false := by simp [intNumeral]
  rw [Numeral.datum, hwhole, hnegative]
  rfl

/-! ### Digits -/

/-- A text does not go on with a number. -/
def Stops (rest : List UInt8) : Prop :=
  ∀ b ∈ rest.head?, isDigit b = false ∧ b ≠ byte '.' ∧ b ≠ byte 'e' ∧ b ≠ byte 'E'

variable {cs : List Char} {rest : List UInt8}

theorem stops_nil : Stops [] := nofun

theorem stops_cons {b : UInt8} (h : isDigit b = false ∧ b ≠ byte '.' ∧ b ≠ byte 'e' ∧ b ≠ byte 'E')
    (rest : List UInt8) : Stops (b :: rest) := by
  rintro _ ⟨⟩
  exact h

theorem exists_cons_toDigits (n : Nat) (h : 0 < n) :
    ∃ c cs, Nat.toDigits 10 n = c :: cs ∧ c ≠ '0' := by
  induction n using Nat.strongRecOn with
  | ind n ih =>
    rw [Nat.toDigits_eq_if (by decide)]
    split
    · next hlt =>
      have hdigit : ∀ n < 10, 0 < n → n.digitChar ≠ '0' := by decide
      exact ⟨_, _, rfl, hdigit n hlt h⟩
    · obtain ⟨c, cs, hcons, hc⟩ := ih (n / 10) (by omega) (by omega)
      exact ⟨c, cs ++ [(n % 10).digitChar], by rw [hcons]; rfl, hc⟩

theorem isDigit_byte {c : Char} (h : c.isDigit = true) :
    isDigit (byte c) = true ∧ (byte c).toNat = c.toNat := by
  have hbounds := Char.isDigit_iff_toNat.mp h
  have hbyte : (byte c).toNat = c.toNat := by
    rw [byte, UInt8.toNat_ofNat_of_lt' (Nat.lt_of_le_of_lt hbounds.2 (by decide))]
  refine ⟨?_, hbyte⟩
  rw [isDigit, Bool.and_eq_true, decide_eq_true_eq, decide_eq_true_eq]
  have hlow : (48 : UInt8).toNat ≤ (byte c).toNat := hbyte ▸ hbounds.1
  have hhigh : (byte c).toNat ≤ (57 : UInt8).toNat := hbyte ▸ hbounds.2
  exact ⟨hlow, hhigh⟩

theorem spanDigits_append (hcs : ∀ c ∈ cs, c.isDigit = true) (hrest : Stops rest) :
    spanDigits (cs.map byte ++ rest) = (cs.map fun c => c.toNat - 48, rest) := by
  have hall : ∀ b ∈ cs.map byte, isDigit b = true := by
    intro b hb
    obtain ⟨c, hc, rfl⟩ := List.mem_map.mp hb
    exact (isDigit_byte (hcs c hc)).1
  have hstop : rest.takeWhile isDigit = [] ∧ rest.dropWhile isDigit = rest := by
    cases rest with
    | nil => exact ⟨rfl, rfl⟩
    | cons b rest =>
      have hb : ¬ isDigit b = true := by simp [(hrest b rfl).1]
      exact ⟨List.takeWhile_cons_of_neg hb, List.dropWhile_cons_of_neg hb⟩
  have hvalues : (cs.map byte).map (fun b => b.toNat - 48) = cs.map fun c => c.toNat - 48 := by
    rw [List.map_map]
    apply List.map_congr_left
    intro c hc
    rw [Function.comp_apply, (isDigit_byte (hcs c hc)).2]
  rw [spanDigits, List.takeWhile_append_of_pos hall, List.dropWhile_append_of_pos hall, hstop.1, hstop.2,
    List.append_nil, hvalues]

theorem digits?_append (hne : cs ≠ []) (hcs : ∀ c ∈ cs, c.isDigit = true) (hrest : Stops rest) :
    digits? (cs.map byte ++ rest) = .ok (cs.map fun c => c.toNat - 48, rest) := by
  obtain ⟨c, cs, rfl⟩ := List.exists_cons_of_ne_nil hne
  rw [digits?, spanDigits_append hcs hrest]
  rfl

theorem whole?_toDigits (n : Nat) (hrest : Stops rest) :
    whole? ((Nat.toDigits 10 n).map byte ++ rest) =
      .ok ((Nat.toDigits 10 n).map fun c => c.toNat - 48, rest) := by
  rcases Nat.eq_zero_or_pos n with rfl | hpos
  · rw [Nat.toDigits_zero]
    cases rest with
    | nil => rfl
    | cons b rest =>
      have hb : ¬ isDigit b = true := by simp [(hrest b rfl).1]
      have hzero : whole? (byte '0' :: b :: rest) =
          if isDigit b = true then .error .malformed else .ok ([0], b :: rest) := rfl
      exact hzero.trans (if_neg hb)
  · have hdigits : ∀ c ∈ Nat.toDigits 10 n, c.isDigit = true := fun c hc =>
      Nat.isDigit_of_mem_toDigits (by decide) (by decide) hc
    have hread := digits?_append Nat.toDigits_ne_nil hdigits hrest
    obtain ⟨c, cs, hcons, hc⟩ := exists_cons_toDigits n hpos
    rw [hcons] at hread hdigits ⊢
    have hfirst : byte c ≠ byte '0' := by
      intro heq
      have hbyte := (isDigit_byte (hdigits c List.mem_cons_self)).2
      rw [heq] at hbyte
      exact hc (Char.toNat_inj.mp hbyte.symm)
    rw [List.map_cons, List.cons_append] at hread ⊢
    exact (if_neg hfirst).trans hread

theorem fraction?_of_stops (h : Stops rest) : fraction? rest = .ok ([], rest) := by
  cases rest with
  | nil => rfl
  | cons b rest => exact if_neg (h b rfl).2.1

theorem exponent?_of_stops (h : Stops rest) : exponent? rest = .ok (none, rest) := by
  cases rest with
  | nil => rfl
  | cons b rest =>
    obtain ⟨-, -, hlower, hupper⟩ := h b rfl
    exact if_neg (not_or.mpr ⟨hlower, hupper⟩)

/-! ### Integers -/

variable {bs : List UInt8} {ds : List Nat}

theorem numeral?_of_whole? (hsign : ∀ b ∈ bs.head?, b ≠ byte '-') (h : whole? bs = .ok (ds, rest))
    (hrest : Stops rest) : numeral? bs = .ok (⟨false, ds, [], none⟩, rest) := by
  cases bs with
  | nil => cases h
  | cons b r =>
    rw [numeral?]
    simp only [if_neg (hsign b rfl), h]
    change (fraction? rest >>= _) = _
    rw [fraction?_of_stops hrest]
    change (exponent? rest >>= _) = _
    rw [exponent?_of_stops hrest]
    rfl

theorem numeral?_of_minus (h : whole? bs = .ok (ds, rest)) (hrest : Stops rest) :
    numeral? (byte '-' :: bs) = .ok (⟨true, ds, [], none⟩, rest) := by
  rw [numeral?]
  simp only [if_pos, h]
  change (fraction? rest >>= _) = _
  rw [fraction?_of_stops hrest]
  change (exponent? rest >>= _) = _
  rw [exponent?_of_stops hrest]
  rfl

theorem utf8_toDigits (n : Nat) : utf8 (Nat.toDigits 10 n) = (Nat.toDigits 10 n).map byte := by
  apply utf8_of_lt
  intro c hc
  have hdigit : c.isDigit = true := Nat.isDigit_of_mem_toDigits (by decide) (by decide) hc
  exact Nat.lt_of_le_of_lt (Char.isDigit_iff_toNat.mp hdigit).2 (by decide)

theorem exists_digit (n : Nat) : ∃ b r, (Nat.toDigits 10 n).map byte = b :: r ∧ isDigit b = true := by
  obtain ⟨c, cs, hcons⟩ := List.exists_cons_of_ne_nil (Nat.toDigits_ne_nil (n := n) (b := 10))
  have hdigit : c.isDigit = true :=
    Nat.isDigit_of_mem_toDigits (by decide) (by decide) (hcons ▸ List.mem_cons_self)
  rw [hcons]
  exact ⟨_, _, rfl, (isDigit_byte hdigit).1⟩

/-- What is written for an integer: digits, with a minus sign in front where it is negative. -/
theorem toList_intText (n : Int) :
    (Text.intText n).toList = (if n < 0 then ['-'] else []) ++ Nat.toDigits 10 n.natAbs := by
  cases n with
  | ofNat n =>
    rw [if_neg (by simp), List.nil_append]
    exact Text.toList_natText n
  | negSucc n =>
    rw [if_pos (Int.negSucc_lt_zero n), Text.intText, String.toList_append, Text.toList_natText]
    rfl

/-- The text of an integer starts with a digit or a minus sign. -/
theorem exists_cons_intText (n : Int) :
    ∃ b r, utf8 (Text.intText n).toList = b :: r ∧ (b = byte '-' ∨ isDigit b = true) := by
  rw [toList_intText, utf8_append, utf8_toDigits]
  split
  · exact ⟨_, _, rfl, .inl rfl⟩
  · obtain ⟨b, r, hcons, hb⟩ := exists_digit n.natAbs
    exact ⟨b, r, hcons, .inr hb⟩

/-- **An integer that has been written is read back**, and the text behind it is left. -/
theorem numeral?_intText (n : Int) (hrest : Stops rest) :
    numeral? (utf8 (Text.intText n).toList ++ rest) = .ok (intNumeral n, rest) := by
  have hwhole := whole?_toDigits n.natAbs hrest
  rw [toList_intText, utf8_append, utf8_toDigits]
  split
  · next hneg =>
    have hminus : utf8 ['-'] = [byte '-'] := rfl
    rw [hminus, List.singleton_append, List.cons_append, numeral?_of_minus hwhole hrest, intNumeral]
    simp only [hneg, decide_true]
  · next hpos =>
    have hnil : utf8 [] = [] := rfl
    have hsign : ∀ b ∈ ((Nat.toDigits 10 n.natAbs).map byte ++ rest).head?, b ≠ byte '-' := by
      obtain ⟨b, r, hcons, hb⟩ := exists_digit n.natAbs
      rw [hcons]
      rintro _ ⟨⟩ rfl
      cases hb
    rw [hnil, List.nil_append, numeral?_of_whole? hsign hwhole hrest, intNumeral]
    simp only [hpos, decide_false]

end ClusterTopology.Json
