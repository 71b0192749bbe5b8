import Mathlib.Tactic.Common
import ClusterTopology.Json.Token
import ClusterTopology.Proofs.Data.Records
/-!
The tokens of a text, one after another.

A text is cut into tokens in so many steps as it has bytes and one more.  Every step that finds something
takes some of the text, so that further steps would find nothing: the tokens of a text are those at its
start, and then those of what is left.

What each scanner leaves is a suffix of what it was given, and unless it has failed it is a shorter one.
There is one such lemma for each part of a string, a word or a number, and `lead_suffix` puts them together.
With that `tokensIn_eq_tokens` is an induction on the length of the text: once there are more steps than
bytes, their number does not matter.  From then on tokens are known by `tokens_nil` and `tokens_cons` alone.
-/

namespace ClusterTopology.Json

open ClusterTopology.Data

variable {bs rest : List UInt8}

/-! ### What is left behind a token -/

theorem map_eq_ok_iff {ε α β : Type} {f : α → β} {x : Except ε α} {b : β} :
    x.map f = .ok b ↔ ∃ a, x = .ok a ∧ f a = b := by
  cases x <;> simp [Except.map]

theorem rest_scanString_suffix (bs : List UInt8) : (scanString bs).rest <:+ bs := by
  fun_induction scanString bs with
  | case1 => exact List.suffix_rfl
  | case2 r => exact List.suffix_cons _ r
  | case3 | case5 | case6 | case8 | case9 => exact List.nil_suffix
  | case4 a b c d r u _ _ ih => exact ih.trans ⟨[byte '\\', byte 'u', a, b, c, d], rfl⟩
  | case7 e r _ x _ _ ih => exact ih.trans ⟨[byte '\\', e], rfl⟩
  | case10 b r _ _ _ ih => exact ih.trans (List.suffix_cons b r)

theorem suffix_of_word? {cs : List Char} (h : word? cs bs = .ok rest) : rest <:+ bs := by
  fun_induction word? cs bs with
  | case1 bs =>
    cases h
    exact List.suffix_rfl
  | case2 => cases h
  | case3 c cs bs ih => exact (ih h).trans (List.suffix_cons _ bs)
  | case4 => cases h

/-- Digits are at least one. -/
theorem suffix_of_digits? {ds : List Nat} (h : digits? bs = .ok (ds, rest)) : rest <:+ bs.tail := by
  cases bs with
  | nil => cases h
  | cons b r =>
    by_cases hb : isDigit b = true
    · have hspan : (spanDigits (b :: r)).2 <:+ r := by
        rw [spanDigits, List.dropWhile_cons_of_pos hb]
        exact List.dropWhile_suffix isDigit
      unfold digits? at h
      split at h
      · cases h
      · cases h
      · rwa [Except.ok.inj h] at hspan
    · have hnone : spanDigits (b :: r) = ([], b :: r) := by
        rw [spanDigits, List.takeWhile_cons_of_neg hb, List.dropWhile_cons_of_neg hb]
        rfl
      rw [digits?, hnone] at h
      cases h

theorem suffix_of_whole? {ds : List Nat} (h : whole? bs = .ok (ds, rest)) : rest <:+ bs.tail := by
  unfold whole? at h
  split at h
  · cases h
  · split at h
    · split at h
      · cases h
        exact List.nil_suffix
      · split at h
        · cases h
        · cases h
          exact List.suffix_rfl
    · exact suffix_of_digits? h

theorem suffix_of_fraction? {ds : List Nat} (h : fraction? bs = .ok (ds, rest)) : rest <:+ bs := by
  unfold fraction? at h
  split at h
  · cases h
    exact List.suffix_rfl
  · next b r =>
    split at h
    · exact (suffix_of_digits? h).trans ((List.tail_suffix r).trans (List.suffix_cons b r))
    · cases h
      exact List.suffix_rfl

theorem suffix_of_exponent? {e : Option (Bool × List Nat)} (h : exponent? bs = .ok (e, rest)) :
    rest <:+ bs := by
  unfold exponent? at h
  split at h
  · cases h
    exact List.suffix_rfl
  · next b r =>
    split at h
    · obtain ⟨⟨ds, rest'⟩, hdigits, heq⟩ := map_eq_ok_iff.mp h
      cases heq
      refine (suffix_of_digits? hdigits).trans ((List.tail_suffix _).trans ?_)
      refine List.IsSuffix.trans ?_ (List.suffix_cons b r)
      -- the sign, if there is one, is passed over as well
      split
      · split
        · exact List.suffix_cons _ _
        · split
          · exact List.suffix_cons _ _
          · exact List.suffix_rfl
      · exact List.suffix_rfl
    · cases h
      exact List.suffix_rfl

theorem suffix_of_numeral? {n : Numeral} (h : numeral? bs = .ok (n, rest)) : rest <:+ bs.tail := by
  unfold numeral? at h
  obtain ⟨⟨whole, r⟩, hwhole, h⟩ := bind_eq_ok_iff.mp h
  obtain ⟨⟨fraction, r'⟩, hfraction, h⟩ := bind_eq_ok_iff.mp h
  obtain ⟨⟨exponent, r''⟩, hexponent, h⟩ := bind_eq_ok_iff.mp h
  cases h
  have hbehind := (suffix_of_exponent? hexponent).trans (suffix_of_fraction? hfraction)
  refine (hbehind.trans (suffix_of_whole? hwhole)).trans ?_
  split
  · next cs _ _ =>
    split
    · exact List.tail_suffix cs
    · exact List.suffix_rfl
  · exact List.suffix_rfl

theorem faulty_suffix {start : Start} {x : Except Fault (Datum × List UInt8)}
    (h : ∀ d r, x = .ok (d, r) → r <:+ bs) : (faulty start x).2 <:+ bs := by
  cases x with
  | error f => exact List.nil_suffix
  | ok p => exact h p.1 p.2 rfl

theorem ite_suffix {p : Prop} [Decidable p] {x y : List Token × List UInt8} (hx : x.2 <:+ bs)
    (hy : y.2 <:+ bs) : (if p then x else y).2 <:+ bs := by
  split
  · exact hx
  · exact hy

/-- What is left behind the tokens at the start of a text is some of what follows the first byte. -/
theorem lead_suffix (b : UInt8) (r : List UInt8) : (lead b r).2 <:+ r := by
  have hword (cs : List Char) (d : Datum) :
      (faulty .other ((word? cs r).map fun r => (d, r))).2 <:+ r := by
    apply faulty_suffix
    intro d' r' h
    obtain ⟨rest, hrest, heq⟩ := map_eq_ok_iff.mp h
    cases heq
    exact suffix_of_word? hrest
  unfold lead
  iterate 6 refine ite_suffix List.suffix_rfl ?_
  refine ite_suffix ?_ ?_
  · dsimp only
    split
    · exact rest_scanString_suffix r
    · exact List.nil_suffix
  iterate 3 refine ite_suffix (hword _ _) ?_
  refine ite_suffix ?_ List.nil_suffix
  apply faulty_suffix
  intro d r' h
  obtain ⟨⟨n, rest⟩, hrest, heq⟩ := map_eq_ok_iff.mp h
  cases heq
  exact suffix_of_numeral? hrest

/-! ### All tokens -/

/-- More steps than bytes find all tokens. -/
theorem tokensIn_eq_tokens {fuel : Nat} (h : bs.length < fuel) : tokensIn fuel bs = tokens bs := by
  suffices hsame : ∀ n m, bs.length < n → bs.length < m → tokensIn n bs = tokensIn m bs from
    hsame fuel _ h (Nat.lt_succ_self _)
  clear h
  intro n m hn hm
  induction n generalizing m bs with
  | zero => cases hn
  | succ n ih =>
    cases m with
    | zero => cases hm
    | succ m =>
      rw [tokensIn, tokensIn]
      have hle := (List.dropWhile_suffix isSpace (l := bs)).length_le
      cases hdrop : bs.dropWhile isSpace with
      | nil => rfl
      | cons b r =>
        have hrest := (lead_suffix b r).length_le
        rw [hdrop, List.length_cons] at hle
        simp only
        rw [ih m (by omega) (by omega)]

theorem tokens_nil : tokens [] = [] := rfl

/-- **The tokens of a text are those at its start and those of the rest.** -/
theorem tokens_cons {b : UInt8} (h : isSpace b = false) (r : List UInt8) :
    tokens (b :: r) = (lead b r).1 ++ tokens (lead b r).2 := by
  have hle := (lead_suffix b r).length_le
  rw [tokens, tokensIn, List.dropWhile_cons_of_neg (by simp [h])]
  simp only
  rw [tokensIn_eq_tokens (by rw [List.length_cons]; omega)]

end ClusterTopology.Json
