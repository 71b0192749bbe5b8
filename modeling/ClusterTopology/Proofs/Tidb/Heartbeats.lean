import Mathlib.Tactic.Common
import ClusterTopology.Proofs.Text.Basic
import ClusterTopology.Tidb.Instance
import ClusterTopology.Proofs.Json.Strings
/-!
What the entry of a server says: which keys name a server, and which values are a recent heartbeat.

A key is taken apart by dropping its start, dropping the slashes at its end and dividing the rest at its
slashes.  Put the other way round, as `Names` does: it is the start, an address, a slash, a kind and any number
of slashes, where the address and the kind hold none and the kind is not empty.

The value of a heartbeat is a time that is written as a text, and its age is a difference of two signed words
of 64 bits, which saturates.  `TellsTime` says which values are times, without reading them.  Where the
difference saturates, it lies on the same side of the limit as the age itself, so the verdict is that on
unbounded integers.  Every value then has a last moment at which it is recent, if it has one at all.
-/

namespace ClusterTopology.Tidb

/-! ## Keys -/

theorem splitOn_eq_pair_iff {c : Char} {s a b : List Char} :
    s.splitOn c = [a, b] ↔ s = a ++ c :: b ∧ c ∉ a ∧ c ∉ b := by
  constructor
  · intro h
    have hc : c ∈ s := by
      by_contra hnone
      rw [List.splitOn_eq_singleton hnone] at h
      cases h
    obtain ⟨a', r, rfl, ha'⟩ := List.eq_append_cons_of_mem hc
    rw [List.splitOn_append_cons_self_of_not_mem ha'] at h
    obtain ⟨rfl, hr⟩ := List.cons.inj h
    have hlast : c ∉ r := by
      intro hmem
      obtain ⟨b', q, rfl, hb'⟩ := List.eq_append_cons_of_mem hmem
      rw [List.splitOn_append_cons_self_of_not_mem hb'] at hr
      exact List.splitOn_ne_nil _ _ (List.cons.inj hr).2
    rw [List.splitOn_eq_singleton hlast] at hr
    obtain ⟨rfl, -⟩ := List.cons.inj hr
    exact ⟨rfl, ha', hlast⟩
  · rintro ⟨rfl, ha, hb⟩
    rw [List.splitOn_append_cons_self_of_not_mem ha, List.splitOn_eq_singleton hb]

/-- A key names an address and a kind: behind the start of all keys these two, neither with a slash in
it, with one slash between them and any number of slashes behind. -/
def Names (key address kind : String) : Prop :=
  '/' ∉ address.toList ∧ '/' ∉ kind.toList ∧ kind ≠ "" ∧
    ∃ n, key.toList = keyStart.toList ++ (address.toList ++ '/' :: kind.toList) ++ List.replicate n '/'

/-- **The parts of a key are what it names.** -/
theorem ofKey?_eq_some_iff {key address kind : String} :
    KeyParts.ofKey? key = some ⟨address, kind⟩ ↔ Names key address kind := by
  unfold KeyParts.ofKey?
  simp only [Option.bind_eq_bind, Option.bind_eq_some_iff, List.isPrefixOf?_eq_some_iff_append_eq]
  constructor
  · rintro ⟨rest, hkey, hparts⟩
    split at hparts
    · next a k hsplit =>
      cases hparts
      obtain ⟨hbare, ha, hk⟩ := splitOn_eq_pair_iff.mp hsplit
      rw [← List.rdropWhile] at hbare
      have hslashes : rest.rtakeWhile (· == '/') =
          List.replicate (rest.rtakeWhile (· == '/')).length '/' := by
        refine List.eq_replicate_iff.mpr ⟨rfl, ?_⟩
        intro c hc
        have hslash : (c == '/') = true := List.mem_rtakeWhile_imp (p := (· == '/')) hc
        exact beq_iff_eq.mp hslash
      refine ⟨by simpa using ha, by simpa using hk, ?_, (rest.rtakeWhile (· == '/')).length, ?_⟩
      · -- without a kind the slash before it would have been dropped as well
        intro hnone
        obtain rfl : k = [] := by simpa using hnone
        have hlast := List.rdropWhile_last_not (· == '/') rest (by simp [hbare])
        simp [hbare] at hlast
      · rw [← hslashes, String.toList_ofList, String.toList_ofList, ← hbare, List.append_assoc,
          List.rdropWhile_append_rtakeWhile, hkey]
    · cases hparts
  · rintro ⟨ha, hk, hsome, n, hkey⟩
    refine ⟨address.toList ++ '/' :: kind.toList ++ List.replicate n '/', by simpa using hkey.symm, ?_⟩
    have hall : ∀ c ∈ List.replicate n '/', (c == '/') = true := by simp
    obtain ⟨k, c, hlast⟩ := List.eq_nil_or_concat kind.toList |>.resolve_left (by simpa using hsome)
    have hc : ¬ (c == '/') = true := by
      rw [beq_iff_eq]
      rintro rfl
      exact hk (by simp [hlast])
    have hbare : (address.toList ++ '/' :: kind.toList).rdropWhile (· == '/') =
        address.toList ++ '/' :: kind.toList := by
      have hconcat := List.rdropWhile_concat_neg (· == '/') (address.toList ++ '/' :: k) c hc
      simpa [hlast] using hconcat
    rw [← List.rdropWhile, Text.rdropWhile_append_of_all _ hall, hbare, splitOn_eq_pair_iff.mpr ⟨rfl, ha, hk⟩]
    simp

/-! ## Heartbeats -/

variable {value : List UInt8} {t t' now later : Int}

/-! ### Times -/

/-- A value tells a time: it is the bytes of a text that is, inside its white space, the numeral of an integer
that fits a signed word of 64 bits. -/
def TellsTime (value : List UInt8) (t : Int) : Prop :=
  ∃ s numeral : List Char, value = Json.utf8 s ∧ Text.Strips Text.isBlank Text.isBlank s numeral ∧
    Text.IsInteger numeral t ∧ -9223372036854775808 ≤ t ∧ t < 9223372036854775808

/-- **The time that a heartbeat is read as is the one that it tells.** -/
theorem heartbeat?_eq_some_iff : heartbeat? value = some t ↔ TellsTime value t := by
  unfold heartbeat?
  simp only [Option.bind_eq_bind, Option.bind_eq_some_iff, Json.utf8Text?_eq_some_iff,
    Text.readInt64?_eq_some_iff]
  constructor
  · rintro ⟨s, hbytes, hinteger, hrange⟩
    exact ⟨s.toList, Text.trim s.toList, hbytes, Text.trim_eq_iff.mp rfl, hinteger, hrange⟩
  · rintro ⟨s, numeral, hbytes, hstrips, hinteger, hrange⟩
    have htrim : Text.trim s = numeral := Text.trim_eq_iff.mpr hstrips
    refine ⟨String.ofList s, ?_, ?_⟩
    · rwa [String.toList_ofList]
    · rw [String.toList_ofList, htrim]
      exact ⟨hinteger, hrange⟩

/-- A value tells one time at most. -/
theorem TellsTime.unique (h : TellsTime value t) (h' : TellsTime value t') : t = t' := by
  rw [← heartbeat?_eq_some_iff] at h h'
  exact Option.some.inj (h.symm.trans h')

/-! ### Ages -/

/-- The bounds of a word are on either side of the limit, so saturation never carries an age across it. -/
theorem clampInt64_le_freshness_iff {age : Int} : clampInt64 age ≤ freshness ↔ age ≤ freshness := by
  unfold clampInt64 freshness
  omega

theorem TellsTime.isFresh_iff (h : TellsTime value t) :
    isFresh value now = true ↔ now - t ≤ freshness := by
  rw [isFresh, heartbeat?_eq_some_iff.mpr h]
  exact decide_eq_true_iff.trans clampInt64_le_freshness_iff

theorem exists_tellsTime_of_isFresh (h : isFresh value now = true) : ∃ t, TellsTime value t := by
  unfold isFresh at h
  split at h
  · next t ht => exact ⟨t, heartbeat?_eq_some_iff.mp ht⟩
  · cases h

/-- **Freshness is exact.**  A heartbeat is recent exactly when its value is the text of a time, perhaps with
white space around it, that is no more than 45 seconds ago, where the difference is one of integers without
bounds: saturation makes no difference to the verdict.  So a heartbeat from the future is recent, and one that
is recent at some moment was so at every moment before. -/
theorem freshness_is_exact (value : List UInt8) :
    (∀ now, isFresh value now = true ↔ ∃ t, TellsTime value t ∧ now - t ≤ 45000000000) ∧
    (∀ t t', TellsTime value t → TellsTime value t' → t = t') ∧
    (∀ t now, TellsTime value t → (clampInt64 (now - t) ≤ 45000000000 ↔ now - t ≤ 45000000000)) ∧
    (∀ t now, TellsTime value t → now ≤ t → isFresh value now = true) ∧
    ∀ now later, now ≤ later → isFresh value later = true → isFresh value now = true := by
  refine ⟨?_, fun t t' => TellsTime.unique, fun t now _ => clampInt64_le_freshness_iff, ?_, ?_⟩
  · intro now
    constructor
    · intro hfresh
      obtain ⟨t, ht⟩ := exists_tellsTime_of_isFresh hfresh
      exact ⟨t, ht, ht.isFresh_iff.mp hfresh⟩
    · rintro ⟨t, ht, hage⟩
      exact ht.isFresh_iff.mpr hage
  · intro t now ht hfuture
    rw [ht.isFresh_iff, freshness]
    omega
  · intro now later hle hfresh
    obtain ⟨t, ht⟩ := exists_tellsTime_of_isFresh hfresh
    rw [ht.isFresh_iff] at hfresh ⊢
    omega

/-- The last time that a word can hold, between an em space and the end of a line. -/
def lastTime : List UInt8 := Json.utf8 "\u2003+9223372036854775807\n".toList

/-- The first time that a word can hold, with a zero in front. -/
def firstTime : List UInt8 := Json.utf8 "-09223372036854775808".toList

/-- Of two heartbeats at the ends of the range, each looked at from the other end, the late one is recent and the
early one is not; and the late one has been recent at all times before. -/
theorem ends_of_range_are_judged :
    TellsTime lastTime 9223372036854775807 ∧ TellsTime firstTime (-9223372036854775808) ∧
      isFresh lastTime (-9223372036854775808) = true ∧ isFresh lastTime 0 = true ∧
      isFresh firstTime 9223372036854775807 = false ∧
      clampInt64 (-9223372036854775808 - 9223372036854775807) ≤ 45000000000 := by
  have hlast : TellsTime lastTime 9223372036854775807 := heartbeat?_eq_some_iff.mp (by decide +kernel)
  have hfirst : TellsTime firstTime (-9223372036854775808) := heartbeat?_eq_some_iff.mp (by decide +kernel)
  obtain ⟨-, -, hclamp, hfuture, hbefore⟩ := freshness_is_exact lastTime
  obtain ⟨hiff, hunique, -, -, -⟩ := freshness_is_exact firstTime
  have hnow : isFresh lastTime 9223372036854775807 = true := hfuture _ _ hlast (by decide)
  refine ⟨hlast, hfirst, hbefore _ _ (by decide) hnow, hbefore _ _ (by decide) hnow, ?_, ?_⟩
  · rw [Bool.eq_false_iff, Ne, hiff]
    rintro ⟨t, ht, hage⟩
    rw [hunique t _ ht hfirst] at hage
    omega
  · exact (hclamp _ _ hlast).mpr (by decide)

end ClusterTopology.Tidb
