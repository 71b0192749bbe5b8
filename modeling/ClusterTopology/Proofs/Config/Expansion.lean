import Mathlib.Data.List.Infix
import Mathlib.Tactic.Common
import ClusterTopology.Config.Load
/-!
References are replaced in one pass.

The text is edited in place, with offsets that move with every replacement.  What has been done stands
before the cursor and is never touched again, and what stands behind it is still as it was at the start; so
the edits come to one reading of the text from left to right, and every cut is made where a part ends.

`OnePass` is that reading: a relation between a text, what comes out and what is reported, with one rule for
a text without a reference, one for a reference that is not closed, and one for a reference with what
`Stands` for it.  It is total and has one outcome, by induction on the length of what is still to be read.

`between` is the draft in which `done` is behind the cursor and `rest` before it.  A turn on such a draft
comes to another one, by `turn_of_reference`, and this invariant carries the run.  The last part follows
from the relation alone: only the variables that a text names have a part in what it becomes.
-/

namespace ClusterTopology.Config

open ClusterTopology.Text

variable {env : Environment}

/-! ### What stands for a reference -/

/-- What stands for a reference, and what is reported of it. -/
inductive Stands (env : Environment) (reference : List Char) : List Char → List Event → Prop where
  | value {name default : List Char} {v : String}
      (hsplit : SplitsAtFirst [':', '-'] reference name default)
      (hset : env (String.ofList name) = some v) : Stands env reference v.toList []
  | default {name default : List Char} (hsplit : SplitsAtFirst [':', '-'] reference name default)
      (hunset : env (String.ofList name) = none) : Stands env reference default []
  | valueAlone {v : String} (hnone : ¬ [':', '-'] <:+: reference)
      (hset : env (String.ofList reference) = some v) : Stands env reference v.toList []
  | nothing (hnone : ¬ [':', '-'] <:+: reference) (hunset : env (String.ofList reference) = none) :
      Stands env reference [] [.variableMissing (String.ofList reference)]

theorem exists_stands (env : Environment) (reference : List Char) :
    ∃ value events, Stands env reference value events := by
  by_cases hdivided : [':', '-'] <:+: reference
  · obtain ⟨name, default, hsplit⟩ := exists_splits hdivided
    cases hvalue : env (String.ofList name) with
    | none => exact ⟨_, _, .default hsplit hvalue⟩
    | some v => exact ⟨_, _, .value hsplit hvalue⟩
  · cases hvalue : env (String.ofList reference) with
    | none => exact ⟨_, _, .nothing hdivided hvalue⟩
    | some v => exact ⟨_, _, .valueAlone hdivided hvalue⟩

/-- The name and the default of a reference are cut out of it. -/
theorem slices_of_splits {reference name default : List Char}
    (h : SplitsAtFirst [':', '-'] reference name default) :
    find? [':', '-'] reference = some (byteLength name) ∧
      sliceTo? reference (byteLength name) = some name ∧
      sliceFrom? reference (byteLength name + 2) = some default := by
  refine ⟨find?_of_splits h, ?_, ?_⟩
  · exact sliceTo?_eq_some_iff.mpr ⟨[':', '-'] ++ default, by simpa using h.eq, rfl⟩
  · exact sliceFrom?_eq_some_iff.mpr ⟨name ++ [':', '-'], h.eq, by rw [byteLength_append]; rfl⟩

theorem resolve?_of_stands {reference value : List Char} {events : List Event}
    (h : Stands env reference value events) : resolve? env reference = some ⟨value, events⟩ := by
  cases h with
  | value hsplit hset =>
    obtain ⟨hfind, hname, hdefault⟩ := slices_of_splits hsplit
    simp [resolve?, hfind, hname, hdefault, hset]
  | default hsplit hunset =>
    obtain ⟨hfind, hname, hdefault⟩ := slices_of_splits hsplit
    simp [resolve?, hfind, hname, hdefault, hunset]
  | valueAlone hnone hset => simp [resolve?, find?_of_not_isInfix hnone, hset]
  | nothing hnone hunset => simp [resolve?, find?_of_not_isInfix hnone, hunset]

/-! ### One pass -/

/-- What one reading of a text from left to right comes to, and what is reported on the way.  Only what
stands behind a reference is read on. -/
inductive OnePass (env : Environment) : List Char → List Char → List Event → Prop where
  | plain {s : List Char} (hnone : ¬ ['$', '\x7b'] <:+: s) : OnePass env s s []
  | unclosed {s before behind : List Char} (hopen : SplitsAtFirst ['$', '\x7b'] s before behind)
      (hnone : '\x7d' ∉ behind) : OnePass env s s []
  | reference {s before behind reference rest value out : List Char} {events more : List Event}
      (hopen : SplitsAtFirst ['$', '\x7b'] s before behind)
      (hclose : SplitsAtFirst ['\x7d'] behind reference rest)
      (hstands : Stands env reference value events) (hrest : OnePass env rest out more) :
      OnePass env s (before ++ value ++ out) (events ++ more)

theorem length_lt_of_splits {s before behind reference rest : List Char}
    (hopen : SplitsAtFirst ['$', '\x7b'] s before behind)
    (hclose : SplitsAtFirst ['\x7d'] behind reference rest) : rest.length < s.length := by
  rw [hopen.eq, hclose.eq]
  simp only [List.length_append, List.length_cons, List.length_nil]
  omega

theorem exists_onePass (env : Environment) (s : List Char) :
    ∃ out events, OnePass env s out events := by
  by_cases hsome : ['$', '\x7b'] <:+: s
  · obtain ⟨before, behind, hopen⟩ := exists_splits hsome
    by_cases hclosed : ['\x7d'] <:+: behind
    · obtain ⟨reference, rest, hclose⟩ := exists_splits hclosed
      obtain ⟨value, events, hstands⟩ := exists_stands env reference
      have := length_lt_of_splits hopen hclose
      obtain ⟨out, more, hrest⟩ := exists_onePass env rest
      exact ⟨_, _, .reference hopen hclose hstands hrest⟩
    · exact ⟨s, [], .unclosed hopen (by rwa [List.singleton_infix_iff] at hclosed)⟩
  · exact ⟨s, [], .plain hsome⟩
termination_by s.length

/-! ### The edits -/

namespace Draft

/-- A draft of which a part is done, with the rest of the text behind it. -/
def between (done rest : List Char) : Draft := ⟨done ++ rest, byteLength done⟩

/-- The closing brace of a reference is looked for from where the reference opens. -/
theorem splits_from_opening {behind reference rest : List Char}
    (h : SplitsAtFirst ['\x7d'] behind reference rest) :
    SplitsAtFirst ['\x7d'] ('$' :: '\x7b' :: behind) ('$' :: '\x7b' :: reference) rest := by
  refine ⟨by simp [h.eq], fun a b hab => ?_⟩
  match a, hab with
  | [], hab => simp at hab
  | [c], hab => simp at hab
  | c :: d :: a, hab =>
    have := h.first a b (by simpa using (List.cons.inj (List.cons.inj hab).2).2)
    simpa using this

variable {done rest before behind reference value : List Char} {events : List Event}

theorem sliceFrom_cursor (done rest : List Char) :
    sliceFrom? (between done rest).text (between done rest).cursor = some rest :=
  sliceFrom?_eq_some_iff.mpr ⟨done, rfl, rfl⟩

theorem cursor_add (done rest before : List Char) :
    (between done rest).cursor + byteLength before = byteLength (done ++ before) :=
  (byteLength_append _ _).symm

theorem sliceFrom_opening (h : SplitsAtFirst ['$', '\x7b'] rest before behind) :
    sliceFrom? (between done rest).text (byteLength (done ++ before)) =
      some ('$' :: '\x7b' :: behind) := by
  refine sliceFrom?_eq_some_iff.mpr ⟨done ++ before, ?_, rfl⟩
  simp [between, h.eq]

theorem turn_of_plain (h : ¬ ['$', '\x7b'] <:+: rest) : (between done rest).turn env = some .done := by
  simp [turn, sliceFrom_cursor, find?_of_not_isInfix h]

theorem turn_of_unclosed (hopen : SplitsAtFirst ['$', '\x7b'] rest before behind)
    (hnone : '\x7d' ∉ behind) : (between done rest).turn env = some .done := by
  have hunclosed : ¬ ['\x7d'] <:+: '$' :: '\x7b' :: behind := by
    simpa [List.singleton_infix_iff] using hnone
  simp only [turn, sliceFrom_cursor, find?_of_splits hopen, cursor_add, sliceFrom_opening hopen,
    find?_of_not_isInfix hunclosed, Option.bind_eq_bind, Option.bind_some, Option.pure_def]

/-- **A turn moves the cursor behind what it puts in.**  What stands behind the reference is as it was. -/
theorem turn_of_reference {tail : List Char} (done : List Char)
    (hopen : SplitsAtFirst ['$', '\x7b'] rest before behind)
    (hclose : SplitsAtFirst ['\x7d'] behind reference tail) (hstands : Stands env reference value events) :
    (between done rest).turn env =
      some (.replaced (between (done ++ before ++ value) tail) events) := by
  have htext : (between done rest).text =
      (done ++ before) ++ ['$', '\x7b'] ++ reference ++ '\x7d' :: tail := by
    simp [between, hopen.eq, hclose.eq]
  have hlength : byteLength ('$' :: '\x7b' :: reference) = 2 + byteLength reference := by
    simp only [byteLength_cons, ← Nat.add_assoc]
    rfl
  have hslice : slice? (between done rest).text (byteLength (done ++ before) + 2)
      (byteLength (done ++ before) + (2 + byteLength reference)) = some reference := by
    have := slice?_append (done ++ before ++ ['$', '\x7b']) reference ('\x7d' :: tail)
    rw [htext]
    convert this using 2
    · rw [byteLength_append (done ++ before) ['$', '\x7b']]
      rfl
    · simp only [byteLength_append, Nat.add_assoc]
      rfl
  have hreplace : replaceRange? (between done rest).text (byteLength (done ++ before))
      (byteLength (done ++ before) + (2 + byteLength reference) + 1) value =
        some (done ++ before ++ value ++ tail) := by
    have := replaceRange?_append (done ++ before) ('$' :: '\x7b' :: reference ++ ['\x7d']) tail value
    rw [htext]
    convert this using 2
    · simp
    · simp only [byteLength_append, hlength, Nat.add_assoc]
      rfl
  simp only [turn, sliceFrom_cursor, find?_of_splits hopen, cursor_add, sliceFrom_opening hopen,
    find?_of_splits (splits_from_opening hclose), hlength, hslice, hreplace,
    resolve?_of_stands hstands, Option.bind_eq_bind, Option.bind_some, Option.pure_def]
  simp [between, Nat.add_assoc]

/-- **The edits behind the cursor come to one reading of what stands there.** -/
theorem run_of_onePass {out : List Char} (h : OnePass env rest out events) (done : List Char) :
    (between done rest).run env = some ⟨done ++ out, events⟩ := by
  induction h generalizing done with
  | plain hnone =>
    rw [run]
    split
    · next hturn => simp [turn_of_plain hnone] at hturn
    · rfl
    · next hturn => simp [turn_of_plain hnone] at hturn
  | unclosed hopen hnone =>
    rw [run]
    split
    · next hturn => simp [turn_of_unclosed hopen hnone] at hturn
    · rfl
    · next hturn => simp [turn_of_unclosed hopen hnone] at hturn
  | reference hopen hclose hstands hrest ih =>
    have hturned := turn_of_reference done hopen hclose hstands
    rw [run]
    split
    · next hturn => simp [hturned] at hturn
    · next hturn => simp [hturned] at hturn
    · next d' events' hturn =>
      obtain ⟨rfl, rfl⟩ : _ = d' ∧ _ = events' := by simpa using hturned.symm.trans hturn
      simp [ih]

end Draft

theorem expand_of_onePass {text : String} {out : List Char} {events : List Event}
    (h : OnePass env text.toList out events) : expand env text = some ⟨String.ofList out, events⟩ := by
  have hrun := Draft.run_of_onePass h []
  simp only [Draft.between, List.nil_append, byteLength_nil] at hrun
  simp [expand, hrun]

/-- **A text is expanded in one pass.**  Whatever the text and the environment are, no cut is made at an
offset that is no place in the text, and what comes out, with what is reported, is what one reading of the
text from left to right comes to, and nothing else is. -/
theorem expand_is_one_pass (env : Environment) (text : String) :
    ∃ out events, expand env text = some ⟨out, events⟩ ∧
      ∀ out' events', OnePass env text.toList out' events' ↔ out' = out.toList ∧ events' = events := by
  obtain ⟨out, events, hpass⟩ := exists_onePass env text.toList
  have hexpand := expand_of_onePass hpass
  refine ⟨_, _, hexpand, fun out' events' => ⟨fun hpass' => ?_, ?_⟩⟩
  · have hsame := hexpand.symm.trans (expand_of_onePass hpass')
    simp only [Option.some.injEq, Logged.mk.injEq] at hsame
    refine ⟨?_, hsame.2.symm⟩
    rw [hsame.1, String.toList_ofList]
  · rintro ⟨rfl, rfl⟩
    rwa [String.toList_ofList]

/-- What is put in may look like a reference, and a default may look like the mark before it. -/
example : (expand (fun name => if name = "A" then some "$\x7bB\x7d" else none)
    "é$\x7bA\x7d$\x7bC:-:-\x7d$\x7bD\x7d$\x7b").map (fun r => (r.value, r.events)) =
      some ("é$\x7bB\x7d:-$\x7b", [.variableMissing "D"]) := by decide +kernel

/-! ### The variables that matter -/

theorem fst_splitDefault_of_not_isInfix {reference : List Char} (h : ¬ [':', '-'] <:+: reference) :
    (splitDefault reference).1 = reference := by
  fun_induction splitDefault reference with
  | case1 => rfl
  | case2 r => exact absurd (List.prefix_append [':', '-'] r).isInfix h
  | case3 c r _ name default hsplit ih =>
    rw [hsplit] at ih
    exact congrArg (c :: ·) (ih fun hin => h (hin.trans (List.suffix_cons c r).isInfix))

theorem fst_splitDefault_of_splits {reference name default : List Char}
    (h : SplitsAtFirst [':', '-'] reference name default) : (splitDefault reference).1 = name := by
  fun_induction splitDefault reference generalizing name with
  | case1 => simpa using h.eq
  | case2 r =>
    have := h.first [] r rfl
    simpa using this
  | case3 c r hnot name' default' hsplit ih =>
    rw [hsplit] at ih
    cases name with
    | nil => exact absurd h.eq (by simpa using fun hc hr => hnot _ hc hr)
    | cons d name =>
      obtain rfl : c = d := (List.cons.inj h.eq).1
      exact congrArg (c :: ·) (ih h.tail)

theorem not_mem_of_splits {x : Char} {s before behind : List Char} (h : SplitsAtFirst [x] s before behind) :
    x ∉ before := by
  intro hmem
  obtain ⟨a, b, rfl⟩ := List.append_of_mem hmem
  have := h.first a (b ++ [x] ++ behind) (by simp [h.eq])
  simp only [List.length_append, List.length_cons] at this
  omega

/-- The pieces up to the end of the first reference. -/
theorem pieces_of_splits {s before behind reference rest : List Char}
    (hopen : SplitsAtFirst ['$', '\x7b'] s before behind)
    (hclose : SplitsAtFirst ['\x7d'] behind reference rest) :
    pieces s = before.map .plain ++ .reference reference :: pieces rest := by
  induction before generalizing s with
  | nil =>
    have htake : behind.takeWhile (· != '\x7d') = reference := by
      have hall : ∀ c ∈ reference, (c != '\x7d') = true := fun c hc =>
        bne_iff_ne.mpr fun heq => not_mem_of_splits hclose (heq ▸ hc)
      simp [hclose.eq, List.takeWhile_append_of_pos hall]
    have hdrop : behind.drop reference.length = '\x7d' :: rest := by simp [hclose.eq]
    rw [show s = '$' :: '\x7b' :: behind from hopen.eq, pieces]
    split
    · next hnil =>
      rw [htake, hdrop] at hnil
      cases hnil
    · next hcons =>
      rw [htake, hdrop] at hcons
      cases hcons
      simp only [htake, List.map_nil, List.nil_append]
  | cons c before ih =>
    obtain rfl : s = c :: (before ++ ['$', '\x7b'] ++ behind) := hopen.eq
    have hnot (t : List Char) (hc : c = '$') (ht : before ++ ['$', '\x7b'] ++ behind = '\x7b' :: t) :
        False := hopen.not_isPrefix ⟨t, by rw [ht, hc]; rfl⟩
    rw [pieces, ih hopen.tail]
    · rfl
    · exact hnot

theorem Stands.congr {env' : Environment} {reference value : List Char} {events : List Event}
    (h : Stands env reference value events)
    (hsame : env (String.ofList (splitDefault reference).1) =
      env' (String.ofList (splitDefault reference).1)) : Stands env' reference value events := by
  cases h with
  | value hsplit hset =>
    rw [fst_splitDefault_of_splits hsplit] at hsame
    exact .value hsplit (hsame ▸ hset)
  | default hsplit hunset =>
    rw [fst_splitDefault_of_splits hsplit] at hsame
    exact .default hsplit (hsame ▸ hunset)
  | valueAlone hnone hset =>
    rw [fst_splitDefault_of_not_isInfix hnone] at hsame
    exact .valueAlone hnone (hsame ▸ hset)
  | nothing hnone hunset =>
    rw [fst_splitDefault_of_not_isInfix hnone] at hsame
    exact .nothing hnone (hsame ▸ hunset)

theorem OnePass.congr {env' : Environment} {s out : List Char} {events : List Event}
    (h : OnePass env s out events)
    (hsame : ∀ r, .reference r ∈ pieces s →
      env (String.ofList (splitDefault r).1) = env' (String.ofList (splitDefault r).1)) :
    OnePass env' s out events := by
  induction h with
  | plain hnone => exact .plain hnone
  | unclosed hopen hnone => exact .unclosed hopen hnone
  | reference hopen hclose hstands hrest ih =>
    rw [pieces_of_splits hopen hclose] at hsame
    refine .reference hopen hclose (hstands.congr (hsame _ ?_)) (ih fun r hr => hsame r ?_)
    · simp
    · simp [hr]

/-- **Only the variables that a text refers to matter.** -/
theorem expand_congr {env' : Environment} {text : String}
    (hsame : ∀ name ∈ referencedNames text, env name = env' name) :
    expand env text = expand env' text := by
  obtain ⟨out, events, hpass⟩ := exists_onePass env text.toList
  have hpass' : OnePass env' text.toList out events :=
    hpass.congr fun r hr => hsame _ (List.mem_filterMap.mpr ⟨_, hr, rfl⟩)
  rw [expand_of_onePass hpass, expand_of_onePass hpass']

end ClusterTopology.Config
