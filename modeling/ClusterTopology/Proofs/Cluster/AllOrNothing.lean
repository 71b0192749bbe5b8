import Mathlib.Tactic.Common
import ClusterTopology.Aggregation
import ClusterTopology.Simulation.Run
/-!
What an aggregation comes to, and what it does on its way.

An aggregation loads when every source does, each asked when the one before has answered, and then it has what
they have found, in their order.  A source that does not load ends it with its own outcome.

Every source has an answer for the time at which its turn would come (`Asked`).  The aggregation has all answers
or one failure: it goes through the sources in their order, each asked once under the one deadline and each
reported on, and the first answer that is no part of the topology is the last that it hears.  Nothing is
assumed of the sources, which may remember what was done with them and may panic.

The proof goes along the list of sources that are left, with what has been found so far as a parameter: one
lemma for a source that loads and one for one that does not, and from them one for a row of sources that all
load and one for the first that does not.  Every row of answers is of one of these two sorts.
-/

/-! ## Asking, one source after the other -/

namespace ClusterTopology.Sources

variable {ω κ : Type} (S : Sources ω κ) {deadline : Instant}

/-- The sources that are left load one after the other, from a time and a memory on, and these are the
parts that they find. -/
inductive Loads (deadline : Instant) :
    List String → Nat → Instant → ω → List Snapshot → Prop where
  | nil (position : Nat) (now : Instant) (w : ω) : Loads deadline [] position now w []
  | cons {name : String} {rest : List String} {position : Nat} {now : Instant} {w : ω}
      {part : Snapshot} {parts : List Snapshot}
      (hpart : (S.finish w (S.begin w position now deadline)).1.value = .loaded part)
      (hrest : Loads deadline rest (position + 1) (S.ready (S.begin w position now deadline))
        (S.finish w (S.begin w position now deadline)).2 parts) :
      Loads deadline (name :: rest) position now w (part :: parts)

variable {name : String} {rest : List String} {position : Nat} {found : Snapshot} {now : Instant}
  {w : ω}

/-- What is left after one source, and then after the ones that follow it. -/
def Pass.after {α : Type} (effects : List Effect) (p : Pass ω α) : Pass ω α :=
  { p with effects := effects ++ p.effects }

/-- The sources after one that loads are asked when it has answered. -/
theorem askFrom_cons_of_loaded {part : Snapshot}
    (h : (S.finish w (S.begin w position now deadline)).1.value = .loaded part) :
    S.askFrom deadline (name :: rest) position found now w =
      (S.askFrom deadline rest (position + 1) (found ++ part)
        (S.ready (S.begin w position now deadline))
        (S.finish w (S.begin w position now deadline)).2).after
      (.queried position now deadline ::
        Effect.ofEvents ((S.finish w (S.begin w position now deadline)).1.events ++
          [.sourceQueried name part.length])) := by
  cases rest with
  | nil => simp [askFrom, h, Aggregation.answer, Aggregation.ask, Pass.after]
  | cons next rest => simp [askFrom, h, Aggregation.answer, Aggregation.ask, Pass.after]

/-- No source is asked after one that fails. -/
theorem askFrom_cons_of_failed {e : TopologyError}
    (h : (S.finish w (S.begin w position now deadline)).1.value = .failed e) :
    S.askFrom deadline (name :: rest) position found now w =
      ⟨S.ready (S.begin w position now deadline), .failed e,
        (S.finish w (S.begin w position now deadline)).2,
        .queried position now deadline ::
          Effect.ofEvents ((S.finish w (S.begin w position now deadline)).1.events ++
            [.sourceFailed name e])⟩ := by
  simp [askFrom, h, Aggregation.answer]

/-- No source is asked after one that panics. -/
theorem askFrom_cons_of_panicked {p : Panic}
    (h : (S.finish w (S.begin w position now deadline)).1.value = .panicked p) :
    S.askFrom deadline (name :: rest) position found now w =
      ⟨S.ready (S.begin w position now deadline), .panicked p,
        (S.finish w (S.begin w position now deadline)).2,
        .queried position now deadline ::
          Effect.ofEvents (S.finish w (S.begin w position now deadline)).1.events⟩ := by
  simp [askFrom, h, Aggregation.answer]

theorem askFrom_of_loaded {part : Snapshot}
    (h : (S.finish w (S.begin w position now deadline)).1.value = .loaded part) :
    (S.askFrom deadline (name :: rest) position found now w).value =
      (S.askFrom deadline rest (position + 1) (found ++ part)
        (S.ready (S.begin w position now deadline))
        (S.finish w (S.begin w position now deadline)).2).value := by
  rw [S.askFrom_cons_of_loaded h, Pass.after]

theorem askFrom_of_not_loaded {o : Outcome}
    (h : (S.finish w (S.begin w position now deadline)).1.value = o) (ho : ∀ part, o ≠ .loaded part) :
    (S.askFrom deadline (name :: rest) position found now w).value = o := by
  cases o with
  | loaded part => exact absurd rfl (ho part)
  | failed e => rw [S.askFrom_cons_of_failed h]
  | panicked p => rw [S.askFrom_cons_of_panicked h]

/-- **All or nothing, in order.** -/
theorem askFrom_eq_loaded_iff {names : List String} {total : Snapshot} :
    (S.askFrom deadline names position found now w).value = .loaded total ↔
      ∃ parts, S.Loads deadline names position now w parts ∧ total = found ++ parts.flatten := by
  induction names generalizing position found now w with
  | nil =>
    constructor
    · rintro ⟨⟩
      exact ⟨[], .nil position now w, by simp⟩
    · rintro ⟨parts, hloads, rfl⟩
      cases hloads
      simp [askFrom]
  | cons name rest ih =>
    constructor
    · intro htotal
      cases hvalue : (S.finish w (S.begin w position now deadline)).1.value with
      | loaded part =>
        rw [S.askFrom_of_loaded hvalue] at htotal
        obtain ⟨parts, hloads, rfl⟩ := ih.mp htotal
        exact ⟨part :: parts, .cons hvalue hloads, by simp⟩
      | failed e =>
        rw [S.askFrom_of_not_loaded hvalue (by simp)] at htotal
        cases htotal
      | panicked p =>
        rw [S.askFrom_of_not_loaded hvalue (by simp)] at htotal
        cases htotal
    · rintro ⟨parts, hloads, rfl⟩
      cases hloads with
      | @cons _ _ _ _ _ part parts hpart hrest =>
        rw [S.askFrom_of_loaded hpart, ih]
        exact ⟨parts, hrest, by simp⟩

/-- Sources that never panic leave no panic behind. -/
theorem askFrom_ne_panicked (hcalm : ∀ w q p, (S.finish w q).1.value ≠ .panicked p)
    {names : List String} {p : Panic} :
    (S.askFrom deadline names position found now w).value ≠ .panicked p := by
  induction names generalizing position found now w with
  | nil => simp [askFrom]
  | cons name rest ih =>
    cases hvalue : (S.finish w (S.begin w position now deadline)).1.value with
    | loaded part =>
      rw [S.askFrom_of_loaded hvalue]
      exact ih
    | failed e =>
      rw [S.askFrom_of_not_loaded hvalue (by simp)]
      simp
    | panicked q => exact absurd hvalue (hcalm _ _ q)

end ClusterTopology.Sources

/-! ## Answers in their turn -/

namespace ClusterTopology.Sources

/-! ### The answers of the sources -/

/-- A source asked when its turn comes: its place and its name, when its query begins, and what it
answers. -/
structure Asked where
  position : Nat
  name : String
  time : Instant
  answer : Logged Outcome

namespace Asked

def Loads (a : Asked) : Prop := ∃ part, a.answer.value = .loaded part

/-- The part of the topology in an answer; nothing if it has none. -/
def found (a : Asked) : Snapshot :=
  match a.answer.value with
  | .loaded part => part
  | _ => []

/-- What is reported on an answer: how many components it has, or its failure.  A panic goes by
unreported. -/
def report (a : Asked) : List Event :=
  match a.answer.value with
  | .loaded part => [.sourceQueried a.name part.length]
  | .failed e => [.sourceFailed a.name e]
  | .panicked _ => []

/-- What the world sees of one source asked: its query begins, and then come its own reports and the
one on its answer. -/
def told (deadline : Instant) (a : Asked) : List Effect :=
  .queried a.position a.time deadline :: Effect.ofEvents (a.answer.events ++ a.report)

end Asked

variable {ω κ : Type} (S : Sources ω κ) {deadline : Instant}

/-- The sources that are left, each asked when the one before it has answered. -/
def askedFrom (deadline : Instant) : List String → Nat → Instant → ω → List Asked
  | [], _, _, _ => []
  | name :: rest, position, now, w =>
    let query := S.begin w position now deadline
    ⟨position, name, now, (S.finish w query).1⟩ ::
      askedFrom deadline rest (position + 1) (S.ready query) (S.finish w query).2

/-- All sources, each asked when the one before it has answered. -/
def asked (deadline now : Instant) (w : ω) : List Asked :=
  S.askedFrom deadline (S.names w) 0 now w

theorem names_askedFrom {names : List String} {position : Nat} {now : Instant} {w : ω} :
    (S.askedFrom deadline names position now w).map Asked.name = names := by
  induction names generalizing position now w with
  | nil => rfl
  | cons name rest ih => exact congrArg (name :: ·) ih

theorem positions_askedFrom {names : List String} {position : Nat} {now : Instant} {w : ω} :
    (S.askedFrom deadline names position now w).map Asked.position =
      List.range' position names.length := by
  induction names generalizing position now w with
  | nil => rfl
  | cons name rest ih => exact congrArg (position :: ·) ih

/-! ### One source, and then the ones after it -/

variable {name : String} {rest names : List String} {position : Nat} {now : Instant} {w : ω}

/-- An answer with a part of the topology is told, and the sources after it are asked. -/
theorem askFrom_cons_of_loads (found : Snapshot) {a : Asked} {later : List Asked}
    (hasked : S.askedFrom deadline (name :: rest) position now w = a :: later) (h : a.Loads) :
    ∃ time memory, S.askedFrom deadline rest (position + 1) time memory = later ∧
      S.askFrom deadline (name :: rest) position found now w =
        (S.askFrom deadline rest (position + 1) (found ++ a.found) time memory).after
          (a.told deadline) := by
  cases hasked
  obtain ⟨part, hpart⟩ := h
  have hvalue : (S.finish w (S.begin w position now deadline)).1.value = .loaded part := hpart
  refine ⟨_, _, rfl, ?_⟩
  rw [S.askFrom_cons_of_loaded hvalue]
  simp only [Asked.found, Asked.told, Asked.report, hvalue]

/-- Any other answer is told, and is what the aggregation comes to. -/
theorem askFrom_cons_of_not_loads (found : Snapshot) {a : Asked} {later : List Asked}
    (hasked : S.askedFrom deadline (name :: rest) position now w = a :: later) (h : ¬ a.Loads) :
    (S.askFrom deadline (name :: rest) position found now w).value = a.answer.value ∧
      (S.askFrom deadline (name :: rest) position found now w).effects = a.told deadline := by
  cases hasked
  cases hvalue : (S.finish w (S.begin w position now deadline)).1.value with
  | loaded part => exact absurd ⟨part, hvalue⟩ h
  | failed e =>
    rw [S.askFrom_cons_of_failed hvalue]
    simp [Asked.told, Asked.report, hvalue]
  | panicked p =>
    rw [S.askFrom_cons_of_panicked hvalue]
    simp [Asked.told, Asked.report, hvalue]

/-! ### All sources -/

theorem askFrom_of_all_load (found : Snapshot)
    (h : ∀ a ∈ S.askedFrom deadline names position now w, a.Loads) :
    (S.askFrom deadline names position found now w).value =
        .loaded (found ++ (S.askedFrom deadline names position now w).flatMap Asked.found) ∧
      (S.askFrom deadline names position found now w).effects =
        (S.askedFrom deadline names position now w).flatMap (Asked.told deadline) := by
  induction names generalizing position found now w with
  | nil => simp [askFrom, askedFrom]
  | cons name rest ih =>
    obtain ⟨a, later, hasked⟩ : ∃ a later,
        S.askedFrom deadline (name :: rest) position now w = a :: later := ⟨_, _, rfl⟩
    rw [hasked] at h ⊢
    obtain ⟨time, memory, rfl, hask⟩ := S.askFrom_cons_of_loads found hasked (h a (by simp))
    obtain ⟨hvalue, heffects⟩ := ih (found ++ a.found) fun b hb => h b (List.mem_cons_of_mem a hb)
    rw [hask]
    simp only [Pass.after, hvalue, heffects, List.flatMap_cons, List.append_assoc, and_self]

theorem askFrom_of_first_not_loads (found : Snapshot) {before later : List Asked} {a : Asked}
    (hasked : S.askedFrom deadline names position now w = before ++ a :: later)
    (hbefore : ∀ b ∈ before, b.Loads) (h : ¬ a.Loads) :
    (S.askFrom deadline names position found now w).value = a.answer.value ∧
      (S.askFrom deadline names position found now w).effects =
        (before ++ [a]).flatMap (Asked.told deadline) := by
  -- the sources up to the one that ends it are the ones in front, taken one by one
  induction before generalizing names position found now w with
  | nil =>
    cases names with
    | nil => cases hasked
    | cons name rest =>
      simpa using S.askFrom_cons_of_not_loads found hasked h
  | cons b before ih =>
    cases names with
    | nil => cases hasked
    | cons name rest =>
      obtain ⟨time, memory, hlater, hask⟩ :=
        S.askFrom_cons_of_loads found hasked (hbefore b (by simp))
      obtain ⟨hvalue, heffects⟩ := ih (found ++ b.found) hlater
        fun c hc => hbefore c (List.mem_cons_of_mem b hc)
      rw [hask]
      simp only [Pass.after, hvalue, heffects, List.cons_append, List.flatMap_cons, and_self]

/-- The answers are all parts of the topology, or one of them is the first that is none. -/
theorem all_load_or_first_not (answers : List Asked) :
    (∀ a ∈ answers, a.Loads) ∨
      ∃ before a later, answers = before ++ a :: later ∧ (∀ b ∈ before, b.Loads) ∧ ¬ a.Loads := by
  induction answers with
  | nil => exact .inl (by simp)
  | cons a later ih =>
    by_cases h : a.Loads
    · rcases ih with hall | ⟨before, b, later, rfl, hbefore, hb⟩
      · exact .inl (by simpa [h] using hall)
      · exact .inr ⟨a :: before, b, later, rfl, by simpa [h] using hbefore, hb⟩
    · exact .inr ⟨[], a, later, rfl, by simp, h⟩

/-- **Main result: all or nothing, in order.**  The sources have their answers in the order of their
names.  When all of them are parts of the topology, the aggregation comes to the parts put together in
that order, and has told of each source once.  When one is the first that is none, that answer is what
the aggregation comes to, and it has told of the sources up to that one and of no other. -/
theorem aggregate_all_or_nothing (deadline now : Instant) (w : ω) :
    (S.asked deadline now w).map Asked.name = S.names w ∧
      (S.asked deadline now w).map Asked.position = List.range (S.names w).length ∧
      ((∃ total, (S.aggregate deadline now w).value = .loaded total) ↔
        ∀ a ∈ S.asked deadline now w, a.Loads) ∧
      ((∀ a ∈ S.asked deadline now w, a.Loads) →
        (S.aggregate deadline now w).value = .loaded ((S.asked deadline now w).flatMap Asked.found) ∧
        (S.aggregate deadline now w).effects =
          (S.asked deadline now w).flatMap (Asked.told deadline)) ∧
      ∀ before a later, S.asked deadline now w = before ++ a :: later →
        (∀ b ∈ before, b.Loads) → ¬ a.Loads →
        (S.aggregate deadline now w).value = a.answer.value ∧
        (S.aggregate deadline now w).effects = (before ++ [a]).flatMap (Asked.told deadline) := by
  have hall (h : ∀ a ∈ S.asked deadline now w, a.Loads) :=
    S.askFrom_of_all_load [] h
  have hfirst {before a later} (hasked : S.asked deadline now w = before ++ a :: later)
      (hbefore : ∀ b ∈ before, b.Loads) (h : ¬ a.Loads) :=
    S.askFrom_of_first_not_loads [] hasked hbefore h
  refine ⟨S.names_askedFrom, ?_, ⟨?_, ?_⟩, hall, fun _ _ _ => hfirst⟩
  · rw [List.range_eq_range']
    exact S.positions_askedFrom
  · rintro ⟨total, htotal⟩
    refine (all_load_or_first_not (S.asked deadline now w)).resolve_right ?_
    rintro ⟨before, a, later, hasked, hbefore, ha⟩
    exact ha ⟨total, (hfirst hasked hbefore ha).1.symm.trans htotal⟩
  · intro h
    exact ⟨_, (hall h).1⟩

def secondFails : List Simulation.Script :=
  [{ Simulation.Script.named "a" with components := [⟨.pd, "h", 1, 2⟩], delay := 5 },
    { Simulation.Script.named "b" with failure := some (.config "gone") },
    Simulation.Script.named "c"]

/-- The source before the one that fails has been asked and has answered, and the one after it is never
asked. -/
theorem second_failure_ends_aggregation :
    (Simulation.scripted.aggregate 30 0 secondFails).value = .failed (.config "gone") ∧
      (Simulation.scripted.aggregate 30 0 secondFails).effects =
        [.queried 0 0 30, .event (.sourceQueried "a" 1),
          .queried 1 5 30, .event (.sourceFailed "b" (.config "gone"))] := by
  obtain ⟨-, -, -, -, hfirst⟩ := Simulation.scripted.aggregate_all_or_nothing 30 0 secondFails
  refine hfirst [⟨0, "a", 0, pure (.loaded [⟨.pd, "h", 1, 2⟩])⟩]
    ⟨1, "b", 5, pure (.failed (.config "gone"))⟩ [⟨2, "c", 5, pure (.loaded [])⟩] rfl ?_ ?_
  · rintro b hb
    rw [List.mem_singleton.mp hb]
    exact ⟨_, rfl⟩
  · rintro ⟨part, hpart⟩
    cases hpart

end ClusterTopology.Sources
