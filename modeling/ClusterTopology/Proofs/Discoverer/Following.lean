import Mathlib.Data.List.Induction
import Mathlib.Tactic.Common
import ClusterTopology.Aggregation
import ClusterTopology.Proofs.Discoverer.Run
/-!
What closing all sources comes to, and one close followed through a run.

A source that fails to release what it holds is reported on, and the ones after it are closed all the same.
What is told at the end is the failure of the first of those that failed.

Calls are known by their places, and a call that comes back moves the ones after it.  To say what one of them
has done, among all that goes on at the same time, is to follow its place from step to step and to keep what
its own steps do.  A close that is followed like that has closed all sources when it comes back, whatever they
answer and whoever else closes them.

A `Followed` is the place of a call, what it has done, and the answers that it has had; `see` takes it
through one step, and `follow` through a trace.  `CallStep` says what a step can do to the list of calls: it
is one of a call, which goes on in its place or comes back and is taken out, or it leaves the calls where
they are.  With it the lemmas of `Proofs.Discoverer.Exhaustive` need not look at the places of other calls.
-/

namespace ClusterTopology

/-! ## Releases -/

namespace Sources

/-! ### What comes of the sources -/

/-- A source told to release what it holds: its place and its name, and what comes of it. -/
structure Release where
  position : Nat
  name : String
  answer : Logged (Except TopologyError Unit)

namespace Release

def failure? (r : Release) : Option TopologyError :=
  match r.answer.value with
  | .ok () => none
  | .error e => some e

/-- What the world sees of one source closed: it is told, and then come its own reports and, if it
fails, a warning. -/
def told (r : Release) : List Effect :=
  .closed r.position ::
    Effect.ofEvents (r.answer.events ++ r.failure?.toList.map (.sourceCloseFailed r.name))

theorem failure?_eq_none_iff {r : Release} : r.failure? = none ↔ r.answer.value = .ok () := by
  cases hvalue : r.answer.value with
  | ok u => simp [failure?, hvalue]
  | error e => simp [failure?, hvalue]

/-- The failure of the first of those that fail. -/
def firstFailure (rs : List Release) : Option TopologyError := rs.findSome? failure?

theorem firstFailure_eq_none_iff {rs : List Release} :
    firstFailure rs = none ↔ ∀ r ∈ rs, r.answer.value = .ok () := by
  simp only [firstFailure, List.findSome?_eq_none_iff, failure?_eq_none_iff]

theorem firstFailure_cons (r : Release) (rs : List Release) :
    firstFailure (r :: rs) = r.failure?.or (firstFailure rs) := by
  cases h : r.failure? with
  | none => simp [firstFailure, h]
  | some e => simp [firstFailure, h]

theorem firstFailure_concat (rs : List Release) (r : Release) :
    firstFailure (rs ++ [r]) = (firstFailure rs).or r.failure? := by
  rw [firstFailure, List.findSome?_append, firstFailure]
  simp

end Release

end Sources

open Sources (Release)

/-! ### One answer -/

/-- **An answer is told, and the closing goes on whatever it is**: a failure counts if it is the first. -/
theorem Closing.answer_eq (c : Closing) (answer : Logged (Except TopologyError Unit)) :
    c.answer answer.value =
      ⟨next (c.failure.or (Release.mk c.position c.name answer).failure?) (c.position + 1) c.rest,
        (Release.mk c.position c.name answer).failure?.toList.map (.sourceCloseFailed c.name)⟩ := by
  cases hvalue : answer.value with
  | ok u => simp [Closing.answer, Release.failure?, hvalue]
  | error e =>
    cases hfailure : c.failure with
    | none => simp [Closing.answer, Release.failure?, hvalue, hfailure]
    | some first => simp [Closing.answer, Release.failure?, hvalue, hfailure]

/-! ### All sources -/

namespace Sources

variable {ω κ : Type} (S : Sources ω κ)

/-- The sources that are left, closed one after the other. -/
def releasesFrom : List String → Nat → ω → List Release
  | [], _, _ => []
  | name :: rest, position, w =>
    ⟨position, name, (S.close w position).1⟩ ::
      releasesFrom rest (position + 1) (S.close w position).2

def releases (w : ω) : List Release := S.releasesFrom (S.names w) 0 w

variable {names : List String} {position : Nat} {w : ω}

theorem names_releasesFrom : (S.releasesFrom names position w).map Release.name = names := by
  induction names generalizing position w with
  | nil => rfl
  | cons name rest ih => exact congrArg (name :: ·) ih

theorem positions_releasesFrom :
    (S.releasesFrom names position w).map Release.position = List.range' position names.length := by
  induction names generalizing position w with
  | nil => rfl
  | cons name rest ih => exact congrArg (position :: ·) ih

/-- A source closed, and then the ones after it. -/
theorem closeFrom_cons (name : String) (rest : List String) (failure : Option TopologyError) :
    S.closeFrom (name :: rest) position failure w =
      let r : Release := ⟨position, name, (S.close w position).1⟩
      let after := S.closeFrom rest (position + 1) (failure.or r.failure?) (S.close w position).2
      (after.1, after.2.1, r.told ++ after.2.2) := by
  rw [closeFrom]
  simp only [Closing.answer_eq]
  cases rest with
  | nil => rfl
  | cons next rest => rfl

/-- The sources that are left are closed, with a failure or without one before them. -/
theorem closeFrom_eq (failure : Option TopologyError) :
    (S.closeFrom names position failure w).1 =
        failure.or (Release.firstFailure (S.releasesFrom names position w)) ∧
      (S.closeFrom names position failure w).2.2 =
        (S.releasesFrom names position w).flatMap Release.told := by
  induction names generalizing position failure w with
  | nil => cases failure <;> exact ⟨rfl, rfl⟩
  | cons name rest ih =>
    rw [S.closeFrom_cons]
    simp only [ih, releasesFrom, Release.firstFailure_cons, Option.or_assoc, List.flatMap_cons, and_self]

/-- **Closing is exhaustive**: every source is closed once, in the order of the names and whatever the
others do, each failure is warned of, and the first failure is the result. -/
theorem closeAll_exhaustive (w : ω) :
    (S.releases w).map Release.name = S.names w ∧
      (S.releases w).map Release.position = List.range (S.names w).length ∧
      (S.closeAll w).1 = Release.firstFailure (S.releases w) ∧
      (S.closeAll w).2.2 = (S.releases w).flatMap Release.told := by
  have hall : (S.closeAll w).1 = none.or (Release.firstFailure (S.releases w)) ∧
      (S.closeAll w).2.2 = (S.releases w).flatMap Release.told := S.closeFrom_eq none
  rw [Option.none_or] at hall
  refine ⟨S.names_releasesFrom, ?_, hall⟩
  rw [List.range_eq_range']
  exact S.positions_releasesFrom

end Sources

/-! ## Calls and their places -/

def Effect.isReturned : Effect → Bool
  | .returned _ => true
  | _ => false

theorem Effect.isReturned_of_mem_ofEvents {events : List Event} {e : Effect}
    (he : e ∈ Effect.ofEvents events) : e.isReturned = false := by
  obtain ⟨event, -, rfl⟩ := List.mem_map.mp he
  rfl

theorem Effect.any_isReturned_ofEvents (events : List Event) :
    (Effect.ofEvents events).any isReturned = false := by
  rw [List.any_eq_false]
  intro e he
  rw [isReturned_of_mem_ofEvents he]
  exact Bool.false_ne_true

namespace Discoverer

variable {setup : Setup}

/-! ### Following a call -/

def Action.call? : Action → Option Nat
  | .proceed k | .sourceClosed k _ => some k
  | _ => none

/-- The answer of a source that an action brings to a close. -/
def Action.answer? : Action → Option (Except TopologyError Unit)
  | .sourceClosed _ r => some r
  | _ => none

/-- A call that is followed: its place among the calls until it comes back, the answers of sources that
have come to it, and what it has done. -/
structure Followed where
  place : Option Nat
  answers : List (Except TopologyError Unit)
  effects : List Effect

namespace Followed

/-- A call that is followed, after one more step.  Its own steps are kept; when a call before it comes
back, it moves up. -/
def see (f : Followed) (t : Taken) : Followed :=
  match f.place, t.1.call? with
  | some k, some j =>
    if j = k then
      ⟨if t.2.any Effect.isReturned then none else some k, f.answers ++ t.1.answer?.toList,
        f.effects ++ t.2⟩
    else if t.2.any Effect.isReturned && j < k then { f with place := some (k - 1) }
    else f
  | _, _ => f

end Followed

/-- The call that is at a place when a trace begins, followed to its end. -/
def follow (k : Nat) (tr : List Taken) : Followed := tr.foldl Followed.see ⟨some k, [], []⟩

theorem follow_concat (k : Nat) (tr : List Taken) (t : Taken) :
    follow k (tr ++ [t]) = (follow k tr).see t := by
  simp [follow]

/-- What a call that is followed does is among what is done. -/
theorem Followed.mem_effects_see {f : Followed} {t : Taken} {e : Effect} (he : e ∈ (f.see t).effects) :
    e ∈ f.effects ∨ e ∈ t.2 := by
  unfold see at he
  split at he
  · split at he
    · exact List.mem_append.mp he
    · split at he <;> exact .inl he
  · exact .inl he

theorem mem_effectsOf_of_mem_follow {k : Nat} {tr : List Taken} {e : Effect}
    (he : e ∈ (follow k tr).effects) : e ∈ effectsOf tr := by
  induction tr using List.reverseRecOn with
  | nil => cases he
  | append_singleton tr t ih =>
    rw [follow_concat] at he
    rw [effectsOf_append, List.mem_append]
    exact (Followed.mem_effects_see he).imp ih fun hstep => by simpa [effectsOf] using hstep

/-! ### What a step does to calls -/

namespace State

/-- A step leaves the calls that there are where they are, or it is one of a call, which goes on or comes
back. -/
inductive CallStep (s : State) (a : Action) (s' : State) (es : List Effect) : Prop where
  | elsewhere (ha : a.call? = none)
      (hcalls : ∀ (k : Nat) (c : Call), s.calls[k]? = some c → s'.calls[k]? = some c)
  | goes {j : Nat} {c' : Call} (ha : a.call? = some j) (hcalls : s'.calls = s.calls.set j c')
      (hes : es.any Effect.isReturned = false)
  | returns {j : Nat} (ha : a.call? = some j) (hcalls : s'.calls = s.calls.eraseIdx j)
      (hes : es.any Effect.isReturned = true)

theorem callStep_enterClosing (s : State) {a : Action} {k : Nat} (ha : a.call? = some k)
    (events : List Event) (stage : Closing.Stage) :
    CallStep s a (s.enterClosing k events stage).1 (s.enterClosing k events stage).2 := by
  match stage with
  | .closing c =>
    refine .goes ha rfl ?_
    simp [enterClosing, Effect.any_isReturned_ofEvents, Effect.isReturned]
  | .ended none =>
    refine .returns ha rfl ?_
    simp [enterClosing, finish, Effect.isReturned]
  | .ended (some e) =>
    refine .returns ha rfl ?_
    simp [enterClosing, finish, Effect.isReturned]

theorem getElem?_append_of_some {calls : List Call} {k : Nat} {c : Call} (h : calls[k]? = some c)
    (more : List Call) : (calls ++ more)[k]? = some c := by
  obtain ⟨hk, -⟩ := List.getElem?_eq_some_iff.mp h
  rw [List.getElem?_append_left hk, h]

theorem Goes.callStep {s s' : State} {a : Action} {es : List Effect} (hgoes : Goes setup s a s' es) :
    CallStep s a s' es := by
  cases hgoes with
  | subscribe _ => exact .elsewhere rfl fun _ _ h => getElem?_append_of_some h _
  | start _ _ => exact .elsewhere rfl fun _ _ h => getElem?_append_of_some h _
  | close _ => exact .elsewhere rfl fun _ _ h => getElem?_append_of_some h _
  | subscribed _ => exact .returns rfl (by simp [finish]) rfl
  | spawned _ => exact .goes rfl rfl rfl
  | left _ => exact .returns rfl rfl rfl
  | taken _ _ => exact .goes rfl rfl rfl
  | unsupervised _ _ => exact s.callStep_enterClosing rfl _ _
  | joined _ _ => exact s.callStep_enterClosing rfl _ _
  | sourceClosed _ _ => exact s.callStep_enterClosing rfl _ _
  | _ => exact .elsewhere rfl fun _ _ h => h

/-- A call that is followed keeps its place, or moves up, while others go on. -/
theorem CallStep.see_of_ne {s s' : State} {a : Action} {es : List Effect} (h : CallStep s a s' es)
    {f : Followed} {k : Nat} {c : Call} (hplace : f.place = some k) (hcall : s.calls[k]? = some c)
    (hother : a.call? ≠ some k) :
    ∃ k', f.see (a, es) = { f with place := some k' } ∧ s'.calls[k']? = some c := by
  obtain ⟨place, answers, effects⟩ := f
  subst hplace
  cases h with
  | elsewhere ha hcalls =>
    refine ⟨k, ?_, hcalls k c hcall⟩
    simp [Followed.see, ha]
  | @goes j c' ha hcalls hes =>
    have hne : j ≠ k := fun hjk => hother (hjk ▸ ha)
    refine ⟨k, ?_, ?_⟩
    · simp [Followed.see, ha, hne, hes]
    · rw [hcalls, List.getElem?_set_ne hne, hcall]
  | @returns j ha hcalls hes =>
    have hne : j ≠ k := fun hjk => hother (hjk ▸ ha)
    by_cases hbefore : j < k
    · refine ⟨k - 1, ?_, ?_⟩
      · simp [Followed.see, ha, hne, hes, hbefore]
      · rw [hcalls, List.getElem?_eraseIdx, if_neg (by omega), Nat.sub_add_cancel (by omega), hcall]
    · refine ⟨k, ?_, ?_⟩
      · simp [Followed.see, ha, hne, hbefore]
      · rw [hcalls, List.getElem?_eraseIdx, if_pos (by omega), hcall]

end State

theorem Followed.see_own {f : Followed} {k : Nat} {a : Action} (hplace : f.place = some k)
    (ha : a.call? = some k) (es : List Effect) :
    f.see (a, es) = ⟨if es.any Effect.isReturned then none else some k,
      f.answers ++ a.answer?.toList, f.effects ++ es⟩ := by
  simp [see, hplace, ha]

end Discoverer

end ClusterTopology
