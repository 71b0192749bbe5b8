import ClusterTopology.Proofs.Discoverer.Supervision
/-!
What can still come of a discoverer, and of one that is started after it has been closed.

Nothing forces a task to go on, so what is said here is what some run leads to.  A supervisor that keeps a
control loop going can come to a cycle, a cycle can begin to ask its sources, and whatever its worker is at it
can end in a publication, which can go on to every mailbox there is.

A close waits for the supervisor whose handle it finds.  A start that comes later, or has spawned its supervisor
and not yet left the handle, is not waited for, and it does not look whether the discoverer is closed.  Its
control loop does, but only beside a worker that it has spawned already: that may have begun to ask the first
source, and may even have been joined, before the loop sees the close.

A closed discoverer is inert when no start can come, none has yet to spawn, and no supervisor and no worker is
left at work.
-/

/-! ## What some run leads to -/

namespace ClusterTopology.Discoverer

variable {setup : Setup}

/-! ### Leading on -/

/-- Some run from here has an effect of a kind. -/
def State.Leads (setup : Setup) (s : State) (p : Effect → Prop) : Prop :=
  ∃ as s' es e, run setup s as = some (s', es) ∧ e ∈ es ∧ p e

/-- Some run from here writes a mailbox. -/
def State.CanWrite (setup : Setup) (s : State) (i : Nat) : Prop :=
  s.Leads setup fun e => ∃ x, e = .deposited i x

/-- Some run from here begins the query of a source. -/
def State.CanQuery (setup : Setup) (s : State) (i : Nat) : Prop :=
  s.Leads setup fun e => ∃ time deadline, e = .queried i time deadline

namespace State.Leads

variable {s : State} {p : Effect → Prop}

theorem of_effect {s₁ : State} {a : Action} {es₁ : List Effect} {e : Effect}
    (hstep : s.step setup a = some (s₁, es₁)) (he : e ∈ es₁) (hp : p e) : s.Leads setup p := by
  refine ⟨[a], s₁, es₁ ++ [], e, ?_, List.mem_append_left _ he, hp⟩
  exact run_cons_eq_some_iff.mpr ⟨s₁, es₁, [], hstep, rfl, rfl⟩

theorem of_step {s₁ : State} {a : Action} {es₁ : List Effect}
    (hstep : s.step setup a = some (s₁, es₁)) (h : s₁.Leads setup p) : s.Leads setup p := by
  obtain ⟨as, s', es, e, hrun, he, hp⟩ := h
  exact ⟨a :: as, s', es₁ ++ es, e, run_cons_eq_some_iff.mpr ⟨s₁, es₁, es, hstep, hrun, rfl⟩,
    List.mem_append_right _ he, hp⟩

theorem of_supervisor {v : Supervisor} {m : SupervisorMove} {t : Turn Supervisor}
    (hv : s.supervisors = [v]) (ht : v.move setup s.shared m = some t)
    (h : (s.adopt 0 t).1.Leads setup p) : s.Leads setup p :=
  of_step (State.step_supervise hv ht) h

theorem of_loop {l : Loop} {m : LoopMove} {t : Turn Loop} (hv : s.supervisors = [.watching l])
    (ht : l.move setup s.shared m = some t) (h : (s.adopt 0 (t.map .watching)).1.Leads setup p) :
    s.Leads setup p := by
  refine of_supervisor (m := .control m) hv ?_ h
  simp [Supervisor.move, ht]

theorem of_worker {ticker : Option Instant} {w : Worker} {m : WorkerMove} {t : Turn Worker}
    (hv : s.supervisors = [.watching (.cycling ticker w)]) (ht : w.move setup s.shared m = some t)
    (h : (s.adopt 0 ((t.map (.cycling ticker)).map .watching)).1.Leads setup p) :
    s.Leads setup p := by
  refine of_loop (m := .work m) hv ?_ h
  simp [Loop.move, ht]

theorem of_spawning (hv : s.supervisors = [.spawning])
    (h : ∀ s' : State, s'.supervisors = [.watching (.cycling none .spawned)] → s'.shared = s.shared →
      s'.Leads setup p) : s.Leads setup p := by
  have hspawned := State.adopt_supervisors hv (.quiet (.watching .launched) s.shared)
  refine of_supervisor (m := .spawn) hv rfl (of_loop (m := .launch) hspawned rfl ?_)
  exact h _ (State.adopt_supervisors hspawned _) rfl

/-- A supervisor that keeps a control loop going can come to a cycle. -/
theorem of_tends {v : Supervisor} (hv : s.supervisors = [v]) (htends : v.Tends) (hrests : ¬ v.InCycle)
    (h : ∀ (s' : State) (ticker : Option Instant),
      s'.supervisors = [.watching (.cycling ticker .spawned)] →
      s'.shared.registry = s.shared.registry → s'.Leads setup p) : s.Leads setup p := by
  have hpausing {s : State} {wake : Instant} (hv : s.supervisors = [.pausing wake])
      (h : ∀ s' : State, s'.supervisors = [.watching (.cycling none .spawned)] →
        s'.shared.registry = s.shared.registry → s'.Leads setup p) : s.Leads setup p := by
    refine of_step (a := .elapse (wake - s.shared.now)) rfl ?_
    have hdue := Instant.le_add_sub s.shared.now wake
    refine of_supervisor (m := .wake) hv (if_pos hdue) (of_spawning (State.adopt_supervisors hv _) ?_)
    intro s' hv' hshared
    exact h s' hv' (by rw [hshared]; rfl)
  have hwaiting {l : Loop} {due : Instant} {notified : Bool} (hv : s.supervisors = [.watching l])
      (hwaits : l.Waits due notified) : s.Leads setup p := by
    refine of_step (a := .elapse (due - s.shared.now)) rfl ?_
    have hdue := Instant.le_add_sub s.shared.now due
    cases hwaits with
    | choosing due =>
      exact of_loop (m := .tick) hv (if_pos hdue) (h _ _ (State.adopt_supervisors hv _) rfl)
    | parked due notified =>
      exact of_loop (m := .tick) hv (if_pos hdue) (h _ _ (State.adopt_supervisors hv _) rfl)
  cases htends with
  | spawning => exact of_spawning hv fun s' hv' hshared => h s' none hv' (by rw [hshared])
  | pausing wake => exact hpausing hv fun s' hv' hregistry => h s' none hv' hregistry
  | panicked p =>
    refine of_supervisor (m := .observe) hv rfl (hpausing (State.adopt_supervisors hv _) ?_)
    intro s' hv' hregistry
    exact h s' none hv' hregistry
  | @watching l halive =>
    cases l with
    | launched => exact of_loop (m := .launch) hv rfl (h _ _ (State.adopt_supervisors hv _) rfl)
    | cycling ticker w => exact absurd trivial hrests
    | publishing ticker f => exact absurd trivial hrests
    | choosing due => exact hwaiting hv (.choosing due)
    | parked due notified => exact hwaiting hv (.parked due notified)
    | ended => cases halive
    | panicked p => cases halive

end State.Leads

/-! ### A cycle -/

theorem Loop.move_deposit {sh : Shared} (ticker : Option Instant) {f : Fanout} (h : f.done < f.count) :
    (publishing ticker f).move setup sh .deposit =
      some ⟨.publishing ticker { f with done := f.done + 1 },
        { sh with registry := sh.registry.deposit f.done f.snapshot },
        [.deposited f.done f.snapshot], []⟩ :=
  if_pos h

theorem Worker.exists_begin (setup : Setup) (sh : Shared) :
    ∃ t, Worker.spawned.move setup sh .begin = some t ∧ t.shared = sh ∧ t.task ≠ .spawned := by
  rcases hadd : Instant.add? sh.now setup.interval with _ | deadline
  · exact ⟨_, by simp [move, hadd]; rfl, rfl, by simp [Turn.quiet]⟩
  · refine ⟨_, by simp [move, hadd]; rfl, rfl, ?_⟩
    cases setup.sources <;> simp [Aggregation.start, Aggregation.ask, enter]

namespace State

variable {s : State} {i : Nat} {ticker : Option Instant}

open Leads

theorem canWrite_of_publishing {f : Fanout} (hv : s.supervisors = [.watching (.publishing ticker f)])
    (hdone : f.done ≤ i) (hi : i < f.count) : s.CanWrite setup i := by
  -- by the mailboxes that come before it
  induction hleft : i - f.done generalizing s f with
  | zero =>
    obtain rfl : f.done = i := by omega
    have hmove : (Supervisor.watching (.publishing ticker f)).move setup s.shared (.control .deposit) =
        some _ := congrArg (Option.map (Turn.map Supervisor.watching)) (Loop.move_deposit ticker hi)
    exact of_effect (State.step_supervise hv hmove) (.head _) ⟨f.snapshot, rfl⟩
  | succ n ih =>
    refine of_loop hv (Loop.move_deposit ticker (by omega)) ?_
    refine ih (State.adopt_supervisors hv _) ?_ hi ?_
    · change f.done + 1 ≤ i
      omega
    · change i - (f.done + 1) = n
      omega

/-- Whatever the worker of a cycle is at, the cycle can end in a publication. -/
theorem canWrite_of_cycling {w : Worker} (hv : s.supervisors = [.watching (.cycling ticker w)])
    (hi : i < s.shared.registry.size) : s.CanWrite setup i := by
  have hended {s : State} {o : Outcome} (hv : s.supervisors = [.watching (.cycling ticker (.ended o))])
      (hi : i < s.shared.registry.size) : s.CanWrite setup i :=
    of_loop (m := .join) hv rfl
      (canWrite_of_publishing (State.adopt_supervisors hv _) (Nat.zero_le i) hi)
  have hbegun {s : State} {w : Worker} (hv : s.supervisors = [.watching (.cycling ticker w)])
      (hw : w ≠ .spawned) (hi : i < s.shared.registry.size) : s.CanWrite setup i := by
    cases w with
    | spawned => exact absurd rfl hw
    | asking a =>
      -- a source that panics ends the cycle at once, whichever sources were still to be asked
      exact of_worker (m := .answer (.panicked .other)) hv rfl (hended (State.adopt_supervisors hv _) hi)
    | gathered x => exact of_worker (m := .store) hv rfl (hended (State.adopt_supervisors hv _) hi)
    | ended o => exact hended hv hi
  by_cases hw : w = .spawned
  · subst hw
    obtain ⟨t, hmove, hshared, hbegan⟩ := Worker.exists_begin setup s.shared
    refine of_worker hv hmove (hbegun (State.adopt_supervisors hv _) hbegan ?_)
    change i < t.shared.registry.size
    rw [hshared]
    exact hi
  · exact hbegun hv hw hi

/-- A cycle can begin to ask the first source, while the clock can show its deadline. -/
theorem canQuery_of_spawned {deadline : Instant}
    (hv : s.supervisors = [.watching (.cycling ticker .spawned)])
    (hadd : Instant.add? s.shared.now setup.interval = some deadline) (hsources : setup.sources ≠ []) :
    s.CanQuery setup 0 := by
  obtain ⟨name, rest, hnames⟩ := List.exists_cons_of_ne_nil hsources
  have hmove : (Supervisor.watching (.cycling ticker .spawned)).move setup s.shared
      (.control (.work .begin)) = some ⟨.watching (.cycling ticker
        (.asking ⟨deadline, [], 0, name, rest⟩)), s.shared, [.queried 0 s.shared.now deadline], []⟩ := by
    simp [Supervisor.move, Loop.move, Worker.move, hadd, hnames, Aggregation.start, Aggregation.ask,
      Worker.enter, Turn.map]
  exact of_effect (State.step_supervise hv hmove) (.head _) ⟨_, _, rfl⟩

theorem canWrite_of_tends {v : Supervisor} (hv : s.supervisors = [v]) (htends : v.Tends)
    (hrests : ¬ v.InCycle) (hi : i < s.shared.registry.size) : s.CanWrite setup i := by
  refine of_tends hv htends hrests ?_
  intro s' ticker hv' hregistry
  exact canWrite_of_cycling hv' (by rw [hregistry]; exact hi)

end State

end ClusterTopology.Discoverer

/-! ## Starting a discoverer that has been closed -/

namespace ClusterTopology

/-- Whether an effect is the begin of a query or a write of a mailbox. -/
def Effect.isOutward : Effect → Bool
  | .queried _ _ _ | .deposited _ _ => true
  | _ => false

theorem Effect.not_isOutward_of_isOfClient {e : Effect} (h : e.isOfClient = true) :
    e.isOutward = false := by
  cases e <;> first | rfl | cases h

namespace Discoverer

variable {setup : Setup}

/-! ### A start to come -/

/-- **Being closed does not stop a first start.**  Whether closes have been made of it or not: while a
discoverer is held and has not been started, a start can lead to a query, and to a snapshot in
every mailbox there is. -/
theorem unstarted_can_go_on {s : State} {es : List Effect} (hreached : Reaches setup s es)
    (hheld : s.held = true) (hstarted : s.started = false) :
    (∀ i < s.shared.registry.size, s.CanWrite setup i) ∧
      (setup.sources ≠ [] → (Instant.add? s.shared.now setup.interval).isSome → s.CanQuery setup 0) := by
  have hnil : s.supervisors = [] := by
    have hsole : s.IsSole := isSole_of_reaches hreached
    simp only [State.IsSole, hstarted, Bool.false_eq_true, if_false] at hsole
    exact List.eq_nil_of_length_eq_zero (by omega)
  have hstart {p : Effect → Prop} (h : ∀ s' : State,
      s'.supervisors = [.watching (.cycling none .spawned)] → s'.shared = s.shared →
      s'.Leads setup p) : s.Leads setup p := by
    let begun : State := { s with started := true, calls := s.calls ++ [.starting] }
    let spawned : State := { begun with
      supervisors := s.supervisors ++ [.spawning]
      calls := begun.calls.set s.calls.length (.leaving s.supervisors.length) }
    have hbegin : s.step setup .start = some (begun, []) := by
      simp only [State.step, if_pos hheld, hstarted, Bool.false_eq_true, if_false, begun]
    have hspawn : begun.step setup (.proceed s.calls.length) = some (spawned, []) := by
      simp [State.step, State.proceed, begun, spawned]
    exact .of_step hbegin (.of_step hspawn (.of_spawning (by simp [spawned, hnil]) h))
  refine ⟨?_, ?_⟩
  · intro i hi
    refine hstart ?_
    intro s' hv' hshared
    exact State.canWrite_of_cycling hv' (by rw [hshared]; exact hi)
  · intro hsources hadd
    obtain ⟨deadline, hadd⟩ := Option.isSome_iff_exists.mp hadd
    refine hstart ?_
    intro s' hv' hshared
    exact State.canQuery_of_spawned hv' (by rw [hshared]; exact hadd) hsources

/-- A subscription to a discoverer that is not started, and a close of it. -/
def closedUnstarted : List Action :=
  [.subscribe, .proceed 0, .close, .proceed 0, .sourceClosed 0 (.ok ())]

/-- A start after a close that has come back can still ask a source and write a mailbox. -/
theorem start_after_close_goes_on :
    ∃ s₀ es₀ s es, run oneSource (State.new 0) closedUnstarted = some (s₀, es₀) ∧
      (∀ a ∈ closedUnstarted, a ≠ .start) ∧ .returned (.closed none) ∈ es₀ ∧
      run oneSource s₀ (untilFirstCycle ++ loadedCycle ++ [loopStep .deposit]) = some (s, es) ∧
      .queried 0 0 10 ∈ es ∧ .deposited 0 [] ∈ es := by
  have hend : (run oneSource (State.new 0) closedUnstarted).bind (fun r₀ =>
      (run oneSource r₀.1 (untilFirstCycle ++ loadedCycle ++ [loopStep .deposit])).map fun r =>
        (r₀.2.contains (.returned (.closed none)), r.2.contains (.queried 0 0 10),
          r.2.contains (.deposited 0 []))) = some (true, true, true) := by decide +kernel
  obtain ⟨⟨s₀, es₀⟩, hclosed, hend⟩ := Option.bind_eq_some_iff.mp hend
  obtain ⟨⟨s, es⟩, hstart, hend⟩ := Option.map_eq_some_iff.mp hend
  simp only [Prod.mk.injEq, List.contains_iff_mem] at hend
  exact ⟨s₀, es₀, s, es, hclosed, by simp [closedUnstarted], hend.1, hstart, hend.2⟩

/-! ### Nothing to come -/

/-- No start can come, none has yet to spawn, and no task is left at work. -/
structure State.Settled (s : State) : Prop where
  started : s.held = true → s.started = true
  unspawned : s.unspawned = 0
  ended : ∀ v ∈ s.supervisors, v.IsOver
  strays : s.strays = []

/-- No step is a start, or the spawn that one has left to do. -/
theorem State.Settled.startStep {s s' : State} {a : Action} {es : List Effect} (hsole : s.IsSole)
    (h : s.Settled) (hgoes : Goes setup s a s' es) :
    (s'.held = true → s'.started = true) ∧ s'.unspawned = 0 ∧
      s'.supervisors.length = s.supervisors.length := by
  have hkept : s'.started = s.started ∧ s'.unspawned = 0 ∧
      s'.supervisors.length = s.supervisors.length := by
    cases hgoes.startStep hsole with
    | began ha hbefore hafter hstarts hunspawned hlength hes =>
      subst ha
      cases hgoes with
      | startAgain hheld hstarted => simp [hbefore] at hstarted
      | start hheld hstarted => exact absurd (h.started hheld) (by simp [hstarted])
    | refused ha hstarted hstate hes =>
      subst hstate
      exact ⟨rfl, h.unspawned, rfl⟩
    | spawned ha hstarted hstarts hunspawned hlength hes =>
      have := h.unspawned
      omega
    | left ha hstarted hstarts hunspawned hlength hes =>
      exact ⟨hstarted, hunspawned.trans h.unspawned, hlength⟩
    | none ha hstarted hstarts hunspawned hlength hes =>
      exact ⟨hstarted, hunspawned.trans h.unspawned, hlength⟩
  refine ⟨?_, hkept.2⟩
  -- a drop takes the hold away, and every other step keeps it
  intro hheld
  by_cases ha : a = .drop
  · subst ha
    cases hgoes with
    | drop _ _ => cases hheld
  · exact hkept.1.trans (h.started ((hgoes.held_eq ha).symm.trans hheld))

theorem Supervisor.Served.isOver {vs vs' : List Supervisor} (h : Served vs vs')
    (hlength : vs'.length = vs.length) (hover : ∀ v ∈ vs, v.IsOver) : ∀ v ∈ vs', v.IsOver := by
  cases h with
  | kept vs => exact hover
  | spawned => cases hlength
  | woken due => exact (hover _ (.head _)).elim

theorem State.Settled.step {s s' : State} {a : Action} {es : List Effect} (hsole : s.IsSole)
    (h : s.Settled) (hgoes : Goes setup s a s' es) :
    s'.Settled ∧ ∀ e ∈ es, e.isOutward = false := by
  obtain ⟨hstarted, hunspawned, hlength⟩ := h.startStep hsole hgoes
  cases hgoes.taskStep hsole with
  | @supervise m v t hv hmoves =>
    obtain ⟨rfl, rfl⟩ := hmoves.over (h.ended v (by simp [hv]))
    refine ⟨⟨hstarted, hunspawned, ?_, by simp [adopt, Turn.quiet, h.strays]⟩, by simp [Turn.quiet]⟩
    intro v' hv'
    rw [adopt_supervisors hv, List.mem_singleton] at hv'
    rw [hv']
    trivial
  | stray hw hmoves => simp [h.strays] at hw
  | discard hj => simp [h.strays] at hj
  | client ha hcurrent hstrays hserved hes =>
    refine ⟨⟨hstarted, hunspawned, hserved.isOver hlength h.ended, hstrays.trans h.strays⟩, ?_⟩
    intro e he
    exact Effect.not_isOutward_of_isOfClient (hes e he)

/-- **Once nothing is to come, nothing comes**: no source is asked and no mailbox is written, whatever
calls follow. -/
theorem settled_is_inert {s s' : State} {as : List Action} {es past : List Effect}
    (hreached : Reaches setup s past) (h : s.Settled) (hrun : run setup s as = some (s', es)) :
    s'.Settled ∧ ∀ e ∈ es, e.isOutward = false := by
  have hkept := run_effects_induction
    (P := fun s past => (s.Settled ∧ s.IsSole) ∧ ∀ e ∈ past, e.isOutward = false) ?_ hrun
    ⟨⟨h, isSole_of_reaches hreached⟩, List.forall_mem_nil _⟩
  · exact ⟨hkept.1.1, by simpa using hkept.2⟩
  · rintro s s' past es a ⟨⟨h, hsole⟩, hpast⟩ hgoes
    obtain ⟨h', hes⟩ := h.step hsole hgoes
    exact ⟨⟨h', hsole.step hgoes⟩, List.forall_mem_append.mpr ⟨hpast, hes⟩⟩

end Discoverer

end ClusterTopology
