import ClusterTopology.Proofs.Discoverer.Cycles
import ClusterTopology.Proofs.Discoverer.Requests
import ClusterTopology.Proofs.Discoverer.Starts
import ClusterTopology.Proofs.Discoverer.Unread
/-!
The control loop is never lost.

A worker, a control loop and a supervisor can each end in more than one way.  While no close has been
made none of these ways leaves the discoverer without a loop for good: a worker's end is joined by its
loop, a loop ends with a panic only, and after a panic the supervisor spawns another one.

What tasks share lives on between two loops.  Until the new loop begins its first cycle nothing stores a
snapshot or writes a mailbox, and a request stays where it is.

The first part is the invariant `Tends`: a supervisor has a live loop, or is on its way to one.  Every step
keeps it while nothing is closed, and from each of its places `recovery` gives the steps that lead to a live
loop, which `Recovers` says can be taken.  The second part follows a loop that has panicked.  `Down`
compares a state with the one at the panic, and every step keeps it until a loop begins its first cycle: the
current snapshot is the same, nothing has been written, and a request is outstanding exactly when one was or
a mailbox has been handed out since.
-/

namespace ClusterTopology

/-- Once as much time has passed as was left until then, it is then or later. -/
theorem Instant.le_add_sub (now time : Instant) : time ≤ now + (time - now) :=
  Nat.sub_le_iff_le_add'.mp (Nat.le_refl _)

/-- Whether an effect changes the current snapshot or a mailbox. -/
def Effect.isWrite : Effect → Bool
  | .stored _ | .deposited _ _ => true
  | _ => false

theorem Effect.not_isWrite_of_isOfClient {e : Effect} (h : e.isOfClient = true) :
    e.isWrite = false := by
  cases e <;> first | rfl | cases h

theorem Effect.not_isWrite_of_mem_ofEvents {events : List Event} {e : Effect}
    (he : e ∈ ofEvents events) : e.isWrite = false := by
  obtain ⟨event, -, rfl⟩ := List.mem_map.mp he
  rfl

namespace Discoverer

variable {setup : Setup}

/-! ### A supervisor at its work -/

/-- A supervisor that keeps a control loop going: it is about to spawn one, waits for a live one, is
about to see that one has panicked, or pauses after a panic. -/
inductive Supervisor.Tends : Supervisor → Prop where
  | spawning : Tends .spawning
  | watching {l : Loop} (halive : l.isAlive = true) : Tends (.watching l)
  | panicked (p : Panic) : Tends (.watching (.panicked p))
  | pausing (wake : Instant) : Tends (.pausing wake)

theorem Loop.Goes.tends {sh : Shared} {m : LoopMove} {l : Loop} {t : Turn Loop}
    (hgoes : Goes setup sh m l t) (hopen : sh.closed = false) :
    (Supervisor.watching t.task).Tends := by
  cases hgoes with
  | abandon ticker w hclosed => simp [hopen] at hclosed
  | stop hwaits hclosed => simp [hopen] at hclosed
  | reportOverflow h hadd => exact .panicked _
  | crash hwaits p => exact .panicked p
  | _ => exact .watching rfl

theorem Supervisor.Goes.tends {sh : Shared} {m : SupervisorMove} {v : Supervisor}
    {t : Turn Supervisor} (hgoes : Goes setup sh m v t) (hopen : sh.closed = false)
    (htends : v.Tends) : t.task.Tends := by
  cases hgoes with
  | spawn => exact .watching rfl
  | control hgoes => exact hgoes.tends hopen
  | finish =>
    cases htends with
    | watching halive => cases halive
  | pause p => exact .pausing _
  | wake h => exact .spawning
  | leave time hclosed => simp [hopen] at hclosed

/-- **While the discoverer is not closed, its supervisor keeps a control loop going.** -/
theorem State.tends_step {s s' : State} {a : Action} {es : List Effect} (hsole : s.IsSole)
    (hgoes : Goes setup s a s' es) (hopen : s.shared.closed = false)
    (htends : ∀ v ∈ s.supervisors, v.Tends) : ∀ v ∈ s'.supervisors, v.Tends := by
  cases hgoes.taskStep hsole with
  | @supervise m v t hv hmoves =>
    intro v' hv'
    rw [adopt_supervisors hv, List.mem_singleton] at hv'
    rw [hv']
    exact hmoves.tends hopen (htends v (by simp [hv]))
  | stray hw hgoes => exact htends
  | discard hj => exact htends
  | client ha hcurrent hstrays hserved hes =>
    generalize s.supervisors = vs at hserved htends
    generalize s'.supervisors = vs' at hserved
    cases hserved with
    | kept vs => exact htends
    | spawned =>
      intro v hv
      rw [List.mem_singleton.mp hv]
      exact .spawning
    | woken due =>
      intro v hv
      rw [List.mem_singleton.mp hv]
      exact .watching rfl

theorem tends_of_run {now : Instant} {as : List Action} {s : State} {es : List Effect}
    (hrun : run setup (State.new now) as = some (s, es)) (hopen : s.shared.closed = false) :
    ∀ v ∈ s.supervisors, v.Tends := by
  have hkept := reached_effects_induction
    (P := fun s _ => s.shared.closed = false → ∀ v ∈ s.supervisors, v.Tends)
    (by simp [State.new]) ?_ hrun
  · exact hkept.1 hopen
  · intro s s' past es a hsole ih hgoes hopen
    -- what is open after a step was open before it
    have hbefore : s.shared.closed = false := by
      by_contra hclosed
      rw [hgoes.closed_of_closed (Bool.not_eq_false _ ▸ hclosed)] at hopen
      cases hopen
    exact State.tends_step hsole hgoes hbefore (ih hbefore)

/-- The steps of the supervisor, with the time that they take, up to where a control loop is spawned. -/
def Supervisor.recovery (now : Instant) : Supervisor → List Action
  | .spawning => [.supervise 0 .spawn]
  | .pausing wake => [.elapse (wake - now), .supervise 0 .wake, .supervise 0 .spawn]
  | .watching (.panicked _) =>
    [.supervise 0 .observe, .elapse backoff, .supervise 0 .wake, .supervise 0 .spawn]
  | _ => []

/-- The steps of a supervisor have led to a live control loop. -/
def Recovers (setup : Setup) (s : State) (as : List Action) : Prop :=
  ∃ s' es' l, run setup s as = some (s', es') ∧ s'.supervisors = [.watching l] ∧ l.isAlive = true

theorem Recovers.cons {s s₁ : State} {a : Action} {es₁ : List Effect} {as : List Action}
    (hstep : s.step setup a = some (s₁, es₁)) (hrest : Recovers setup s₁ as) :
    Recovers setup s (a :: as) := by
  obtain ⟨s', es', l, hrun, hloop, halive⟩ := hrest
  exact ⟨s', es₁ ++ es', l, run_cons_eq_some_iff.mpr ⟨s₁, es₁, es', hstep, hrun, rfl⟩, hloop, halive⟩

theorem State.step_supervise {s : State} {v : Supervisor} {m : SupervisorMove} {t : Turn Supervisor}
    (hv : s.supervisors = [v]) (ht : v.move setup s.shared m = some t) :
    s.step setup (.supervise 0 m) = some (s.adopt 0 t) := by
  simp [step, hv, ht]

/-- The steps of a supervisor that keeps a control loop going lead to a live one. -/
theorem Supervisor.Tends.recovers {s : State} {v : Supervisor} (htends : v.Tends)
    (hv : s.supervisors = [v]) : Recovers setup s (v.recovery s.shared.now) := by
  have hspawning {s : State} (hv : s.supervisors = [.spawning]) :
      Recovers setup s [.supervise 0 .spawn] := by
    refine .cons (State.step_supervise hv rfl) ⟨_, _, .launched, rfl, ?_, rfl⟩
    exact State.adopt_supervisors hv _
  have hpausing {s : State} {wake : Instant} (hv : s.supervisors = [.pausing wake]) :
      Recovers setup s [.elapse (wake - s.shared.now), .supervise 0 .wake, .supervise 0 .spawn] := by
    have hdue := Instant.le_add_sub s.shared.now wake
    refine .cons rfl (.cons (State.step_supervise hv (if_pos hdue)) (hspawning ?_))
    exact State.adopt_supervisors hv _
  cases htends with
  | spawning => exact hspawning hv
  | @watching l halive =>
    refine ⟨s, [], l, ?_, hv, halive⟩
    cases l <;> first | rfl | cases halive
  | panicked p =>
    refine .cons (State.step_supervise hv rfl) ?_
    have hrest := hpausing (State.adopt_supervisors hv
      (.reporting (.pausing (s.shared.now + backoff)) s.shared [.loopPanicked p.message]))
    simpa [State.adopt, Turn.reporting] using hrest
  | pausing wake => exact hpausing hv

/-! ### Between two control loops -/

/-- A supervisor whose control loop has panicked, until the next one begins its first cycle. -/
inductive Supervisor.IsDown : Supervisor → Prop where
  | panicked (p : Panic) : IsDown (.watching (.panicked p))
  | pausing (wake : Instant) : IsDown (.pausing wake)
  | spawning : IsDown .spawning
  | launched : IsDown (.watching .launched)
  | returned : IsDown .returned

/-- What is left of a control loop that panics: a request that had woken it is stored. -/
theorem Loop.Goes.shared_of_panics {sh : Shared} {m : LoopMove} {l : Loop} {t : Turn Loop} {p : Panic}
    (hgoes : Goes setup sh m l t) (hpanics : t.task = .panicked p) :
    t.shared = sh.handBack (Supervisor.watching l).isWoken ∧ t.strays = [] ∧
      ∀ e ∈ t.effects, e.isWrite = false := by
  cases hgoes with
  | reportOverflow h hadd =>
    exact ⟨(Shared.handBack_false sh).symm, rfl, fun _ => Effect.not_isWrite_of_mem_ofEvents⟩
  | crash hwaits p =>
    rw [hwaits.isWoken_eq]
    exact ⟨rfl, rfl, by simp [Turn.quiet]⟩
  | _ => cases hpanics

/-- A supervisor between two loops touches nothing that tasks share. -/
theorem Supervisor.Goes.down {sh : Shared} {m : SupervisorMove} {v : Supervisor}
    {t : Turn Supervisor} (hgoes : Goes setup sh m v t) (hdown : v.IsDown)
    (hm : m ≠ .control .launch) :
    (Action.supervise 0 m).loopMove? = none ∧ t.task.IsDown ∧ t.shared = sh ∧ t.strays = [] ∧
      ∀ e ∈ t.effects, e.isWrite = false := by
  cases hgoes with
  | spawn => exact ⟨rfl, .launched, rfl, rfl, by simp [Turn.quiet]⟩
  | control hgoes =>
    cases hdown with
    | panicked p =>
      cases hgoes with
      | stop hwaits hclosed => cases hwaits
      | tick hwaits hdue => cases hwaits
      | crash hwaits p => cases hwaits
    | launched =>
      cases hgoes with
      | launch => exact absurd rfl hm
      | stop hwaits hclosed => cases hwaits
      | tick hwaits hdue => cases hwaits
      | crash hwaits p => cases hwaits
  | finish => cases hdown
  | pause p => exact ⟨rfl, .pausing _, rfl, rfl, fun _ => Effect.not_isWrite_of_mem_ofEvents⟩
  | wake h => exact ⟨rfl, .spawning, rfl, rfl, by simp [Turn.quiet]⟩
  | leave time hclosed => exact ⟨rfl, .returned, rfl, rfl, by simp [Turn.quiet]⟩

/-- A discoverer between two control loops, as the panic of the first has left it: but for the steps of
readers and for requests, all that is shared is as it was in `s₀`. -/
structure State.Down (s₀ s : State) (past : List Effect) : Prop where
  down : ∃ v, s.supervisors = [v] ∧ v.IsDown
  strays : s.strays = []
  current : s.shared.current = s₀.shared.current
  unwritten : ∀ e ∈ past, e.isWrite = false
  requests : 0 < s.requests ↔ 0 < s₀.requests ∨ ∃ i, .returned (.mailbox i) ∈ past

/-- A step that the control loop has no part in loses no request and makes none up. -/
theorem State.Goes.requests_pos_iff {s s' : State} {a : Action} {es : List Effect} (hsole : s.IsSole)
    (hgoes : Goes setup s a s' es) (ha : a.loopMove? = none) :
    0 < s'.requests ↔ 0 < s.requests ∨ ∃ i, .returned (.mailbox i) ∈ es := by
  cases hgoes.requestStep hsole with
  | @asked i _ hpending hparked hrequests hes =>
    have hroom : 0 < s.room := by
      unfold room
      split <;> omega
    have hnow : ∃ i, .returned (.mailbox i) ∈ es := ⟨i, by simp [hes]⟩
    simp only [hnow, or_true, iff_true]
    omega
  | moved hmove _ _ => simp [hmove] at ha
  | other _ hparked hrequests hhanded hpassed =>
    have hnone : ¬ ∃ i, .returned (.mailbox i) ∈ es := by
      rintro ⟨i, hi⟩
      have := List.countP_eq_zero.mp hhanded _ hi
      exact this rfl
    rw [hrequests]
    simp [hnone]

theorem Action.loopMove?_of_isOfClient {a : Action} (h : a.isOfClient = true) :
    a.loopMove? = none := by
  cases a <;> first | rfl | cases h

theorem State.Down.step {s₀ s s' : State} {a : Action} {past es : List Effect} (hsole : s.IsSole)
    (h : s₀.Down s past) (ha : a.beginsCycle = false) (hgoes : Goes setup s a s' es) :
    s₀.Down s' (past ++ es) := by
  obtain ⟨⟨v, hv, hdown⟩, hstrays, hcurrent, hunwritten, hrequests⟩ := h
  have hafter (hmove : a.loopMove? = none) :
      0 < s'.requests ↔ 0 < s₀.requests ∨ ∃ i, .returned (.mailbox i) ∈ past ++ es := by
    rw [hgoes.requests_pos_iff hsole hmove, hrequests, or_assoc, ← exists_or]
    simp only [List.mem_append]
  cases hgoes.taskStep hsole with
  | @supervise m v' t hv' hmoves =>
    obtain rfl : v' = v := by simpa [hv'] using hv
    have hm : m ≠ .control .launch := by
      rintro rfl
      cases ha
    obtain ⟨hmove, hdown', hshared, hleft, hevents⟩ := hmoves.down hdown hm
    refine ⟨⟨t.task, adopt_supervisors hv _, hdown'⟩, ?_, ?_, ?_, hafter hmove⟩
    · simp [adopt, hstrays, hleft]
    · simp [adopt, hshared, hcurrent]
    · exact List.forall_mem_append.mpr ⟨hunwritten, hevents⟩
  | stray hw hmoves => simp [hstrays] at hw
  | discard hj => simp [hstrays] at hj
  | client hclient hsame hsameStrays hserved hes =>
    refine ⟨?_, hsameStrays.trans hstrays, hsame.trans hcurrent, ?_, hafter ?_⟩
    · rw [hv] at hserved
      generalize s'.supervisors = vs at hserved
      cases hserved with
      | kept vs => exact ⟨v, rfl, hdown⟩
      | woken due => cases hdown
    · exact List.forall_mem_append.mpr
        ⟨hunwritten, fun e he => Effect.not_isWrite_of_isOfClient (hes e he)⟩
    · exact Action.loopMove?_of_isOfClient hclient

/-- A step with which the control loop panics leaves all that is shared to the next one. -/
theorem State.down_of_panics {s s' : State} {a : Action} {es : List Effect} {p : Panic}
    (hsole : s.IsSole) (hgoes : Goes setup s a s' es)
    (hbefore : ∀ p, s.supervisors ≠ [.watching (.panicked p)])
    (hafter : s'.supervisors = [.watching (.panicked p)]) (hstrays : s'.strays = []) :
    s.Down s' es := by
  cases hgoes.taskStep hsole with
  | @supervise m v t hv hmoves =>
    obtain ⟨-, -, hreturned⟩ := hmoves.frame
    have hone := adopt_supervisors hv t
    have htask : t.task = .watching (.panicked p) := by
      rw [hone] at hafter
      exact List.singleton_inj.mp hafter
    cases hmoves with
    | @control m l t hmoves =>
      obtain ⟨hshared, -, hevents⟩ := hmoves.shared_of_panics (Supervisor.watching.inj htask)
      refine ⟨⟨_, hafter, .panicked p⟩, hstrays, ?_, hevents, ?_⟩
      · simp [adopt, Turn.map, hshared, Shared.handBack]
      · have hnone : ¬ ∃ i, Effect.returned (.mailbox i) ∈ t.effects := by
          rintro ⟨i, hi⟩
          exact hreturned _ hi
        have hwoken : (t.map Supervisor.watching).task.isWoken = false := by
          rw [htask]
          rfl
        have hpermit := s.shared.toNat_permit_handBack (Supervisor.watching l).isWoken
        rw [requests_of_eq hone, requests_of_eq hv, hwoken]
        simp only [adopt, Turn.map, hshared, hpermit, Bool.toNat_false, hnone, or_false]
        omega
    | _ => cases htask
  | stray hw hmoves => exact absurd hafter (hbefore p)
  | discard hj => exact absurd hafter (hbefore p)
  | client hclient hsame hsameStrays hserved hes =>
    rw [hafter] at hserved
    generalize hvs : s.supervisors = vs at hserved
    cases hserved with
    | kept vs => exact absurd hvs (hbefore p)

/-- **The control loop is never lost.**  Once a start has come back there is a supervisor.  As long as no
close has been made it is about to spawn a control loop, waits for a live one, is about to see that
one has panicked, or pauses, and its own steps lead from there to a live loop; it returns only after a
close.  A panic of the control loop leaves to the next one all that it had: until that begins its
first cycle the current snapshot stays, nothing is stored or published, a request is outstanding if
one was before the panic or has been made since, and a mailbox holds what it held but for what its
reader takes. -/
theorem control_loop_is_never_lost {now : Instant} {as : List Action} {s : State} {es : List Effect}
    (hrun : run setup (State.new now) as = some (s, es)) (hstarted : .returned .started ∈ es) :
    ∃ v, s.supervisors = [v] ∧
      ((∀ a ∈ as, a ≠ .close) → v.Tends ∧ Recovers setup s (v.recovery s.shared.now)) ∧
      (v = .returned → .close ∈ as) ∧
      ∀ a s₁ es₁ p as₂ s₂ es₂, s.step setup a = some (s₁, es₁) →
        (∀ p, v ≠ .watching (.panicked p)) → s₁.supervisors = [.watching (.panicked p)] →
        run setup s₁ as₂ = some (s₂, es₂) → (∀ b ∈ as₂, b.beginsCycle = false) →
        s₂.shared.current = s.shared.current ∧ (∀ e ∈ es₁ ++ es₂, e.isWrite = false) ∧
        (0 < s₂.requests ↔ 0 < s.requests ∨ ∃ i, .returned (.mailbox i) ∈ es₁ ++ es₂) ∧
        ∀ (i : Nat) (b : Box), s.shared.registry.boxes[i]? = some b →
          ∃ b', s₂.shared.registry.boxes[i]? = some b' ∧
            b.After (Effect.looks i (es₁ ++ es₂)) b' := by
  obtain ⟨v, hv⟩ := exists_supervisor_of_started hrun hstarted
  have htends (hnone : ∀ a ∈ as, a ≠ .close) : v.Tends := by
    have hopen : s.shared.closed = false := closed_of_run hrun hnone
    exact tends_of_run hrun hopen v (by simp [hv])
  refine ⟨v, hv, ?_, ?_, ?_⟩
  · intro hnone
    exact ⟨htends hnone, (htends hnone).recovers hv⟩
  · rintro rfl
    by_contra hnone
    have hends := htends fun a ha hclose => hnone (hclose ▸ ha)
    cases hends
  · intro a s₁ es₁ p as₂ s₂ es₂ hstep hbefore hafter hrest hquiet
    have hsole : s.IsSole := isSole_of_reaches ⟨now, as, hrun⟩
    have hgoes := State.goes_of_step hstep
    have hstrays : s₁.strays = [] := by
      rcases ((standing_of_run hrun).1.step hsole hgoes).1.strays_cases with hnone | ⟨v, w, hends⟩
      · exact hnone
      · obtain rfl : v = .watching (.panicked p) := by simpa [hafter] using hends.1.symm
        exact hends.2.1.elim
    have hpanics : s.Down s₁ es₁ := by
      refine State.down_of_panics hsole hgoes ?_ hafter hstrays
      intro p hpanicked
      rw [hv] at hpanicked
      exact hbefore p (List.singleton_inj.mp hpanicked)
    have hdown : s.Down s₂ (es₁ ++ es₂) ∧ s₂.IsSole := by
      refine run_actions_induction (A := fun b => b.beginsCycle = false)
        (P := fun s₂ past => s.Down s₂ past ∧ s₂.IsSole) ?_ hquiet hrest
        ⟨hpanics, hsole.step hgoes⟩
      intro s₂ s₃ past es b h hb hgoes
      exact ⟨h.1.step h.2 hb hgoes, h.2.step hgoes⟩
    refine ⟨hdown.1.current, hdown.1.unwritten, hdown.1.requests, ?_⟩
    intro i b hb
    refine box_after_run (run_cons_eq_some_iff.mpr ⟨s₁, es₁, es₂, hstep, hrest, rfl⟩) hb ?_
    intro x hx
    cases hdown.1.unwritten _ hx

/-- A run up to a point where the control loop sleeps and has been woken: the worker of the first cycle
has panicked, and a mailbox holds the snapshot of the second unread. -/
def untilWoken : List Action :=
  [.subscribe, .proceed 0] ++ untilFirstCycle ++
    [loopStep (.work .begin), loopStep (.work (.answer (.panicked .other))), loopStep .join,
      loopStep .deposit, loopStep .report, loopStep .refresh] ++ loadedCycle ++
    [loopStep .deposit, loopStep .report, loopStep .park, .subscribe, .proceed 0]

/-- What the supervisor and a reader do between two control loops. -/
def betweenLoops : List Action :=
  [.supervise 0 .observe, .read 0, .elapse Supervisor.backoff, .supervise 0 .wake,
    .supervise 0 .spawn, .read 0]

theorem woken_loop_is_restarted :
    ∃ s es s₁ es₁ s₂ es₂, run oneSource (State.new 0) untilWoken = some (s, es) ∧
      .returned .started ∈ es ∧ (∃ v, s.supervisors = [v] ∧ v.Tends) ∧
      s.step oneSource (loopStep (.crash .other)) = some (s₁, es₁) ∧
      run oneSource s₁ betweenLoops = some (s₂, es₂) ∧
      s₂.supervisors = [.watching .launched] ∧ s₂.shared.current = s.shared.current ∧
      0 < s₂.requests ∧ Effect.looks 0 (es₁ ++ es₂) = [some [], none] := by
  have hend : (run oneSource (State.new 0) untilWoken).bind (fun r =>
      (r.1.step oneSource (loopStep (.crash .other))).bind fun r₁ =>
        (run oneSource r₁.1 betweenLoops).map fun r₂ =>
          (r.2.contains (.returned .started), r.1.requests,
            [r.1.supervisors, r₁.1.supervisors, r₂.1.supervisors],
            decide (Effect.looks 0 (r₁.2 ++ r₂.2) = [some [], none]))) =
      some (true, 1, [[.watching (.parked 10 true)], [.watching (.panicked .other)],
        [.watching .launched]], true) := by decide +kernel
  obtain ⟨⟨s, es⟩, hrun, hend⟩ := Option.bind_eq_some_iff.mp hend
  obtain ⟨⟨s₁, es₁⟩, hstep, hend⟩ := Option.bind_eq_some_iff.mp hend
  obtain ⟨⟨s₂, es₂⟩, hrest, hend⟩ := Option.map_eq_some_iff.mp hend
  simp only [Prod.mk.injEq, List.contains_iff_mem, List.cons.injEq, and_true, decide_eq_true_eq]
    at hend
  obtain ⟨hstarted, hasked, ⟨hparked, hpanicked, hlaunched⟩, hlooks⟩ := hend
  obtain ⟨v, hv, htends, -, hpanics⟩ := control_loop_is_never_lost hrun hstarted
  have hopen : ∀ a ∈ untilWoken, a ≠ .close := by
    simp [untilWoken, untilFirstCycle, loadedCycle, loopStep]
  obtain rfl : v = .watching (.parked 10 true) := by simpa [hv] using hparked
  obtain ⟨hcurrent, -, hrequests, -⟩ := hpanics _ _ _ _ _ _ _ hstep (by simp) hpanicked hrest
    (by simp [betweenLoops, Action.beginsCycle])
  refine ⟨s, es, s₁, es₁, s₂, es₂, hrun, hstarted, ⟨_, hv, (htends hopen).1⟩, hstep, hrest,
    hlaunched, hcurrent, ?_, hlooks⟩
  rw [hrequests, hasked]
  exact .inl Nat.one_pos

end Discoverer

end ClusterTopology
