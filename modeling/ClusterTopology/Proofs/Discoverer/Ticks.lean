import Mathlib.Algebra.GroupWithZero.Nat
import ClusterTopology.Proofs.Discoverer.Run
import ClusterTopology.Proofs.Discoverer.Starts
/-!
When a control loop takes its ticks.

Time passes in steps of its own and stands still in all others, so the clock at the end of a run is the sum of
those steps.

A tick is never taken before it is due, and taking it moves the ticker on by an interval: from where it was
due, when the tick is taken nearly in time, and from now, when it is late.  However the loop has been held up,
a tick therefore keeps the next one away for an interval, less the tolerance.  A ticker that is new, after a
panic of the loop, is due no sooner.

`due?` is the time for which the loop's ticker waits, and `TickStep` says what a step can do to it.
`NoTickBefore` is the invariant that carries a run from one tick to the next, and the bounds on the number
of ticks count how many spacings fit into the time that has passed.
-/

namespace ClusterTopology.Discoverer

variable {setup : Setup}

/-! ## The clock along a run -/

def Action.span : Action → Duration
  | .elapse d => d
  | _ => 0

def elapsed (as : List Action) : Duration := (as.map Action.span).sum

@[simp] theorem elapsed_nil : elapsed [] = 0 := rfl

@[simp] theorem elapsed_cons (a : Action) (as : List Action) :
    elapsed (a :: as) = a.span + elapsed as := by
  simp [elapsed]

@[simp] theorem elapsed_append (as₁ as₂ : List Action) :
    elapsed (as₁ ++ as₂) = elapsed as₁ + elapsed as₂ := by
  simp [elapsed]

theorem Supervisor.Goes.now_eq {sh : Shared} {m : SupervisorMove} {v : Supervisor}
    {t : Turn Supervisor} (hgoes : Goes setup sh m v t) : t.shared.now = sh.now := by
  cases hgoes with
  | control hgoes =>
    cases hgoes with
    | work ticker hgoes =>
      obtain ⟨⟨current, hshared⟩, -⟩ := hgoes.frame
      simp [Turn.map, hshared]
    | _ => rfl
  | _ => rfl

theorem State.Goes.now_eq {s s' : State} {a : Action} {es : List Effect}
    (hgoes : Goes setup s a s' es) : s'.shared.now = s.shared.now + a.span := by
  cases hgoes with
  | elapse d => rfl
  | subscribed _ =>
    simp only [finish, notify]
    split <;> rfl
  | unsupervised _ _ => simp [Action.span]
  | joined _ _ => simp [Action.span]
  | sourceClosed _ _ => simp [Action.span]
  | supervise hv hgoes => exact hgoes.now_eq
  | stray hw hgoes =>
    obtain ⟨⟨current, hshared⟩, -⟩ := hgoes.frame
    simp [hshared, Action.span]
  | _ => rfl

theorem now_of_run {as : List Action} {s s' : State} {es : List Effect}
    (hrun : run setup s as = some (s', es)) : s'.shared.now = s.shared.now + elapsed as := by
  induction as generalizing s es with
  | nil =>
    cases hrun
    rfl
  | cons a as ih =>
    obtain ⟨s₁, es₁, es₂, hfirst, hrest, rfl⟩ := run_cons_eq_some_iff.mp hrun
    rw [ih hrest, (State.goes_of_step hfirst).now_eq, elapsed_cons, Nat.add_assoc]

/-! ## Ticks -/

/-- Whether a control loop begins a cycle with an action because its ticker is due. -/
def Action.isTick : Action → Bool
  | .supervise _ (.control .tick) => true
  | _ => false

theorem Action.span_of_isTick {a : Action} (h : a.isTick = true) : a.span = 0 := by
  cases a <;> first | rfl | cases h

/-! ### The ticker -/

/-- The least time between two ticks. -/
def Setup.spacing (setup : Setup) : Duration := setup.interval - Loop.tolerance

namespace Loop

def due? : Loop → Option Instant
  | .cycling ticker _ | .publishing ticker _ => ticker
  | .choosing due | .parked due _ => some due
  | .launched | .ended | .panicked _ => none

theorem Waits.due?_eq {l : Loop} {due : Instant} {notified : Bool} (h : l.Waits due notified) :
    l.due? = some due := by
  cases h <;> rfl

theorem add_le_nextDue (interval : Duration) (due now : Instant) :
    now + interval ≤ nextDue interval due now + tolerance := by
  unfold nextDue
  split
  · exact Nat.le_add_right _ _
  · lia

/-- A tick moves the next one on by a spacing at least, from when it is taken. -/
theorem add_spacing_le_nextDue (htol : tolerance ≤ setup.interval) (due now : Instant) :
    now + setup.spacing ≤ nextDue setup.interval due now := by
  rw [Setup.spacing, ← Nat.add_sub_assoc htol]
  exact Nat.sub_le_of_le_add (add_le_nextDue setup.interval due now)

theorem nextDue_of_late {interval : Duration} {due now : Instant} (h : due + tolerance < now) :
    nextDue interval due now = now + interval := if_pos h

/-- A loop that moves takes a tick that is due, or keeps its ticker, drops it, or makes one. -/
theorem Goes.due? {sh : Shared} {m : LoopMove} {l : Loop} {t : Turn Loop}
    (hgoes : Goes setup sh m l t) :
    (m = .tick ∧ ∃ due, l.due? = some due ∧ due ≤ sh.now ∧
      t.task.due? = some (nextDue setup.interval due sh.now)) ∨
    (m ≠ .tick ∧ ∀ due, t.task.due? = some due →
      l.due? = some due ∨ due = sh.now + setup.interval) := by
  cases hgoes with
  | tick hwaits hdue => exact .inl ⟨rfl, _, hwaits.due?_eq, hdue, rfl⟩
  | @report ticker f due hdone hdue =>
    -- the report of the first cycle makes the ticker, and later ones keep it
    refine .inr ⟨by simp, ?_⟩
    intro next hnext
    cases hnext
    cases ticker with
    | some due => exact .inl hdue
    | none => exact .inr (Instant.add?_eq_some_iff.mp hdue).2
  | abandon ticker w hclosed => exact .inr ⟨by simp, by simp [Loop.due?]⟩
  | reportOverflow h hadd => exact .inr ⟨by simp, by simp [Turn.reporting, Loop.due?]⟩
  | stop hwaits hclosed => exact .inr ⟨by simp, by simp [Turn.reporting, Loop.due?]⟩
  | crash hwaits p => exact .inr ⟨by simp, by simp [Turn.quiet, Loop.due?]⟩
  | _ => exact .inr ⟨by simp, fun due hdue => .inl hdue⟩

end Loop

def Supervisor.due? : Supervisor → Option Instant
  | .watching l => l.due?
  | _ => none

namespace State

def due? (s : State) : Option Instant := s.supervisors.head?.bind Supervisor.due?

theorem due?_of_eq {s : State} {v : Supervisor} (h : s.supervisors = [v]) : s.due? = v.due? := by
  simp [due?, h]

theorem due?_of_not_started {s : State} (hsole : s.IsSole) (hstarted : s.started = false) :
    s.due? = none := by
  have hlength : s.supervisors.length = 0 := by
    rw [IsSole, hstarted] at hsole
    exact Nat.eq_zero_of_add_eq_zero_right (Nat.le_zero.mp hsole)
  simp [due?, List.eq_nil_of_length_eq_zero hlength]

/-- A step takes a tick that is due, or leaves the control loop with the ticker that it had, with a new
one, or with none. -/
inductive TickStep (setup : Setup) (s : State) (a : Action) (s' : State) : Prop where
  | tick {due : Instant} (ha : a.isTick = true) (hbefore : s.due? = some due)
      (hdue : due ≤ s.shared.now)
      (hafter : s'.due? = some (Loop.nextDue setup.interval due s.shared.now))
  | other (ha : a.isTick = false) (hafter : ∀ due, s'.due? = some due →
      s.due? = some due ∨ due = s.shared.now + setup.interval)

theorem tickStep_supervise {s : State} {m : SupervisorMove} {v : Supervisor} {t : Turn Supervisor}
    (hv : s.supervisors = [v]) (hgoes : Supervisor.Goes setup s.shared m v t) :
    TickStep setup s (.supervise 0 m) (s.adopt 0 t).1 := by
  have hbefore := due?_of_eq hv
  have hafter := due?_of_eq (adopt_supervisors hv t)
  have hnone {due : Instant} (h : t.task.due? = none) (hdue : (s.adopt 0 t).1.due? = some due) :
      s.due? = some due ∨ due = s.shared.now + setup.interval := by
    rw [hafter, h] at hdue
    cases hdue
  cases hgoes with
  | spawn => exact .other rfl fun due => hnone rfl
  | @control m l t hgoes =>
    rcases hgoes.due? with ⟨rfl, due, hdue, hle, hnext⟩ | ⟨hm, hkept⟩
    · exact .tick rfl (hbefore.trans hdue) hle (hafter.trans hnext)
    · refine .other ?_ ?_
      · cases m <;> first | rfl | exact absurd rfl hm
      · intro due hdue
        rw [hafter] at hdue
        rw [hbefore]
        exact hkept due hdue
  | finish => exact .other rfl fun due => hnone rfl
  | pause p => exact .other rfl fun due => hnone rfl
  | wake h => exact .other rfl fun due => hnone rfl
  | leave time hclosed => exact .other rfl fun due => hnone rfl

theorem Goes.tickStep {s s' : State} {a : Action} {es : List Effect} (hsole : s.IsSole)
    (hgoes : Goes setup s a s' es) : TickStep setup s a s' := by
  cases hgoes.taskStep hsole with
  | supervise hv hmoves => exact tickStep_supervise hv hmoves
  | stray hw hgoes => exact .other rfl fun due hdue => .inl hdue
  | discard hj => exact .other rfl fun due hdue => .inl hdue
  | client ha hcurrent hstrays hserved hes =>
    have hsame : s'.due? = s.due? := by
      unfold due?
      generalize s.supervisors = vs at hserved ⊢
      generalize s'.supervisors = vs' at hserved ⊢
      cases hserved <;> rfl
    refine .other ?_ fun due hdue => .inl (hsame ▸ hdue)
    cases a <;> first | rfl | cases ha

/-! ### When the next tick can be taken -/

/-- No tick can be taken before a time, by the ticker that there is or by one that is made later. -/
structure NoTickBefore (setup : Setup) (time : Instant) (s : State) : Prop where
  new : time ≤ s.shared.now + setup.interval
  due : ∀ due, s.due? = some due → time ≤ max due s.shared.now

theorem noTickBefore_now (setup : Setup) (s : State) : NoTickBefore setup s.shared.now s :=
  ⟨Nat.le_add_right _ _, fun due _ => Nat.le_max_right due _⟩

theorem noTickBefore_of_none {s : State} (h : s.due? = none) :
    NoTickBefore setup (s.shared.now + setup.interval) s :=
  ⟨Nat.le_refl _, fun due hdue => by simp [h] at hdue⟩

theorem NoTickBefore.step {s s' : State} {a : Action} {es : List Effect} {time : Instant}
    (h : NoTickBefore setup time s) (hgoes : Goes setup s a s' es) (hafter : ∀ due,
      s'.due? = some due → s.due? = some due ∨ due = s.shared.now + setup.interval) :
    NoTickBefore setup time s' := by
  have hnow := hgoes.now_eq
  have hnew := h.new
  refine ⟨by lia, ?_⟩
  intro due hdue
  rcases hafter due hdue with hkept | rfl
  · have := h.due due hkept
    lia
  · lia

/-- A ticker that is due no sooner keeps ticks away. -/
theorem noTickBefore_of_due {s s' : State} {a : Action} {es : List Effect} {time next : Instant}
    (hgoes : Goes setup s a s' es) (hnext : s'.due? = some next)
    (hnew : time ≤ s.shared.now + setup.interval) (hle : time ≤ next) : NoTickBefore setup time s' := by
  refine ⟨?_, ?_⟩
  · rw [hgoes.now_eq, Nat.add_right_comm]
    exact Nat.le_add_right_of_le hnew
  · intro due hdue
    obtain rfl := Option.some.inj (hnext.symm.trans hdue)
    exact Nat.le_trans hle (Nat.le_max_left _ _)

/-- A tick keeps the next one away for a spacing. -/
theorem noTickBefore_of_tick (htol : Loop.tolerance ≤ setup.interval) {s s' : State} {a : Action}
    {es : List Effect} {due : Instant} (hgoes : Goes setup s a s' es)
    (hafter : s'.due? = some (Loop.nextDue setup.interval due s.shared.now)) :
    NoTickBefore setup (s.shared.now + setup.spacing) s' :=
  noTickBefore_of_due hgoes hafter (Nat.add_le_add_left (Nat.sub_le _ _) _)
    (Loop.add_spacing_le_nextDue htol due s.shared.now)

theorem noTickBefore_of_late_tick {s s' : State} {a : Action} {es : List Effect} {due : Instant}
    (hgoes : Goes setup s a s' es)
    (hafter : s'.due? = some (Loop.nextDue setup.interval due s.shared.now))
    (hlate : due + Loop.tolerance < s.shared.now) :
    NoTickBefore setup (s.shared.now + setup.interval) s' := by
  rw [Loop.nextDue_of_late hlate] at hafter
  exact noTickBefore_of_due hgoes hafter (Nat.le_refl _) (Nat.le_refl _)

end State

/-! ### Whole runs -/

/-- **Ticks are spaced.**  The first tick of a run is taken when it can be, and each further one a spacing
after the one before. -/
theorem spaced_of_run (htol : Loop.tolerance ≤ setup.interval) {as : List Action} {s s' : State}
    {es : List Effect} {time : Instant} {n : Nat} (hsole : s.IsSole)
    (hrest : s.NoTickBefore setup time) (hrun : run setup s as = some (s', es))
    (hcount : as.countP Action.isTick = n + 1) :
    time + n * setup.spacing ≤ s'.shared.now := by
  -- along the run `time` is the earliest a tick can be taken, and each tick moves it on
  induction as generalizing s es time n with
  | nil => cases hcount
  | cons a as ih =>
    obtain ⟨s₁, es₁, es₂, hfirst, hmore, rfl⟩ := run_cons_eq_some_iff.mp hrun
    have hgoes := State.goes_of_step hfirst
    cases hgoes.tickStep hsole with
    | other ha hafter =>
      rw [List.countP_cons_of_neg (by simp [ha])] at hcount
      exact ih (hsole.step hgoes) (hrest.step hgoes hafter) hmore hcount
    | @tick due ha hbefore hdue hafter =>
      rw [List.countP_cons_of_pos ha] at hcount
      have hnow : time ≤ s.shared.now := Nat.max_eq_right hdue ▸ hrest.due due hbefore
      cases n with
      | zero =>
        rw [Nat.zero_mul, now_of_run hrun]
        exact Nat.le_add_right_of_le hnow
      | succ n =>
        have hnext := ih (hsole.step hgoes) (State.noTickBefore_of_tick htol hgoes hafter) hmore
          (Nat.succ.inj hcount)
        calc time + (n + 1) * setup.spacing
            = time + setup.spacing + n * setup.spacing := by
              rw [Nat.succ_mul, Nat.add_assoc, Nat.add_comm setup.spacing]
          _ ≤ s.shared.now + setup.spacing + n * setup.spacing :=
              Nat.add_le_add_right (Nat.add_le_add_right hnow _) _
          _ ≤ s'.shared.now := hnext

/-- In any stretch of a run there are at most as many ticks as spacings fit in, and one more. -/
theorem ticks_le_of_run (htol : Loop.tolerance < setup.interval) {as : List Action} {s s' : State}
    {es : List Effect} (hsole : s.IsSole) (hrun : run setup s as = some (s', es)) :
    as.countP Action.isTick ≤ 1 + elapsed as / setup.spacing := by
  have hpos : 0 < setup.spacing := Nat.sub_pos_of_lt htol
  cases hcount : as.countP Action.isTick with
  | zero => exact Nat.zero_le _
  | succ n =>
    have hspaced :=
      spaced_of_run (Nat.le_of_lt htol) hsole (State.noTickBefore_now setup s) hrun hcount
    rw [now_of_run hrun] at hspaced
    have hfit : n ≤ elapsed as / setup.spacing :=
      (Nat.le_div_iff_mul_le hpos).mpr (Nat.le_of_add_le_add_left hspaced)
    rw [Nat.add_comm]
    exact Nat.add_le_add_left hfit 1

/-- Two ticks are a spacing apart. -/
theorem spacing_le_of_ticks (htol : Loop.tolerance < setup.interval) {a b : Action}
    {mid : List Action} {s s' : State} {es : List Effect} (hsole : s.IsSole) (ha : a.isTick = true)
    (hb : b.isTick = true) (hrun : run setup s (a :: mid ++ [b]) = some (s', es)) :
    setup.spacing ≤ elapsed mid := by
  have htwo : ∃ n, (a :: mid ++ [b]).countP Action.isTick = n + 1 + 1 :=
    ⟨mid.countP Action.isTick, by simp [ha, hb]⟩
  obtain ⟨n, hcount⟩ := htwo
  have hspaced := spaced_of_run (Nat.le_of_lt htol) hsole (State.noTickBefore_now setup s) hrun hcount
  rw [now_of_run hrun] at hspaced
  simp only [List.cons_append, elapsed_cons, elapsed_append, elapsed_nil, Action.span_of_isTick ha,
    Action.span_of_isTick hb, Nat.zero_add, Nat.add_zero, Nat.succ_mul] at hspaced
  exact Nat.le_trans (Nat.le_add_left _ _) (Nat.le_of_add_le_add_left hspaced)

/-- After a tick that is late the next one is a whole interval away. -/
theorem interval_le_of_late_tick (htol : Loop.tolerance < setup.interval) {a b : Action}
    {mid : List Action} {s s' : State} {es : List Effect} {due : Instant} (hsole : s.IsSole)
    (hdue : s.due? = some due) (hlate : due + Loop.tolerance < s.shared.now) (ha : a.isTick = true)
    (hb : b.isTick = true) (hrun : run setup s (a :: mid ++ [b]) = some (s', es)) :
    setup.interval ≤ elapsed mid := by
  rw [List.cons_append] at hrun
  obtain ⟨s₁, es₁, es₂, hfirst, hmore, -⟩ := run_cons_eq_some_iff.mp hrun
  have hgoes := State.goes_of_step hfirst
  cases hgoes.tickStep hsole with
  | other hother hafter => simp [ha] at hother
  | tick _ hbefore _ hafter =>
    obtain rfl := Option.some.inj (hdue.symm.trans hbefore)
    have hsome : ∃ n, (mid ++ [b]).countP Action.isTick = n + 1 :=
      ⟨mid.countP Action.isTick, by simp [hb]⟩
    obtain ⟨n, hcount⟩ := hsome
    have hspaced := spaced_of_run (Nat.le_of_lt htol) (hsole.step hgoes)
      (State.noTickBefore_of_late_tick hgoes hafter hlate) hmore hcount
    rw [now_of_run hmore, hgoes.now_eq, Action.span_of_isTick ha, Nat.add_zero, Nat.add_assoc] at hspaced
    simp only [elapsed_append, elapsed_cons, elapsed_nil, Action.span_of_isTick hb, Nat.add_zero]
      at hspaced
    exact Nat.le_trans (Nat.le_add_right _ _) (Nat.le_of_add_le_add_left hspaced)

/-- Where there is no ticker yet, there are at most as many ticks as spacings fit in. -/
theorem ticks_le_of_none (htol : Loop.tolerance < setup.interval) {as : List Action} {s s' : State}
    {es : List Effect} (hsole : s.IsSole) (hnone : s.due? = none)
    (hrun : run setup s as = some (s', es)) :
    as.countP Action.isTick ≤ elapsed as / setup.spacing := by
  have hpos : 0 < setup.spacing := Nat.sub_pos_of_lt htol
  have hle : setup.spacing ≤ setup.interval := Nat.sub_le _ _
  cases hcount : as.countP Action.isTick with
  | zero => exact Nat.zero_le _
  | succ n =>
    have hspaced :=
      spaced_of_run (Nat.le_of_lt htol) hsole (State.noTickBefore_of_none hnone) hrun hcount
    rw [now_of_run hrun, Nat.add_assoc] at hspaced
    refine (Nat.le_div_iff_mul_le hpos).mpr ?_
    rw [Nat.succ_mul, Nat.add_comm]
    exact Nat.le_trans (Nat.add_le_add_right hle _) (Nat.le_of_add_le_add_left hspaced)

end ClusterTopology.Discoverer
