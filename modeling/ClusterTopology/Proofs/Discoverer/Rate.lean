import ClusterTopology.Proofs.Discoverer.Cycles
import ClusterTopology.Proofs.Discoverer.Requests
import ClusterTopology.Proofs.Discoverer.Starts
import ClusterTopology.Proofs.Discoverer.Ticks
/-!
How many cycles there can be.

A cycle begins in one of three ways, and each has its own account.  A control loop begins one when it is
launched, and there is one loop, and one more for each panic.  It begins one for a request that it takes
up, and every request comes from a subscription.  It begins one for a tick, and ticks are spaced.

Each account is an inequality that one step keeps and that a run adds up.  For launches it is the
supervisors that are about to launch a loop (`launches`), against the panics of loops.  For refreshes it is
what is still owed (`owed`): the requests that are outstanding and the subscriptions that have yet to make
theirs, against the subscriptions that begin.  For ticks it is the spacing of `Proofs.Discoverer.Ticks`.
The sum of the three is the bound on the cycles of a run, whatever the lengths of the cycles and the panics
are.
-/

namespace ClusterTopology

/-- Whether an effect is the report of a panic of the control loop. -/
def Effect.isLoopPanic : Effect → Bool
  | .event (.loopPanicked _) => true
  | _ => false

namespace Discoverer

variable {setup : Setup}

/-! ### The three ways in which a cycle begins -/

namespace Action

def isLaunch : Action → Bool
  | .supervise _ (.control .launch) => true
  | _ => false

/-- Whether a control loop begins a cycle with an action because a refresh has been asked for. -/
def isRefresh : Action → Bool
  | .supervise _ (.control .refresh) => true
  | _ => false

def isSubscribe : Action → Bool
  | .subscribe => true
  | _ => false

theorem toNat_beginsCycle (a : Action) :
    a.beginsCycle.toNat = a.isLaunch.toNat + a.isTick.toNat + a.isRefresh.toNat := by
  cases a with
  | supervise i m =>
    cases m with
    | control m => cases m <;> rfl
    | _ => rfl
  | _ => rfl

end Action

theorem countP_cons_eq {α : Type} (p : α → Bool) (a : α) (as : List α) :
    (a :: as).countP p = (p a).toNat + as.countP p := by
  cases ha : p a <;> simp [ha, Nat.add_comm]

theorem countP_beginsCycle (as : List Action) : as.countP Action.beginsCycle =
    as.countP Action.isLaunch + as.countP Action.isTick + as.countP Action.isRefresh := by
  induction as with
  | nil => rfl
  | cons a as ih =>
    simp only [countP_cons_eq, ih, a.toNat_beginsCycle]
    omega

/-! ### Launches -/

/-- Whether a supervisor has yet to see a control loop begin its first cycle, if nothing stops it. -/
def Supervisor.willLaunch : Supervisor → Bool
  | .spawning | .watching .launched | .pausing _ => true
  | _ => false

theorem Supervisor.Goes.launch_le {sh : Shared} {m : SupervisorMove} {v : Supervisor}
    {t : Turn Supervisor} (hgoes : Goes setup sh m v t) :
    (Action.supervise 0 m).isLaunch.toNat + t.task.willLaunch.toNat ≤
      v.willLaunch.toNat + t.effects.countP Effect.isLoopPanic := by
  cases hgoes with
  | @control m l t hgoes =>
    cases hgoes with
    | launch => exact Nat.le_refl _
    | _ => exact Nat.zero_le _
  | leave time hclosed => exact Nat.zero_le _
  | _ => exact Nat.le_refl _

namespace State

/-- How many first cycles are still to come of the control loops that there are. -/
def launches (s : State) : Nat := s.supervisors.countP Supervisor.willLaunch

theorem launches_of_eq {s : State} {v : Supervisor} (h : s.supervisors = [v]) :
    s.launches = v.willLaunch.toNat := by
  rw [launches, h, countP_cons_eq, List.countP_nil, Nat.add_zero]

/-- A first cycle was to come before it begins, and only a supervisor or a panic makes one come. -/
theorem Goes.launch_le {s s' : State} {a : Action} {es : List Effect} (hsole : s.IsSole)
    (hgoes : Goes setup s a s' es) :
    a.isLaunch.toNat + s'.launches + s.supervisors.length ≤
      s.launches + s'.supervisors.length + es.countP Effect.isLoopPanic := by
  cases hgoes.taskStep hsole with
  | @supervise m v t hv hmoves =>
    have hle := hmoves.launch_le
    have hv' := adopt_supervisors hv t
    rw [launches_of_eq hv, launches_of_eq hv', hv, hv']
    simp only [List.length_singleton]
    omega
  | stray hw hmoves =>
    simp only [launches, Action.isLaunch, Bool.toNat_false]
    omega
  | discard hj =>
    simp only [launches, Action.isLaunch, Bool.toNat_false]
    omega
  | client ha hcurrent hstrays hserved hes =>
    have hlaunch : a.isLaunch = false := by
      cases a <;> first | rfl | cases ha
    rw [hlaunch]
    unfold launches
    generalize s.supervisors = vs at hserved ⊢
    generalize s'.supervisors = vs' at hserved ⊢
    cases hserved with
    | kept vs =>
      simp only [Bool.toNat_false]
      omega
    | spawned => exact Nat.le_add_right _ _
    | woken due => exact Nat.le_add_right _ _

end State

/-- Every first cycle belongs to the supervisor or to a panic of the control loop. -/
theorem launches_le_of_run {as : List Action} {s s' : State} {es : List Effect} (hsole : s.IsSole)
    (hrun : run setup s as = some (s', es)) :
    as.countP Action.isLaunch + s'.launches + s.supervisors.length ≤
      s.launches + s'.supervisors.length + es.countP Effect.isLoopPanic := by
  induction as generalizing s es with
  | nil =>
    cases hrun
    simp only [List.countP_nil]
    omega
  | cons a as ih =>
    obtain ⟨s₁, es₁, es₂, hfirst, hmore, rfl⟩ := run_cons_eq_some_iff.mp hrun
    have hgoes := State.goes_of_step hfirst
    have hstep := hgoes.launch_le hsole
    have hrest := ih (hsole.step hgoes) hmore
    rw [countP_cons_eq, List.countP_append]
    omega

/-! ### Refreshes -/

/-- Whether a call is a subscription that has yet to ask for a refresh. -/
def Call.isSubscribing : Call → Bool
  | .subscribing _ => true
  | _ => false

/-- A control loop that moves takes up a request or makes none. -/
theorem Loop.Goes.refresh_le {sh : Shared} {m : LoopMove} {l : Loop} {t : Turn Loop}
    (hgoes : Goes setup sh m l t) :
    (Action.supervise 0 (.control m)).isRefresh.toNat +
        ((Supervisor.watching t.task).isWoken.toNat + t.shared.permit.toNat) ≤
      (Supervisor.watching l).isWoken.toNat + sh.permit.toNat := by
  rw [hgoes.isWoken_eq_false, Bool.toNat_false, Nat.zero_add]
  have hback {l : Loop} {due : Instant} {notified : Bool} (hwaits : l.Waits due notified) :
      0 + (sh.handBack notified).permit.toNat ≤
        (Supervisor.watching l).isWoken.toNat + sh.permit.toNat := by
    rw [hwaits.isWoken_eq, Shared.toNat_permit_handBack, Nat.zero_add]
    exact Nat.min_le_left _ _
  have hkept {l : Loop} : 0 + sh.permit.toNat ≤
      (Supervisor.watching l).isWoken.toNat + sh.permit.toNat :=
    Nat.add_le_add_right (Nat.zero_le _) _
  -- a loop that leaves its wait without the request it was woken for hands it back
  cases hgoes with
  | stop hwaits hclosed => exact hback hwaits
  | tick hwaits hdue => exact hback hwaits
  | crash hwaits p => exact hback hwaits
  | work ticker hgoes =>
    obtain ⟨⟨current, hshared⟩, -⟩ := hgoes.frame
    rw [Turn.map, hshared]
    exact hkept
  | refreshStored due hstored =>
    rw [hstored]
    exact Nat.le_refl _
  | refreshWoken due => exact Nat.le_refl _
  | _ => exact hkept

theorem Supervisor.Goes.refresh_le {sh : Shared} {m : SupervisorMove} {v : Supervisor}
    {t : Turn Supervisor} (hgoes : Goes setup sh m v t) :
    (Action.supervise 0 m).isRefresh.toNat + (t.task.isWoken.toNat + t.shared.permit.toNat) ≤
      v.isWoken.toNat + sh.permit.toNat := by
  cases hgoes with
  | control hgoes => exact hgoes.refresh_le
  | _ => exact Nat.le_of_eq (Nat.zero_add _)

namespace State

/-- How many subscriptions have yet to ask for a refresh. -/
def subscribing (s : State) : Nat := s.calls.countP Call.isSubscribing

/-- How many cycles can still begin for a request that has been made or will be, if no client
subscribes any more. -/
def owed (s : State) : Nat := s.requests + s.subscribing

theorem owed_enterClosing {s : State} {k : Nat} {c : Call} (hcall : s.calls[k]? = some c)
    (hc : c.isSubscribing = false) (events : List Event) (stage : Closing.Stage) :
    (s.enterClosing k events stage).1.owed = s.owed := by
  obtain ⟨calls, hstate, hcalls⟩ := s.enterClosing_state k events stage
  have hsame : calls.countP Call.isSubscribing = s.calls.countP Call.isSubscribing := by
    rcases hcalls with rfl | ⟨c', rfl⟩
    · simpa [hc] using countP_eraseIdx_add hcall Call.isSubscribing
    · have hclosing : Call.isSubscribing (.closing c') = false := rfl
      simpa [hc, hclosing] using countP_set_add hcall (.closing c') Call.isSubscribing
  rw [hstate, owed, owed, subscribing, subscribing, hsame]
  rfl

/-- A cycle that begins for a request was owed, and only a subscription makes one owed. -/
theorem Goes.refresh_le {s s' : State} {a : Action} {es : List Effect} (hsole : s.IsSole)
    (hgoes : Goes setup s a s' es) :
    a.isRefresh.toNat + s'.owed ≤ s.owed + a.isSubscribe.toNat := by
  have hsame {a : Action} {s' : State} (ha : a.isRefresh = false) (howed : s'.owed = s.owed) :
      a.isRefresh.toNat + s'.owed ≤ s.owed + a.isSubscribe.toNat := by
    rw [ha, howed, Bool.toNat_false]
    omega
  cases hgoes with
  | elapse d => exact hsame rfl rfl
  | subscribe _ =>
    have hone : (s.calls ++ [Call.subscribing s.shared.registry.size]).countP Call.isSubscribing =
        s.subscribing + 1 := by
      simp [subscribing, Call.isSubscribing]
    refine Nat.le_of_eq ?_
    rw [owed, subscribing, hone, owed]
    exact Nat.zero_add _
  | startAgain _ _ => exact hsame rfl rfl
  | start _ _ => exact hsame rfl (by simp [owed, subscribing, requests, Call.isSubscribing])
  | close _ => exact hsame rfl (by simp [owed, subscribing, requests, Call.isSubscribing])
  | drop _ _ => exact hsame rfl rfl
  | @subscribed k i hcall =>
    have hrequests : (s.notify.finish k (.mailbox i) []).1.requests = min (s.requests + 1) s.room :=
      hsole.requests_notify.1
    have hended : (s.notify.finish k (.mailbox i) []).1.subscribing + 1 = s.subscribing := by
      simpa [subscribing, finish, Call.isSubscribing] using
        countP_eraseIdx_add hcall Call.isSubscribing
    simp only [owed, hrequests, Action.isRefresh, Bool.toNat_false]
    omega
  | @spawned k hcall =>
    refine hsame rfl ?_
    have := countP_set_add hcall (.leaving s.supervisors.length) Call.isSubscribing
    simpa [owed, subscribing, requests, Supervisor.isWoken, Call.isSubscribing] using this
  | left hcall =>
    refine hsame rfl ?_
    have := countP_eraseIdx_add hcall Call.isSubscribing
    simpa [owed, subscribing, requests, Call.isSubscribing] using this
  | @taken k i hcall _ =>
    refine hsame rfl ?_
    have := countP_set_add hcall (.joining i) Call.isSubscribing
    simpa [owed, subscribing, requests, Call.isSubscribing] using this
  | unsupervised hcall _ => exact hsame rfl (owed_enterClosing hcall rfl _ _)
  | joined hcall _ => exact hsame rfl (owed_enterClosing hcall rfl _ _)
  | sourceClosed r hcall => exact hsame rfl (owed_enterClosing hcall rfl _ _)
  | @supervise i m v t hv hmoves =>
    obtain ⟨rfl, hone⟩ := hsole.eq_singleton hv
    have hle := hmoves.refresh_le
    have hbefore := requests_of_eq hone
    have hafter := requests_of_eq (adopt_supervisors hone t)
    have hcalls : (s.adopt 0 t).1.subscribing = s.subscribing := rfl
    have hshared : (s.adopt 0 t).1.shared = t.shared := rfl
    rw [owed, owed, hbefore, hafter, hcalls, hshared]
    omega
  | stray hw hmoves =>
    obtain ⟨⟨current, hshared⟩, -⟩ := hmoves.frame
    exact hsame rfl (by simp [owed, subscribing, requests, hshared])
  | discard _ => exact hsame rfl rfl
  | read _ => exact hsame rfl rfl
  | giveUp _ => exact hsame rfl rfl

end State

/-- Every cycle that begins for a request belongs to a subscription. -/
theorem refreshes_le_of_run {as : List Action} {s s' : State} {es : List Effect} (hsole : s.IsSole)
    (hrun : run setup s as = some (s', es)) :
    as.countP Action.isRefresh + s'.owed ≤ s.owed + as.countP Action.isSubscribe := by
  induction as generalizing s es with
  | nil =>
    cases hrun
    simp
  | cons a as ih =>
    obtain ⟨s₁, es₁, es₂, hfirst, hmore, rfl⟩ := run_cons_eq_some_iff.mp hrun
    have hgoes := State.goes_of_step hfirst
    have hstep := hgoes.refresh_le hsole
    have hrest := ih (hsole.step hgoes) hmore
    rw [countP_cons_eq, countP_cons_eq]
    omega

/-! ### All cycles -/

/-- Before the start there is no control loop that could take a tick. -/
theorem no_ticks_before_start {as : List Action} {s s' : State} {es : List Effect}
    (hsole : s.IsSole) (hstarted : s.started = false) (hrun : run setup s as = some (s', es))
    (has : .start ∉ as) : as.countP Action.isTick = 0 ∧ s'.started = false := by
  induction as generalizing s es with
  | nil =>
    cases hrun
    exact ⟨rfl, hstarted⟩
  | cons a as ih =>
    obtain ⟨s₁, es₁, es₂, hfirst, hmore, rfl⟩ := run_cons_eq_some_iff.mp hrun
    have hgoes := State.goes_of_step hfirst
    have ha : a ≠ .start := fun heq => has (heq ▸ List.mem_cons_self)
    have hstarted₁ : s₁.started = false := by
      cases hgoes.startStep hsole with
      | began heq => exact absurd heq ha
      | refused heq => exact absurd heq ha
      | spawned _ hkept => exact hkept.trans hstarted
      | left _ hkept => exact hkept.trans hstarted
      | none _ hkept => exact hkept.trans hstarted
    have htick : a.isTick = false := by
      cases hgoes.tickStep hsole with
      | other htick hafter => exact htick
      | tick htick hbefore hdue hafter =>
        rw [State.due?_of_not_started hsole hstarted] at hbefore
        cases hbefore
    obtain ⟨hnone, hlast⟩ := ih (hsole.step hgoes) hstarted₁ hmore fun h => has (.tail _ h)
    exact ⟨by simp [htick, hnone], hlast⟩

/-- **The load on the sources is bounded**, however long cycles take and whenever clients subscribe.  The
cycles that have begun when some time has passed since the start are one, one more for each panic of the
control loop, at most one for each subscription, those before the start among them, and at most one for
each spacing that fits in the time.  In no stretch of the run is there more than one tick beyond the
spacings that fit in it, so a loop that has been held up makes up for one tick only: two ticks are
a spacing apart, and after a tick that is late the next one is a whole interval away. -/
theorem cycles_are_rare {now : Instant} {before after : List Action} {s : State} {es : List Effect}
    (htol : Loop.tolerance < setup.interval) (hfirst : .start ∉ before)
    (hrun : run setup (State.new now) (before ++ .start :: after) = some (s, es)) :
    (before ++ .start :: after).countP Action.beginsCycle ≤
      1 + es.countP Effect.isLoopPanic + (before ++ .start :: after).countP Action.isSubscribe +
        elapsed after / (setup.interval - Loop.tolerance) ∧
    (∀ as₁ mid as₂, before ++ .start :: after = as₁ ++ mid ++ as₂ →
      mid.countP Action.isTick ≤ 1 + elapsed mid / (setup.interval - Loop.tolerance)) ∧
    ∀ as₁ a mid b as₂, before ++ .start :: after = as₁ ++ (a :: mid ++ [b]) ++ as₂ →
      a.isTick = true → b.isTick = true →
      setup.interval - Loop.tolerance ≤ elapsed mid ∧
      ∀ s₁ es₁ due, run setup (State.new now) as₁ = some (s₁, es₁) → s₁.due? = some due →
        due + Loop.tolerance < s₁.shared.now → setup.interval ≤ elapsed mid := by
  have hsole := State.isSole_new now
  have hstretch {as₁ mid as₂ : List Action} (heq : before ++ .start :: after = as₁ ++ mid ++ as₂) :
      ∃ s₁ es₁ s₂ es₂, run setup (State.new now) as₁ = some (s₁, es₁) ∧ s₁.IsSole ∧
        run setup s₁ mid = some (s₂, es₂) := by
    rw [heq] at hrun
    obtain ⟨s₂, es₁₂, es₃, hboth, -, -⟩ := run_append_eq_some_iff.mp hrun
    obtain ⟨s₁, es₁, es₂, hfst, hmid, -⟩ := run_append_eq_some_iff.mp hboth
    exact ⟨s₁, es₁, s₂, es₂, hfst, hsole.run hfst, hmid⟩
  refine ⟨?_, ?_, ?_⟩
  · have hlaunches := launches_le_of_run hsole hrun
    have hrefreshes := refreshes_le_of_run hsole hrun
    -- there is no ticker until the start, so the first tick is an interval away from it
    have hticks : (before ++ .start :: after).countP Action.isTick ≤ elapsed after / setup.spacing := by
      obtain ⟨s₁, es₁, es₂, hbefore, hafter, -⟩ := run_append_eq_some_iff.mp hrun
      obtain ⟨hnone, hstarted⟩ := no_ticks_before_start hsole rfl hbefore hfirst
      have hdue := State.due?_of_not_started (hsole.run hbefore) hstarted
      have hsome := ticks_le_of_none htol (hsole.run hbefore) hdue hafter
      rw [List.countP_append, hnone, Nat.zero_add]
      simpa [Action.span] using hsome
    have hone : s.supervisors.length ≤ 1 := by
      rcases (hsole.run hrun).nil_or_singleton with hnil | ⟨v, hv⟩
      · simp [hnil]
      · simp [hv]
    have hnew : (State.new now).launches = 0 ∧ (State.new now).owed = 0 := ⟨rfl, rfl⟩
    rw [countP_beginsCycle]
    unfold Setup.spacing at hticks
    omega
  · intro as₁ mid as₂ heq
    obtain ⟨s₁, es₁, s₂, es₂, -, hsole₁, hmid⟩ := hstretch heq
    exact ticks_le_of_run htol hsole₁ hmid
  · intro as₁ a mid b as₂ heq ha hb
    obtain ⟨s₁, es₁, s₂, es₂, hfst, hsole₁, hmid⟩ := hstretch heq
    refine ⟨spacing_le_of_ticks htol hsole₁ ha hb hmid, ?_⟩
    intro s₁' es₁' due hfst' hdue hlate
    obtain ⟨rfl, rfl⟩ := Prod.mk.inj (Option.some.inj (hfst.symm.trans hfst'))
    exact interval_le_of_late_tick htol hsole₁ hdue hlate ha hb hmid

/-- A setup of one source with a period of six milliseconds. -/
def sixMillis : Setup := ⟨["pd"], 6000000, by decide⟩

/-- What is done after the start: a first cycle, one for the subscription before the start, one for a tick
that is taken fourteen milliseconds late, and one for the tick after that. -/
def stalled : List Action :=
  let rest := loadedCycle ++ [loopStep .deposit, loopStep .report]
  [.proceed 0, .proceed 0, .supervise 0 .spawn, loopStep .launch] ++ rest ++ loopStep .refresh :: rest ++
    .elapse 20000000 :: loopStep .tick :: rest ++ .elapse 6000000 :: loopStep .tick :: rest

theorem stalled_cycles_are_rare : Loop.tolerance < sixMillis.interval ∧
    .start ∉ [Action.subscribe, .proceed 0] ∧
    ∃ s es, run sixMillis (State.new 0) ([.subscribe, .proceed 0] ++ .start :: stalled) = some (s, es) ∧
      ([Action.subscribe, .proceed 0] ++ .start :: stalled).countP Action.beginsCycle = 4 ∧
      4 ≤ 1 + es.countP Effect.isLoopPanic + 1 + 26 := by
  have hend : (run sixMillis (State.new 0) ([.subscribe, .proceed 0] ++ .start :: stalled)).isSome :=
    by decide +kernel
  obtain ⟨⟨s, es⟩, hrun⟩ := Option.isSome_iff_exists.mp hend
  have hfirst : .start ∉ [Action.subscribe, .proceed 0] := by simp
  exact ⟨by decide, hfirst, s, es, hrun, rfl, (cycles_are_rare (by decide) hfirst hrun).1⟩

end Discoverer

end ClusterTopology
