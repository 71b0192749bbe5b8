import ClusterTopology.Proofs.Discoverer.Run
/-!
How many refreshes requests come to.

A request is in one of two places: it has woken a sleeping control loop, or it is stored.  A loop that is
not asleep leaves the stored place only, so requests made together are one.  A sleeping loop offers
both: the first request wakes it, the second is stored, and further ones are lost in the second.  What
becomes of two such requests depends on what the loop does next.  A refresh takes up the first and
leaves the second, and a tick or a panic hands the first back to where the second is.

`requests` counts what is outstanding in both places, and `room` how much there is place for: one while the
loop is not asleep, two while it is.  `RequestStep` says what a step can do to that number.  Until the loop
moves, a run adds requests up to the room that there is.  From then on, while nobody closes or subscribes
(`Undisturbed`), refreshes and outstanding requests keep their sum, but for the one step in which two
requests meet.
-/

namespace ClusterTopology

def Effect.isHandedOut : Effect → Bool
  | .returned (.mailbox _) => true
  | _ => false

theorem Effect.countP_isHandedOut {es : List Effect} (h : ∀ r, .returned r ∉ es) :
    es.countP isHandedOut = 0 := by
  rw [List.countP_eq_zero]
  intro e he
  unfold isHandedOut
  split
  · exact absurd he (h _)
  · exact Bool.false_ne_true

namespace Discoverer

variable {setup : Setup}

/-! ### Requests that are outstanding -/

def Supervisor.isParked : Supervisor → Bool
  | .watching (.parked _ _) => true
  | _ => false

/-- Whether the control loop has been woken by a request and has not gone on. -/
def Supervisor.isWoken : Supervisor → Bool
  | .watching (.parked _ true) => true
  | _ => false

theorem Supervisor.isParked_of_isWoken {v : Supervisor} (h : v.isWoken = true) :
    v.isParked = true := by
  unfold isWoken at h
  split at h
  · rfl
  · cases h

theorem Supervisor.isWoken_of_awake {v : Supervisor} (h : v.isParked = false) :
    v.isWoken = false := by
  by_contra hwoken
  rw [isParked_of_isWoken (Bool.not_eq_false _ ▸ hwoken)] at h
  cases h

/-- A control loop that sleeps and can not be woken has been woken. -/
theorem Supervisor.isParked_eq_isWoken {v : Supervisor}
    (h : ∀ due, v ≠ .watching (.parked due false)) : v.isParked = v.isWoken := by
  unfold isParked isWoken
  split
  · next due notified =>
    cases notified with
    | false => exact absurd rfl (h due)
    | true => rfl
  · next hawake =>
    split
    · exact absurd rfl (hawake _ _)
    · rfl

/-- The step that the control loop itself takes with an action, if it takes one. -/
def Action.loopMove? : Action → Option LoopMove
  | .supervise _ (.control (.work _)) => none
  | .supervise _ (.control m) => some m
  | _ => none

theorem Action.loopMove?_control (i : Nat) (m : LoopMove) :
    (∃ w, m = .work w) ∨ (Action.supervise i (.control m)).loopMove? = some m := by
  cases m <;> simp [loopMove?]

/-- Whether the control loop takes up a request with the first step it takes among some actions, or takes
none. -/
def takesUpFirst (as : List Action) : Bool :=
  match as.findSome? Action.loopMove? with
  | none | some .refresh => true
  | some _ => false

theorem takesUpFirst_cons {a : Action} (ha : a.loopMove? = none) (as : List Action) :
    takesUpFirst (a :: as) = takesUpFirst as := by
  simp [takesUpFirst, ha]

theorem takesUpFirst_cons_of_move {a : Action} {m : LoopMove} (ha : a.loopMove? = some m)
    (as : List Action) : takesUpFirst (a :: as) = decide (m = .refresh) := by
  cases m <;> simp [takesUpFirst, ha]

namespace State

def isParked (s : State) : Bool := s.supervisors.any (·.isParked)

/-- How many requests are outstanding: the one that has woken the control loop, and the stored one. -/
def requests (s : State) : Nat := s.supervisors.countP (·.isWoken) + s.shared.permit.toNat

/-- How many requests can be outstanding until the control loop takes a step. -/
def room (s : State) : Nat := if s.isParked then 2 else 1

theorem room_eq {s s' : State} (h : s'.isParked = s.isParked) : s'.room = s.room := by
  simp [room, h]

theorem requests_of_eq {s : State} {v : Supervisor} (h : s.supervisors = [v]) :
    s.requests = v.isWoken.toNat + s.shared.permit.toNat := by
  cases hwoken : v.isWoken <;> simp [requests, h, hwoken]

theorem requests_of_nil {s : State} (h : s.supervisors = []) :
    s.requests = s.shared.permit.toNat := by
  simp [requests, h]

theorem IsSole.requests_le_room {s : State} (h : s.IsSole) : s.requests ≤ s.room := by
  have hpermit := Bool.toNat_le s.shared.permit
  rcases h.nil_or_singleton with hnil | ⟨v, hv⟩
  · rw [requests_of_nil hnil]
    simpa [room, isParked, hnil] using hpermit
  · rw [requests_of_eq hv]
    cases hwoken : v.isWoken with
    | false =>
      simp only [room, Bool.toNat_false]
      split <;> omega
    | true =>
      have hroom : s.room = 2 := by simp [room, isParked, hv, Supervisor.isParked_of_isWoken hwoken]
      simp only [hroom, Bool.toNat_true]
      omega

/-- **A request is outstanding until the control loop takes a step, where there is room for it.** -/
theorem IsSole.requests_notify {s : State} (h : s.IsSole) :
    s.notify.requests = min (s.requests + 1) s.room ∧ s.notify.isParked = s.isParked := by
  have hpermit := Bool.toNat_le s.shared.permit
  rcases h.notify_eq with ⟨due, hloop, hnotify⟩ | ⟨hawake, hnotify⟩
  · -- the request wakes the loop, and leaves the stored place as it is
    have hroom : s.room = 2 := by simp [room, isParked, hloop, Supervisor.isParked]
    rw [hnotify, requests_of_eq hloop, requests_of_eq rfl, hroom]
    refine ⟨?_, by simp [isParked, hloop, Supervisor.isParked]⟩
    simp only [Supervisor.isWoken, Bool.toNat_true, Bool.toNat_false]
    omega
  · -- the request is stored, and the loop, if it sleeps, has been woken before
    have hafter : s.notify.requests = s.supervisors.countP (·.isWoken) + 1 := by
      rw [hnotify]
      rfl
    have hbefore : s.requests = s.supervisors.countP (·.isWoken) + s.shared.permit.toNat := rfl
    have hroom : s.room = s.supervisors.countP (·.isWoken) + 1 := by
      rcases h.nil_or_singleton with hnil | ⟨v, hv⟩
      · simp [room, isParked, hnil]
      · have hsame : v.isParked = v.isWoken :=
          Supervisor.isParked_eq_isWoken fun due heq => hawake due (heq ▸ hv)
        cases hwoken : v.isWoken <;> simp [room, isParked, hv, hsame, hwoken]
    refine ⟨?_, by rw [hnotify]; rfl⟩
    rw [hafter, hbefore, hroom]
    omega

end State

/-! ### One step -/

theorem Loop.Waits.isWoken_eq {l : Loop} {due : Instant} {notified : Bool}
    (h : l.Waits due notified) : (Supervisor.watching l).isWoken = notified := by
  cases h with
  | choosing due => rfl
  | parked due notified => cases notified <;> rfl

theorem Shared.toNat_permit_handBack (sh : Shared) (notified : Bool) :
    (sh.handBack notified).permit.toNat = min (notified.toNat + sh.permit.toNat) 1 := by
  cases hpermit : sh.permit <;> cases notified <;> simp [handBack, hpermit]

theorem Loop.not_refreshRequested_report (count components : Nat) (isFirst : Bool) (o : Outcome) :
    (Effect.ofEvents (.published count components :: cycleEvents isFirst o)).count
      (.event .refreshRequested) = 0 := by
  cases o <;> cases isFirst <;> simp [cycleEvents, Effect.ofEvents]

/-- **What a step of the control loop does to requests.**  A refresh takes up one of them, and any
other step leaves one where there were two. -/
theorem Loop.Goes.requests {sh : Shared} {m : LoopMove} {l : Loop} {t : Turn Loop}
    (hgoes : Goes setup sh m l t) (hopen : sh.closed = false) :
    t.effects.count (.event .refreshRequested) +
        ((Supervisor.watching t.task).isWoken.toNat + t.shared.permit.toNat) =
      if m = .refresh then (Supervisor.watching l).isWoken.toNat + sh.permit.toNat
      else min ((Supervisor.watching l).isWoken.toNat + sh.permit.toNat) 1 := by
  have hpermit : min sh.permit.toNat 1 = sh.permit.toNat := Nat.min_eq_left (Bool.toNat_le _)
  cases hgoes with
  | launch => simp [Turn.quiet, Supervisor.isWoken, hpermit]
  | work ticker hgoes =>
    obtain ⟨⟨current, hshared⟩, -, hnone⟩ := hgoes.frame
    have hcount := List.count_eq_zero.mpr hnone
    simp [Turn.map, Supervisor.isWoken, hshared, hcount, hpermit]
  | join ticker o =>
    cases o <;> simp [Turn.reporting, Supervisor.isWoken, workerEvents, Effect.ofEvents, hpermit]
  | abandon ticker w hclosed => simp [hopen] at hclosed
  | deposit ticker f hlt => simp [Supervisor.isWoken, hpermit]
  | report hle hdue =>
    simp [Turn.reporting, Supervisor.isWoken, not_refreshRequested_report, hpermit]
  | reportOverflow hle hadd =>
    simp [Turn.reporting, Supervisor.isWoken, not_refreshRequested_report, hpermit]
  | stop hwaits hclosed => simp [hopen] at hclosed
  | tick hwaits hdue =>
    -- the request that had woken the loop goes back to where a stored one may be already
    rw [hwaits.isWoken_eq]
    simp [Turn.quiet, Shared.toNat_permit_handBack, Supervisor.isWoken]
  | refreshStored due hstored =>
    simp [Turn.reporting, Supervisor.isWoken, Effect.ofEvents, hstored]
  | refreshWoken due => simp [Turn.reporting, Supervisor.isWoken, Effect.ofEvents]
  | park due hopen' hdue hnone => simp [Turn.quiet, Supervisor.isWoken, hpermit]
  | crash hwaits p =>
    rw [hwaits.isWoken_eq]
    simp [Turn.quiet, Shared.toNat_permit_handBack, Supervisor.isWoken]

theorem Loop.Goes.isWoken_eq_false {sh : Shared} {m : LoopMove} {l : Loop} {t : Turn Loop}
    (hgoes : Goes setup sh m l t) : (Supervisor.watching t.task).isWoken = false := by
  cases hgoes <;> rfl

namespace State

/-- A step makes a request, is one of the control loop, or leaves requests alone. -/
inductive RequestStep (s : State) (a : Action) (s' : State) (es : List Effect) : Prop where
  | asked {i : Nat} (ha : a.loopMove? = none) (hpending : .subscribing i ∈ s.calls)
      (hparked : s'.isParked = s.isParked) (hrequests : s'.requests = min (s.requests + 1) s.room)
      (hes : es = [.returned (.mailbox i)])
  | moved {m : LoopMove} (ha : a.loopMove? = some m) (hafter : s'.requests ≤ 1)
      (hrequests : s.shared.closed = false → es.count (.event .refreshRequested) + s'.requests =
        if m = .refresh then s.requests else min s.requests 1)
  | other (ha : a.loopMove? = none) (hparked : s'.isParked = s.isParked)
      (hrequests : s'.requests = s.requests) (hhanded : es.countP Effect.isHandedOut = 0)
      (hpassed : es.count (.event .refreshRequested) = 0)

theorem requestStep_enterClosing (s : State) {a : Action} (ha : a.loopMove? = none) (k : Nat)
    (events : List Event) (hevents : .refreshRequested ∉ events) (stage : Closing.Stage) :
    RequestStep s a (s.enterClosing k events stage).1 (s.enterClosing k events stage).2 := by
  refine .other ha (by simp [isParked]) (by simp [requests]) ?_ ?_
  · rw [List.countP_eq_zero]
    intro e he
    rcases mem_enterClosing he with ⟨_, _, rfl⟩ | rfl | ⟨_, rfl⟩ | ⟨_, rfl⟩ <;>
      exact Bool.false_ne_true
  · rw [List.count_eq_zero]
    intro he
    rcases mem_enterClosing he with ⟨event, hevent, h⟩ | h | ⟨_, h⟩ | ⟨_, h⟩
    · cases h
      exact hevents hevent
    all_goals cases h

/-- A supervisor that is awake before a step and after it leaves requests alone. -/
theorem requestStep_adopt {s : State} {v : Supervisor} {t : Turn Supervisor} {m : SupervisorMove}
    (hone : s.supervisors = [v]) (ha : (Action.supervise 0 m).loopMove? = none)
    (hbefore : v.isParked = false) (hafter : t.task.isParked = false)
    (hpermit : t.shared.permit = s.shared.permit) (hreturned : ∀ r, .returned r ∉ t.effects)
    (hpassed : .event .refreshRequested ∉ t.effects) :
    RequestStep s (.supervise 0 m) (s.adopt 0 t).1 t.effects := by
  have hone' := adopt_supervisors hone t
  refine .other ha ?_ ?_ (Effect.countP_isHandedOut hreturned) (List.count_eq_zero.mpr hpassed)
  · simp [isParked, hone, hone', hbefore, hafter]
  · rw [requests_of_eq hone, requests_of_eq hone', Supervisor.isWoken_of_awake hbefore,
      Supervisor.isWoken_of_awake hafter]
    simp [adopt, hpermit]

theorem requestStep_supervise {s : State} {m : SupervisorMove} {v : Supervisor}
    {t : Turn Supervisor} (hone : s.supervisors = [v]) (hgoes : Supervisor.Goes setup s.shared m v t) :
    RequestStep s (.supervise 0 m) (s.adopt 0 t).1 t.effects := by
  obtain ⟨-, -, hreturned⟩ := hgoes.frame
  cases hgoes with
  | spawn => exact requestStep_adopt hone rfl rfl rfl rfl hreturned (by simp [Turn.quiet])
  | @control m l t hgoes =>
    rcases Action.loopMove?_control 0 m with ⟨w, rfl⟩ | ha
    · cases hgoes with
      | work ticker hgoes =>
        obtain ⟨⟨current, hshared⟩, -, hpassed⟩ := hgoes.frame
        exact requestStep_adopt hone rfl rfl rfl (by simp [Turn.map, hshared]) hreturned hpassed
    · have hafter := requests_of_eq (adopt_supervisors hone (t.map .watching))
      refine .moved ha ?_ fun hopen => ?_
      · rw [hafter]
        simpa [Turn.map, hgoes.isWoken_eq_false] using Bool.toNat_le _
      · rw [requests_of_eq hone, hafter]
        exact hgoes.requests hopen
  | finish => exact requestStep_adopt hone rfl rfl rfl rfl hreturned (by simp [Turn.quiet])
  | pause p =>
    exact requestStep_adopt hone rfl rfl rfl rfl hreturned
      (by simp [Turn.reporting, Effect.ofEvents])
  | wake _ => exact requestStep_adopt hone rfl rfl rfl rfl hreturned (by simp [Turn.quiet])
  | leave _ _ => exact requestStep_adopt hone rfl rfl rfl rfl hreturned (by simp [Turn.quiet])

theorem Goes.requestStep {s s' : State} {a : Action} {es : List Effect} (hsole : s.IsSole)
    (hgoes : Goes setup s a s' es) : RequestStep s a s' es := by
  cases hgoes with
  | elapse d => exact .other rfl rfl rfl rfl rfl
  | subscribe _ => exact .other rfl rfl rfl rfl rfl
  | startAgain _ _ => exact .other rfl rfl rfl rfl rfl
  | start _ _ => exact .other rfl rfl rfl rfl rfl
  | close _ => exact .other rfl rfl rfl rfl rfl
  | drop _ _ => exact .other rfl rfl rfl rfl rfl
  | subscribed hcall =>
    obtain ⟨hrequests, hparked⟩ := hsole.requests_notify
    exact .asked rfl (List.mem_of_getElem? hcall) hparked hrequests rfl
  | spawned hcall =>
    obtain ⟨hnil, -⟩ := hsole.nil_of_starting hcall
    refine .other rfl ?_ ?_ rfl rfl
    · simp [isParked, hnil, Supervisor.isParked]
    · simp [requests, hnil, Supervisor.isWoken]
  | left _ => exact .other rfl rfl rfl rfl rfl
  | taken _ _ => exact .other rfl rfl rfl rfl rfl
  | unsupervised _ _ => exact requestStep_enterClosing s rfl _ _ (by simp) _
  | joined _ _ => exact requestStep_enterClosing s rfl _ _ (by simp) _
  | @sourceClosed k c r hcall =>
    refine requestStep_enterClosing s rfl _ _ ?_ _
    cases r <;> simp [Closing.answer]
  | supervise hv hgoes =>
    obtain ⟨rfl, hone⟩ := hsole.eq_singleton hv
    exact requestStep_supervise hone hgoes
  | stray hw hgoes =>
    obtain ⟨⟨current, hshared⟩, hreturned, hpassed⟩ := hgoes.frame
    exact .other rfl rfl (by simp [requests, hshared]) (Effect.countP_isHandedOut hreturned)
      (List.count_eq_zero.mpr hpassed)
  | discard _ => exact .other rfl rfl rfl rfl rfl
  | read hb => exact .other rfl rfl rfl rfl rfl
  | giveUp hb => exact .other rfl rfl rfl rfl rfl

/-! ### Whole runs -/

/-- Until the control loop takes a step, requests fill the room that there is. -/
theorem requests_until_loop_moves {as : List Action} {s s' : State} {es : List Effect}
    (hsole : s.IsSole) (hrun : run setup s as = some (s', es))
    (hquiet : ∀ a ∈ as, a.loopMove? = none) :
    s'.requests = min (s.requests + es.countP Effect.isHandedOut) s.room := by
  -- the room stays as it is, because only the loop itself goes to sleep or gets up
  induction as generalizing s es with
  | nil =>
    cases hrun
    have := hsole.requests_le_room
    simp only [List.countP_nil]
    omega
  | cons a as ih =>
    obtain ⟨s₁, es₁, es₂, hfirst, hrest, rfl⟩ := run_cons_eq_some_iff.mp hrun
    have hgoes := State.goes_of_step hfirst
    have hrest := ih (hsole.step hgoes) hrest fun b hb => hquiet b (List.mem_cons_of_mem _ hb)
    rw [hrest, List.countP_append]
    cases hgoes.requestStep hsole with
    | asked ha hpending hparked hrequests hes =>
      rw [room_eq hparked, hrequests, hes]
      simp only [List.countP_singleton, Effect.isHandedOut, if_true]
      omega
    | moved ha hafter hrequests => simp [hquiet a List.mem_cons_self] at ha
    | other ha hparked hrequests hhanded hpassed =>
      rw [room_eq hparked, hrequests, hhanded]
      omega

/-- A discoverer that is not closed, with no request about to be made. -/
structure Undisturbed (s : State) : Prop where
  sole : s.IsSole
  opened : s.shared.closed = false
  unasked : ∀ i, .subscribing i ∉ s.calls

theorem Undisturbed.step {s s' : State} {a : Action} {es : List Effect} (h : s.Undisturbed)
    (hgoes : Goes setup s a s' es) (hclose : a ≠ .close) (hsubscribe : a ≠ .subscribe) :
    s'.Undisturbed := by
  refine ⟨h.sole.step hgoes, (hgoes.closed_eq hclose).trans h.opened, fun i => ?_⟩
  cases hgoes.subscriptionStep with
  | registers ha hregistry hcalls hes => exact absurd ha hsubscribe
  | ends hcall hstate hes => exact absurd (List.mem_of_getElem? hcall) (h.unasked _)
  | none hsize hcalls hes =>
    rw [← List.count_eq_zero, hcalls, List.count_eq_zero]
    exact h.unasked i

/-- **Every request is passed once, unless two meet.**  Of two that are outstanding one is lost when
the control loop goes on with something else than a refresh; nothing else adds requests or takes any
away. -/
theorem Undisturbed.passes_add_requests {as : List Action} {s s' : State} {es : List Effect}
    (h : s.Undisturbed) (hrun : run setup s as = some (s', es))
    (hfree : ∀ a ∈ as, a ≠ .close ∧ a ≠ .subscribe) :
    es.count (.event .refreshRequested) + s'.requests =
      if takesUpFirst as then s.requests else min s.requests 1 := by
  induction as generalizing s es with
  | nil =>
    cases hrun
    simp [takesUpFirst]
  | cons a as ih =>
    obtain ⟨s₁, es₁, es₂, hfirst, hrest, rfl⟩ := run_cons_eq_some_iff.mp hrun
    have hgoes := State.goes_of_step hfirst
    obtain ⟨hclose, hsubscribe⟩ := hfree a List.mem_cons_self
    have hrest := ih (h.step hgoes hclose hsubscribe) hrest fun b hb =>
      hfree b (List.mem_cons_of_mem _ hb)
    rw [List.count_append, Nat.add_assoc, hrest]
    cases hgoes.requestStep h.sole with
    | asked ha hpending hparked hrequests hes => exact absurd hpending (h.unasked _)
    | @moved m ha hafter hrequests =>
      -- the loop has not been woken again, so what is left is stored, and one at most
      have hone : (if takesUpFirst as then s₁.requests else min s₁.requests 1) = s₁.requests := by
        split <;> omega
      rw [hone, hrequests h.opened, takesUpFirst_cons_of_move ha]
      simp
    | other ha hparked hrequests hhanded hpassed =>
      rw [hpassed, hrequests, takesUpFirst_cons ha, Nat.zero_add]

end State

/-- **How many refreshes requests made together come to.**  The discoverer is not closed and no request
is outstanding.  Subscriptions come back, at least one of them, before the control loop takes a step,
and after that there are no more subscriptions and no close.  Then from there on the passes of the loop
through its refresh branch and the requests still outstanding are one together, whatever ticks and
panics come in between: the loop sleeps again with none outstanding once it has passed exactly once.
They are two only when the loop was asleep, two subscriptions or more came back, and the loop
takes up a request with its very next step. -/
theorem refreshes_of_requests_made_together {s s₁ s₂ : State} {as₁ as₂ : List Action}
    {before es₁ es₂ : List Effect} (hreached : Reaches setup s before)
    (hopen : s.shared.closed = false) (hnone : s.requests = 0)
    (hcalls : run setup s as₁ = some (s₁, es₁))
    (hquiet : ∀ a ∈ as₁, a ≠ .close ∧ a.loopMove? = none)
    (hsome : 1 ≤ es₁.countP Effect.isHandedOut) (hdone : ∀ i, .subscribing i ∉ s₁.calls)
    (hrest : run setup s₁ as₂ = some (s₂, es₂))
    (hfree : ∀ a ∈ as₂, a ≠ .close ∧ a ≠ .subscribe) :
    es₂.count (.event .refreshRequested) + s₂.requests =
      if s.isParked ∧ 2 ≤ es₁.countP Effect.isHandedOut ∧ takesUpFirst as₂ then 2 else 1 := by
  have hsole := isSole_of_reaches hreached
  have hrequests := State.requests_until_loop_moves hsole hcalls fun a ha => (hquiet a ha).2
  have hundisturbed : s₁.Undisturbed :=
    ⟨hsole.run hcalls, (closed_of_run hcalls fun a ha => (hquiet a ha).1).trans hopen, hdone⟩
  rw [hundisturbed.passes_add_requests hrest hfree, hrequests, hnone, State.room]
  rw [Nat.zero_add]
  cases s.isParked with
  | false =>
    simp only [Bool.false_eq_true, false_and, if_false]
    split <;> omega
  | true =>
    cases takesUpFirst as₂ with
    | false =>
      simp only [Bool.false_eq_true, and_false, if_false, if_true]
      omega
    | true =>
      simp only [true_and, and_true, if_true]
      split <;> omega

/-- A discoverer with one source whose control loop sleeps after its first cycle. -/
def asleep : State where
  shared := ⟨0, [], .empty, false, false⟩
  started := true
  held := true
  handle := some 0
  supervisors := [.watching (.parked 10 false)]
  strays := []
  calls := []

theorem exists_reaches_asleep : ∃ before, Reaches oneSource asleep before := by
  have hend : (run oneSource (State.new 0) (untilFirstCycle ++ loadedCycle ++
      [loopStep .report, loopStep .park])).map (·.1) = some asleep := by decide +kernel
  obtain ⟨⟨s, before⟩, hrun, rfl⟩ := Option.map_eq_some_iff.mp hend
  exact ⟨before, 0, _, hrun⟩

def twoSubscriptions : List Action := [.subscribe, .proceed 0, .subscribe, .proceed 0]

/-- A cycle that begins with a given step, with a publication to two mailboxes. -/
def cycleForTwo (m : LoopMove) : List Action :=
  loopStep m :: loadedCycle ++ [loopStep .deposit, loopStep .deposit, loopStep .report]

/-- Two requests made to a loop that sleeps refresh once when a tick comes first. -/
theorem requests_before_tick_refresh_once :
    ∃ s₁ es₁ s₂ es₂, run oneSource asleep (.elapse 10 :: twoSubscriptions) = some (s₁, es₁) ∧
      es₁.countP Effect.isHandedOut = 2 ∧
      run oneSource s₁ (cycleForTwo .tick ++ cycleForTwo .refresh ++ [loopStep .park]) =
        some (s₂, es₂) ∧
      es₂.count (.event .refreshRequested) + s₂.requests = 1 := by
  obtain ⟨before, hreached⟩ := exists_reaches_asleep
  have hend : (run oneSource asleep (.elapse 10 :: twoSubscriptions)).bind (fun r =>
      (run oneSource r.1 (cycleForTwo .tick ++ cycleForTwo .refresh ++ [loopStep .park])).map
        fun _ => (r.2.countP Effect.isHandedOut, r.1.calls)) = some (2, []) := by decide +kernel
  obtain ⟨⟨s₁, es₁⟩, hcalls, hend⟩ := Option.bind_eq_some_iff.mp hend
  obtain ⟨⟨s₂, es₂⟩, hrest, hend⟩ := Option.map_eq_some_iff.mp hend
  simp only [Prod.mk.injEq] at hend
  obtain ⟨hcount, hdone⟩ := hend
  have hlate : takesUpFirst (cycleForTwo .tick ++ cycleForTwo .refresh ++ [loopStep .park]) = false :=
    rfl
  refine ⟨s₁, es₁, s₂, es₂, hcalls, hcount, hrest, ?_⟩
  rw [refreshes_of_requests_made_together hreached rfl rfl hcalls
    (by simp [twoSubscriptions, Action.loopMove?]) (by omega) (by simp [hdone]) hrest
    (by simp [cycleForTwo, loadedCycle, loopStep]), hlate]
  simp

/-- **Two requests made to a loop that sleeps refresh twice** when a refresh comes first. -/
theorem two_requests_refresh_twice :
    (∃ before, Reaches oneSource asleep before) ∧ asleep.shared.closed = false ∧
      asleep.isParked = true ∧ asleep.requests = 0 ∧
      ∃ s₁ es₁ s₂ es₂, run oneSource asleep twoSubscriptions = some (s₁, es₁) ∧
        es₁.countP Effect.isHandedOut = 2 ∧ s₁.calls = [] ∧
        run oneSource s₁ (cycleForTwo .refresh ++ cycleForTwo .refresh ++ [loopStep .park]) =
          some (s₂, es₂) ∧
        s₂.isParked = true ∧ s₂.requests = 0 ∧ es₂.count (.event .refreshRequested) = 2 := by
  refine ⟨exists_reaches_asleep, rfl, rfl, rfl, ?_⟩
  have hend : (run oneSource asleep twoSubscriptions).bind (fun r =>
      (run oneSource r.1 (cycleForTwo .refresh ++ cycleForTwo .refresh ++ [loopStep .park])).map
        fun r' => (r.2.countP Effect.isHandedOut, r.1.calls, r'.1.isParked, r'.1.requests,
          r'.2.count (.event .refreshRequested))) = some (2, [], true, 0, 2) := by decide +kernel
  obtain ⟨⟨s₁, es₁⟩, hcalls, hend⟩ := Option.bind_eq_some_iff.mp hend
  obtain ⟨⟨s₂, es₂⟩, hrest, hend⟩ := Option.map_eq_some_iff.mp hend
  simp only [Prod.mk.injEq] at hend
  obtain ⟨hcount, hdone, hparked, hnone, htwice⟩ := hend
  exact ⟨s₁, es₁, s₂, es₂, hcalls, hcount, hdone, hrest, hparked, hnone, htwice⟩

end Discoverer

end ClusterTopology
