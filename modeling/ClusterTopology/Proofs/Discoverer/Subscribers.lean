import ClusterTopology.Proofs.Discoverer.Run
/-!
No subscriber is forgotten.

A mailbox that is registered after a publication has copied the list of mailboxes is missed by it.
What makes up for that is the request that every subscription makes a step later.  The request is either
a woken loop or a stored permit, and it may meet a tick, another request or a panic of the loop.
`Covers` is what holds of a mailbox through all of that, from the end of its subscription on: it has
been written, or a cycle that will write it is under way or asked for.

A mailbox counts as covered from the step that hands it out.  Before that its subscription is among the
calls, and `HasSubscribed` and `SubscribesOnce` say how far that has come; `Minds` puts all of it together
for the mailboxes that have been handed out so far, and is what the run keeps.  The step of a control loop
splits by what the loop is about to do, and the one case with an argument in it is a publication whose list
is older than the mailbox: it does not serve the mailbox, so it has to be a stored request that covers it,
and the loop takes that up later.
-/

namespace ClusterTopology

/-! ### How often a mailbox has been written -/

namespace Registry

/-- How often box `i` has been written. -/
def written (r : Registry) (i : Nat) : Nat :=
  (r.boxes[i]?.map (·.deposits)).getD 0

@[simp] theorem written_register (r : Registry) (i : Nat) : r.register.written i = r.written i := by
  rcases Nat.lt_trichotomy i r.boxes.length with hlt | heq | hgt
  · simp [written, register, List.getElem?_append_left hlt]
  · simp [written, register, heq, Box.empty]
  · have hle : r.boxes.length ≤ i := Nat.le_of_lt hgt
    have hle' : (r.boxes ++ [Box.empty]).length ≤ i := by simp; omega
    simp [written, register, List.getElem?_eq_none hle, List.getElem?_eq_none hle']

theorem written_deposit (r : Registry) (i j : Nat) (s : Snapshot) :
    (r.deposit j s).written i = r.written i + if j = i ∧ i < r.size then 1 else 0 := by
  by_cases hji : j = i
  · subst hji
    by_cases hlt : j < r.boxes.length
    · simp [written, deposit, Box.deposit, size, hlt]
    · simp [written, deposit, size, hlt]
  · simp [written, deposit, List.getElem?_modify_ne _ _ hji, hji]

@[simp] theorem written_set_look {r : Registry} {j : Nat} {b : Box} (hb : r.box? j = some b)
    (i : Nat) : (r.set j b.look).written i = r.written i := by
  obtain ⟨hget, -⟩ := Option.filter_eq_some_iff.mp hb
  by_cases hji : j = i
  · subst hji
    obtain ⟨hlt, hat⟩ := List.getElem?_eq_some_iff.mp hget
    simp [written, set, Box.look, hlt, hat]
  · simp [written, set, List.getElem?_set_ne hji]

@[simp] theorem written_giveUp (r : Registry) (i j : Nat) : (r.giveUp j).written i = r.written i := by
  by_cases hji : j = i
  · subst hji
    rcases hget : r.boxes[j]? with _ | b <;> simp [written, giveUp, hget]
  · simp [written, giveUp, List.getElem?_modify_ne _ _ hji]

end Registry

namespace Discoverer

variable {setup : Setup}

/-! ### Who will write a mailbox -/

/-- Whether a supervisor will have mailbox `i` written without being asked to: its control loop is to
begin a cycle, is in one whose publication has yet to copy the list of mailboxes, or has copied it and
not come to the mailbox. -/
def Supervisor.Serves (i : Nat) : Supervisor → Prop
  | .spawning | .pausing _ => True
  | .watching .launched | .watching (.cycling _ _) | .watching (.parked _ true)
  | .watching (.panicked _) => True
  | .watching (.publishing _ f) => f.done ≤ i ∧ i < f.count
  | _ => False

/-- Whether mailbox `i` has been written, or will be: a request is stored, or it is served. -/
def State.Covers (s : State) (i : Nat) : Prop :=
  0 < s.shared.registry.written i ∨ s.shared.permit = true ∨ ∃ v ∈ s.supervisors, v.Serves i

/-- While the discoverer is not closed, no step of the control loop drops a mailbox. -/
theorem Loop.Goes.serves {sh : Shared} {m : LoopMove} {l : Loop} {t : Turn Loop} {i : Nat}
    (hgoes : Goes setup sh m l t) (hopen : sh.closed = false) (hi : i < sh.registry.size)
    (h : 0 < sh.registry.written i ∨ sh.permit = true ∨ (Supervisor.watching l).Serves i) :
    0 < t.shared.registry.written i ∨ t.shared.permit = true ∨
      (Supervisor.watching t.task).Serves i := by
  cases hgoes with
  | launch => exact .inr (.inr trivial)
  | work ticker _ => exact .inr (.inr trivial)
  | join ticker o =>
    -- the list that is copied now has the mailbox
    exact .inr (.inr ⟨Nat.zero_le _, hi⟩)
  | abandon ticker w hclosed => simp [hopen] at hclosed
  | deposit ticker f hlt =>
    rcases h with hwritten | hpermit | ⟨hdone, hcount⟩
    · left
      simp only [Registry.written_deposit]
      omega
    · exact .inr (.inl hpermit)
    · -- the mailbox is the one written now, or it comes later
      by_cases heq : f.done = i
      · left
        simp [Registry.written_deposit, heq, hi]
      · exact .inr (.inr ⟨by simp only; omega, hcount⟩)
  | report hle hdue =>
    -- nothing is left to be written, so it was no publication that served the mailbox
    rcases h with hwritten | hpermit | ⟨hdone, hcount⟩
    · exact .inl hwritten
    · exact .inr (.inl hpermit)
    · omega
  | reportOverflow hle hadd => exact .inr (.inr trivial)
  | stop hwaits hclosed => simp [hopen] at hclosed
  | tick hwaits hdue => exact .inr (.inr trivial)
  | refreshStored due hpermit => exact .inr (.inr trivial)
  | refreshWoken due => exact .inr (.inr trivial)
  | park due hopen' hdue hpermit =>
    rcases h with hwritten | hstored | hserves
    · exact .inl hwritten
    · exact .inr (.inl hstored)
    · exact hserves.elim
  | crash hwaits p => exact .inr (.inr trivial)

theorem Supervisor.Goes.serves {sh : Shared} {m : SupervisorMove} {v : Supervisor}
    {t : Turn Supervisor} {i : Nat} (hgoes : Goes setup sh m v t) (hopen : sh.closed = false)
    (hi : i < sh.registry.size)
    (h : 0 < sh.registry.written i ∨ sh.permit = true ∨ v.Serves i) :
    0 < t.shared.registry.written i ∨ t.shared.permit = true ∨ t.task.Serves i := by
  cases hgoes with
  | spawn => exact .inr (.inr trivial)
  | control hgoes => exact hgoes.serves hopen hi h
  | finish =>
    rcases h with hwritten | hpermit | hserves
    · exact .inl hwritten
    · exact .inr (.inl hpermit)
    · exact hserves.elim
  | pause p => exact .inr (.inr trivial)
  | wake _ => exact .inr (.inr trivial)
  | leave time hclosed => simp [hopen] at hclosed

/-! ### Subscriptions under way -/

/-- Every mailbox has at most one subscription under way, and one that is not registered has none. -/
def State.SubscribesOnce (s : State) : Prop :=
  ∀ i, s.calls.count (.subscribing i) ≤ if i < s.shared.registry.size then 1 else 0

/-- Whether the subscription to mailbox `i` has come back. -/
def State.HasSubscribed (s : State) (i : Nat) : Prop :=
  i < s.shared.registry.size ∧ .subscribing i ∉ s.calls

namespace State

/-! ### Every step keeps mailboxes covered -/

theorem SubscriptionStep.subscribesOnce {s s' : State} {es : List Effect}
    (hstep : SubscriptionStep s a s' es) (h : s.SubscribesOnce) : s'.SubscribesOnce := by
  intro i
  have hi := h i
  cases hstep with
  | registers ha hregistry hcalls hes =>
    rw [hcalls, hregistry, Registry.size_register, List.count_append, List.count_singleton]
    by_cases heq : s.shared.registry.size = i
    · subst heq
      simp at hi ⊢
      omega
    · have hlt : i < s.shared.registry.size + 1 ↔ i < s.shared.registry.size := by omega
      simpa [heq, hlt] using hi
  | ends hcall hstate hes =>
    rw [hstate, notify_registry]
    exact Nat.le_trans ((List.eraseIdx_sublist _ _).count_le _) hi
  | none hsize hcalls hes =>
    rw [hcalls, hsize]
    exact hi

theorem SubscriptionStep.hasSubscribed {s s' : State} {es : List Effect}
    (hstep : SubscriptionStep s a s' es) {i : Nat} (h : s.HasSubscribed i) : s'.HasSubscribed i := by
  obtain ⟨hi, hcall⟩ := h
  cases hstep with
  | registers ha hregistry hcalls hes =>
    refine ⟨by rw [hregistry, Registry.size_register]; omega, ?_⟩
    rw [hcalls, List.mem_append, List.mem_singleton, Call.subscribing.injEq]
    rintro (hmem | heq)
    · exact hcall hmem
    · omega
  | ends hcall' hstate hes =>
    rw [hstate]
    exact ⟨by simpa using hi, fun hmem => hcall (List.mem_of_mem_eraseIdx hmem)⟩
  | none hsize hcalls hes =>
    refine ⟨by rw [hsize]; exact hi, ?_⟩
    rw [← List.count_eq_zero, hcalls, List.count_eq_zero]
    exact hcall

/-- A subscription that comes back was the only one to its mailbox, so none is under way after it. -/
theorem SubscriptionStep.hasSubscribed_of_returned {s s' : State} {es : List Effect}
    (hstep : SubscriptionStep s a s' es) (honce : s.SubscribesOnce) {i : Nat}
    (hreturned : .returned (.mailbox i) ∈ es) : s'.HasSubscribed i := by
  cases hstep with
  | registers ha hregistry hcalls hes => simp [hes] at hreturned
  | @ends k j hcall hstate hes =>
    obtain rfl : i = j := by simpa [hes] using hreturned
    have hcount := count_eraseIdx_add hcall (.subscribing i)
    have hbound := honce i
    simp only [if_true] at hcount
    rw [hstate]
    refine ⟨?_, ?_⟩
    · by_contra hge
      rw [notify_registry] at hge
      rw [if_neg hge] at hbound
      omega
    · rw [← List.count_eq_zero]
      split at hbound <;> simp only <;> omega
  | none hsize hcalls hes => exact absurd hreturned (hes i)

theorem SubscriptionStep.hasSubscribed_before {s s' : State} {es : List Effect}
    (hstep : SubscriptionStep s a s' es) {i : Nat} (h : s'.HasSubscribed i) :
    s.HasSubscribed i ∨ .returned (.mailbox i) ∈ es := by
  obtain ⟨hi, hcall⟩ := h
  cases hstep with
  | registers ha hregistry hcalls hes =>
    rw [hregistry, Registry.size_register] at hi
    rw [hcalls, List.mem_append, List.mem_singleton, Call.subscribing.injEq, not_or] at hcall
    exact .inl ⟨by omega, hcall.1⟩
  | @ends k j hcall' hstate hes =>
    rw [hstate] at hi hcall
    by_cases hij : i = j
    · exact .inr (by simp [hes, hij])
    · refine .inl ⟨by simpa using hi, ?_⟩
      have hcount := count_eraseIdx_add hcall' (.subscribing i)
      rw [← List.count_eq_zero] at hcall
      rw [← List.count_eq_zero, ← hcount, hcall]
      simp [Ne.symm hij]
  | none hsize hcalls hes =>
    rw [hsize] at hi
    rw [← List.count_eq_zero, hcalls, List.count_eq_zero] at hcall
    exact .inl ⟨hi, hcall⟩

/-- A request covers every mailbox. -/
theorem IsSole.covers_notify {s : State} (hsole : s.IsSole) (i : Nat) : s.notify.Covers i := by
  rcases hsole.notify_eq with ⟨due, hparked, hnotify⟩ | ⟨-, hnotify⟩
  · rw [hnotify]
    exact .inr (.inr ⟨_, List.mem_singleton_self _, trivial⟩)
  · rw [hnotify]
    exact .inr (.inl rfl)

/-- **While the discoverer is not closed, every step keeps covering the mailboxes that were handed
out.** -/
theorem Covers.step {s s' : State} {a : Action} {es : List Effect} (hsole : s.IsSole)
    (hgoes : Goes setup s a s' es) (hopen : s.shared.closed = false) {i : Nat}
    (hi : i < s.shared.registry.size) (h : s.Covers i) : s'.Covers i := by
  cases hgoes with
  | elapse d => exact h
  | subscribe _ => simpa [Covers] using h
  | startAgain _ _ => exact h
  | start _ _ => exact h
  | close _ => exact h
  | drop _ _ => exact h
  | subscribed _ => exact hsole.covers_notify i
  | spawned hcall =>
    rcases h with hwritten | hpermit | ⟨v, hv, hserves⟩
    · exact .inl hwritten
    · exact .inr (.inl hpermit)
    · exact .inr (.inr ⟨v, List.mem_append_left _ hv, hserves⟩)
  | left _ => exact h
  | taken _ _ => exact h
  | unsupervised _ _ => simpa [Covers] using h
  | joined _ _ => simpa [Covers] using h
  | sourceClosed _ _ => simpa [Covers] using h
  | @supervise j m v t hv hgoes =>
    obtain ⟨rfl, hone⟩ := hsole.eq_singleton hv
    have hserved : 0 < s.shared.registry.written i ∨ s.shared.permit = true ∨ v.Serves i := by
      simpa [Covers, hone] using h
    simpa [Covers, adopt, hone] using hgoes.serves hopen hi hserved
  | stray hw hgoes =>
    obtain ⟨⟨current, hshared⟩, -⟩ := hgoes.frame
    simpa [Covers, hshared] using h
  | discard _ => exact h
  | read hb => simpa [Covers, hb] using h
  | giveUp hb => simpa [Covers] using h

/-- A mailbox is written by deposits only. -/
theorem Goes.written_pos {s s' : State} {a : Action} {es : List Effect}
    (hgoes : Goes setup s a s' es) {i : Nat} (h : 0 < s'.shared.registry.written i) :
    0 < s.shared.registry.written i ∨ ∃ x, .deposited i x ∈ es := by
  cases hgoes with
  | subscribe _ => simpa using h
  | subscribed _ =>
    left
    simp only [finish, notify] at h
    split at h <;> exact h
  | unsupervised _ _ => exact .inl (by simpa using h)
  | joined _ _ => exact .inl (by simpa using h)
  | sourceClosed _ _ => exact .inl (by simpa using h)
  | supervise hv hgoes =>
    cases hgoes with
    | control hgoes =>
      cases hgoes with
      | work ticker hgoes =>
        obtain ⟨⟨current, hshared⟩, -⟩ := hgoes.frame
        exact .inl (by simpa [adopt, Turn.map, hshared] using h)
      | deposit ticker f hlt =>
        by_cases heq : f.done = i
        · exact .inr ⟨f.snapshot, by simp [Turn.map, heq]⟩
        · left
          simpa [adopt, Turn.map, Registry.written_deposit, heq] using h
      | _ => exact .inl h
    | _ => exact .inl h
  | stray hw hgoes =>
    obtain ⟨⟨current, hshared⟩, -⟩ := hgoes.frame
    exact .inl (by simpa [hshared] using h)
  | read hb => exact .inl (by simpa [hb] using h)
  | giveUp hb => exact .inl (by simpa using h)
  | _ => exact .inl h

/-- What holds of all mailboxes, with what has been done. -/
structure Minds (s : State) (es : List Effect) : Prop where
  once : s.SubscribesOnce
  returned : ∀ i, .returned (.mailbox i) ∈ es → s.HasSubscribed i
  covered : s.shared.closed = false → ∀ i, s.HasSubscribed i → s.Covers i
  written : ∀ i, 0 < s.shared.registry.written i → ∃ x, .deposited i x ∈ es

theorem Minds.step {s s' : State} {a : Action} {past es : List Effect} (hsole : s.IsSole)
    (h : s.Minds past) (hgoes : Goes setup s a s' es) : s'.Minds (past ++ es) := by
  have hstep := hgoes.subscriptionStep
  refine ⟨hstep.subscribesOnce h.once, ?_, ?_, ?_⟩
  · intro i hreturned
    rcases List.mem_append.mp hreturned with hpast | hnow
    · exact hstep.hasSubscribed (h.returned i hpast)
    · exact hstep.hasSubscribed_of_returned h.once hnow
  · intro hopen' i hi
    have hopen : s.shared.closed = false := by
      by_contra hclosed
      rw [hgoes.closed_of_closed (Bool.not_eq_false _ ▸ hclosed)] at hopen'
      cases hopen'
    rcases hstep.hasSubscribed_before hi with hbefore | hnow
    · exact (h.covered hopen i hbefore).step hsole hgoes hopen hbefore.1
    · -- the request that ends the subscription covers the mailbox
      cases hstep with
      | registers ha hregistry hcalls hes => simp [hes] at hnow
      | ends hcall hstate hes =>
        rw [hstate]
        exact hsole.covers_notify i
      | none hsize hcalls hes => exact absurd hnow (hes i)
  · intro i hi
    rcases hgoes.written_pos hi with hbefore | ⟨x, hx⟩
    · obtain ⟨x, hx⟩ := h.written i hbefore
      exact ⟨x, List.mem_append_left _ hx⟩
    · exact ⟨x, List.mem_append_right _ hx⟩

theorem minds_new (now : Instant) : (State.new now).Minds [] where
  once := by intro i; simp [State.new]
  returned := by intro i h; simp at h
  covered := by
    intro _ i h
    exact absurd h.1 (by simp [State.new, Registry.size, Registry.empty])
  written := by
    intro i h
    simp [State.new, Registry.written, Registry.empty] at h

end State

/-- **No subscriber is forgotten.**  Whenever the control loop sleeps with nothing to wake it, no
request stored and the discoverer not closed, every mailbox whose subscription has come back has been
written since it was registered, however subscriptions, ticks, publications and panics of the loop
have met before. -/
theorem handed_out_mailboxes_are_written {now due : Instant} {as : List Action} {s : State}
    {es : List Effect} {i : Nat} (hrun : run setup (State.new now) as = some (s, es))
    (hopen : s.shared.closed = false) (hparked : .watching (.parked due false) ∈ s.supervisors)
    (hpermit : s.shared.permit = false) (hreturned : .returned (.mailbox i) ∈ es) :
    (∃ b, s.shared.registry.boxes[i]? = some b ∧ 0 < b.deposits) ∧ ∃ x, .deposited i x ∈ es := by
  obtain ⟨hminds, hsole⟩ := reached_effects_induction (P := State.Minds) (State.minds_new now)
    (fun hsole h hgoes => h.step hsole hgoes) hrun
  have hwritten : 0 < s.shared.registry.written i := by
    rcases hminds.covered hopen i (hminds.returned i hreturned) with hwritten | hstored | hserved
    · exact hwritten
    · simp [hpermit] at hstored
    · obtain ⟨v, hv, hserves⟩ := hserved
      obtain ⟨j, hj⟩ := List.mem_iff_getElem?.mp hparked
      obtain ⟨-, hone⟩ := hsole.eq_singleton hj
      rw [hone, List.mem_singleton] at hv
      exact (hv ▸ hserves : (Supervisor.watching (.parked due false)).Serves i).elim
  refine ⟨?_, hminds.written i hwritten⟩
  rcases hbox : s.shared.registry.boxes[i]? with _ | b
  · simp [Registry.written, hbox] at hwritten
  · exact ⟨b, rfl, by simpa [Registry.written, hbox] using hwritten⟩

/-- A run in which the first publication misses a mailbox that is registered while it goes on, and the
request for that mailbox is made after the publication, just before a tick is taken.  The cycle of the
tick writes the mailbox, and the cycle of the request comes after it. -/
def lateSubscription : List Action :=
  untilFirstCycle ++ loadedCycle ++
    [.subscribe, loopStep .report, loopStep .park, .elapse 10, .proceed 0, loopStep .tick] ++
    loadedCycle ++ [loopStep .deposit, loopStep .report, loopStep .refresh] ++
    loadedCycle ++ [loopStep .deposit, loopStep .report, loopStep .park]

theorem lateSubscription_is_written :
    ∃ s es due, run oneSource (State.new 0) lateSubscription = some (s, es) ∧
      s.shared.closed = false ∧ .watching (.parked due false) ∈ s.supervisors ∧
      s.shared.permit = false ∧ .returned (.mailbox 0) ∈ es ∧
      (∃ b, s.shared.registry.boxes[0]? = some b ∧ 0 < b.deposits) ∧ ∃ x, .deposited 0 x ∈ es := by
  have hend : (run oneSource (State.new 0) lateSubscription).map (fun r =>
      (r.1.shared.closed, r.1.supervisors, r.1.shared.permit, r.2.contains (.returned (.mailbox 0))))
      = some (false, [.watching (.parked 20 false)], false, true) := by decide +kernel
  obtain ⟨⟨s, es⟩, hrun, hfields⟩ := Option.map_eq_some_iff.mp hend
  simp only [Prod.mk.injEq, List.contains_iff_mem] at hfields
  obtain ⟨hopen, hloop, hpermit, hreturned⟩ := hfields
  have hparked : .watching (.parked 20 false) ∈ s.supervisors := by simp [hloop]
  exact ⟨s, es, 20, hrun, hopen, hparked, hpermit, hreturned,
    handed_out_mailboxes_are_written hrun hopen hparked hpermit hreturned⟩

end Discoverer

end ClusterTopology
