import ClusterTopology.Proofs.Discoverer.Closing
import ClusterTopology.Proofs.Discoverer.Prospects
/-!
Dropping a discoverer.

A mailbox ends when nobody is left who could write it.  Dropping the discoverer takes only the client
away.  The supervisor of a discoverer that was started stays, and only a close makes it return: without
one it keeps a control loop going for good, which goes on to write the mailboxes, and whoever waits at
one waits on.

So what decides is whether the supervisor has returned.  It has when the discoverer was never started,
and when a close was made after a start had come back, since the close has waited for it.

Without a client few steps are left, and `LoneStep` lists them.  They keep `Over`, that nobody is left who
could write a mailbox.  `Ends` and `WaitsOn` say what the two outcomes mean for a reader, however the run
goes on: nothing is written any more and a wait comes to its end, or a wait never does.  `Awaited` is the
invariant that decides between them: a close that has come back has waited for the supervisor, or has found
that there is none.
-/

namespace ClusterTopology.Discoverer

variable {setup : Setup}

/-! ### Without the client -/

structure State.Dropped (s : State) : Prop where
  held : s.held = false
  calls : s.calls = []

namespace State

/-- What a step can be without a client: one of a task, or one that leaves tasks alone. -/
inductive LoneStep (setup : Setup) (s : State) : State → List Effect → Prop where
  | supervise {i : Nat} {m : SupervisorMove} {v : Supervisor} {t : Turn Supervisor}
      (hv : s.supervisors[i]? = some v) (hgoes : Supervisor.Goes setup s.shared m v t) :
      LoneStep setup s (s.adopt i t).1 t.effects
  | stray {j : Nat} {m : WorkerMove} {w : Worker} {t : Turn Worker} (hw : s.strays[j]? = some w)
      (hgoes : Worker.Goes setup s.shared m w t) :
      LoneStep setup s { s with shared := t.shared, strays := s.strays.set j t.task } t.effects
  | discard {j : Nat} (hj : j < s.strays.length) :
      LoneStep setup s { s with strays := s.strays.eraseIdx j } []
  | other {shared : Shared} {es : List Effect} (hclosed : shared.closed = s.shared.closed)
      (hes : ∀ i x, .deposited i x ∉ es) : LoneStep setup s { s with shared } es

/-- **Without a client, only tasks, readers and the clock go on.** -/
theorem Dropped.loneStep {s s' : State} {a : Action} {es : List Effect} (h : s.Dropped)
    (hgoes : Goes setup s a s' es) : LoneStep setup s s' es := by
  have hnone {k : Nat} {c : Call} : s.calls[k]? ≠ some c := by simp [h.calls]
  have hgone : s.held ≠ true := by simp [h.held]
  cases hgoes with
  | subscribe hheld => exact absurd hheld hgone
  | startAgain hheld hstarted => exact absurd hheld hgone
  | start hheld hstarted => exact absurd hheld hgone
  | close hheld => exact absurd hheld hgone
  | drop hheld hcalls => exact absurd hheld hgone
  | subscribed hcall => exact absurd hcall hnone
  | spawned hcall => exact absurd hcall hnone
  | left hcall => exact absurd hcall hnone
  | taken hcall hhandle => exact absurd hcall hnone
  | unsupervised hcall hhandle => exact absurd hcall hnone
  | joined hcall hreturned => exact absurd hcall hnone
  | sourceClosed r hcall => exact absurd hcall hnone
  | supervise hv hgoes => exact .supervise hv hgoes
  | stray hw hgoes => exact .stray hw hgoes
  | discard hj => exact .discard hj
  | elapse d => exact .other rfl (by simp)
  | read hb => exact .other rfl (by simp)
  | giveUp hb => exact .other rfl (by simp)

theorem Dropped.step {s s' : State} {a : Action} {es : List Effect} (h : s.Dropped)
    (hgoes : Goes setup s a s' es) :
    s'.Dropped ∧ s'.shared.closed = s.shared.closed ∧
      s'.supervisors.length = s.supervisors.length := by
  cases h.loneStep hgoes with
  | supervise hv hmoves => exact ⟨⟨h.held, h.calls⟩, hmoves.frame.2.1, by simp [adopt]⟩
  | stray hw hmoves =>
    obtain ⟨⟨current, hshared⟩, -⟩ := hmoves.frame
    exact ⟨⟨h.held, h.calls⟩, by simp [hshared], rfl⟩
  | discard hj => exact ⟨⟨h.held, h.calls⟩, rfl, rfl⟩
  | other hclosed hes => exact ⟨⟨h.held, h.calls⟩, hclosed, rfl⟩

/-- Nobody is left who could write a mailbox. -/
structure Over (s : State) : Prop where
  dropped : s.Dropped
  strays : s.strays = []
  returned : ∀ v ∈ s.supervisors, v = .returned

theorem Over.step {s s' : State} {a : Action} {es : List Effect} (h : s.Over)
    (hgoes : Goes setup s a s' es) : s'.Over ∧ ∀ i x, .deposited i x ∉ es := by
  have hdropped := (h.dropped.step hgoes).1
  cases h.dropped.loneStep hgoes with
  | supervise hv hmoves =>
    obtain rfl := h.returned _ (List.mem_of_getElem? hv)
    cases hmoves
  | stray hw hmoves => simp [h.strays] at hw
  | discard hj => simp [h.strays] at hj
  | other hclosed hes => exact ⟨⟨hdropped, h.strays, h.returned⟩, hes⟩

end State

theorem dropped_of_reaches {s : State} {es : List Effect} (h : Reaches setup s es)
    (hheld : s.held = false) : s.Dropped := by
  obtain ⟨now, as, hrun⟩ := h
  have hkept : s.held = false → s.Dropped := by
    refine run_state_induction (A := fun _ => True) (P := fun s => s.held = false → s.Dropped) ?_
      (by simp) hrun (by simp [State.new])
    intro s s' a es ih _ hgoes hheld
    by_cases ha : a = .drop
    · subst ha
      cases hgoes with
      | drop _ hcalls => exact ⟨rfl, hcalls⟩
    · exact ((ih ((hgoes.held_eq ha).symm.trans hheld)).step hgoes).1
  exact hkept hheld

/-! ### Who is left -/

/-- No cycle is under way. -/
structure State.Rests (s : State) : Prop where
  strays : s.strays = []
  idle : ∀ v ∈ s.supervisors, ¬ v.InCycle

/-- However it goes on, a mailbox is not written any more, and a reader that waits at it with nothing
unread comes to its end. -/
def State.Ends (setup : Setup) (s : State) (i : Nat) : Prop :=
  ∀ as s' es, run setup s as = some (s', es) → (∀ x, .deposited i x ∉ es) ∧
    ∀ b, s'.shared.registry.box? i = some b → b.unread = none →
      (b.receive s'.isWritable).1 = .ended

/-- However it goes on, a reader that waits at a mailbox with nothing unread waits on. -/
def State.WaitsOn (setup : Setup) (s : State) (i : Nat) : Prop :=
  ∀ as s' es, run setup s as = some (s', es) →
    ∀ b, s'.shared.registry.box? i = some b → b.unread = none →
      (b.receive s'.isWritable).1 = .pending

theorem State.Over.ends {s : State} (h : s.Over) (i : Nat) : s.Ends setup i := by
  intro as s' es hrun
  have hkept := run_effects_induction (P := fun s past => s.Over ∧ ∀ x, .deposited i x ∉ past) ?_ hrun
    ⟨h, fun _ => List.not_mem_nil⟩
  · obtain ⟨hover, hnone⟩ := hkept
    refine ⟨by simpa using hnone, ?_⟩
    intro b _ hunread
    have hwritable : s'.isWritable = false := by
      simpa [State.isWritable, hover.dropped.held, hover.strays] using hover.returned
    simp [Box.receive, hunread, hwritable]
  · rintro s s' past es a ⟨hover, hnone⟩ hgoes
    obtain ⟨hover', hnone'⟩ := hover.step hgoes
    refine ⟨hover', ?_⟩
    intro x hx
    rcases List.mem_append.mp hx with hx | hx
    · exact hnone x hx
    · exact hnone' i x hx

theorem State.receive_of_supervisor {s : State} {v : Supervisor} (hv : v ∈ s.supervisors)
    (hworks : v ≠ .returned) {b : Box} (hunread : b.unread = none) :
    (b.receive s.isWritable).1 = .pending := by
  have hany : s.supervisors.any (· != .returned) = true :=
    List.any_eq_true.mpr ⟨v, hv, by simpa using hworks⟩
  simp [Box.receive, hunread, isWritable, hany]

theorem State.Ends.returned {s : State} {i : Nat} {b : Box} (h : s.Ends setup i)
    (hbox : s.shared.registry.box? i = some b) : ∀ v ∈ s.supervisors, v = .returned := by
  intro v hv
  by_contra hworks
  -- the reader takes what is unread, and would have to wait after that
  obtain ⟨hget, hheld⟩ := Option.filter_eq_some_iff.mp hbox
  obtain ⟨s', hread, hv', hbox'⟩ : ∃ s', s.step setup (.read i) = some (s', [.received i b.unread]) ∧
      v ∈ s'.supervisors ∧ s'.shared.registry.box? i = some b.look := by
    refine ⟨{ s with shared := { s.shared with registry := s.shared.registry.set i b.look } }, ?_, hv,
      Option.filter_eq_some_iff.mpr ⟨?_, hheld⟩⟩
    · simp [State.step, Registry.tryReceive?, hbox, Box.tryReceive]
    · simpa using Registry.getElem?_set_look hbox hget
  have hend := (h [.read i] s' _ (run_cons_eq_some_iff.mpr ⟨s', _, [], hread, rfl, rfl⟩)).2 _ hbox'
    (Box.unread_look b)
  rw [State.receive_of_supervisor hv' hworks (Box.unread_look b)] at hend
  cases hend

/-- The supervisor of a discoverer that was never closed outlives it. -/
theorem State.Dropped.waitsOn {s : State} (h : s.Dropped) (hsole : s.IsSole)
    (hopen : s.shared.closed = false) (hsome : s.supervisors.length = 1)
    (htends : ∀ v ∈ s.supervisors, v.Tends) (i : Nat) : s.WaitsOn setup i := by
  intro as s' es hrun b _ hunread
  have hkept : (s'.Dropped ∧ s'.IsSole) ∧ s'.shared.closed = false ∧ s'.supervisors.length = 1 ∧
      ∀ v ∈ s'.supervisors, v.Tends := by
    refine run_state_induction (A := fun _ => True)
      (P := fun s => (s.Dropped ∧ s.IsSole) ∧ s.shared.closed = false ∧ s.supervisors.length = 1 ∧
        ∀ v ∈ s.supervisors, v.Tends) ?_ (by simp) hrun ⟨⟨h, hsole⟩, hopen, hsome, htends⟩
    rintro s s' a es ⟨⟨h, hsole⟩, hopen, hsome, htends⟩ _ hgoes
    obtain ⟨h', hclosed, hlength⟩ := h.step hgoes
    exact ⟨⟨h', hsole.step hgoes⟩, hclosed.trans hopen, hlength.trans hsome,
      State.tends_step hsole hgoes hopen htends⟩
  obtain ⟨-, -, hsome', htends'⟩ := hkept
  obtain ⟨v, hv⟩ := List.length_eq_one_iff.mp hsome'
  have hmem : v ∈ s'.supervisors := by simp [hv]
  refine State.receive_of_supervisor hmem ?_ hunread
  rintro rfl
  cases htends' _ hmem

/-! ### Who has made the supervisor return -/

/-- The supervisor has returned or will have before a close comes back: the close waits for it, or finds
its handle.  With `asked` a close has been made. -/
inductive State.Awaited (asked : Prop) (s : State) : Prop where
  | returned (hover : s.supervisors = [.returned])
  | joining {i : Nat} (hcall : .joining i ∈ s.closes)
  | left (hhandle : s.handle ≠ none) (hasked : asked → .stopping ∈ s.closes)

theorem State.mem_closes_enterClosing {s : State} {k : Nat} {c d : Call} (hcall : s.calls[k]? = some c)
    (hd : d ∈ s.closes) (hne : d ≠ c) (events : List Event) (stage : Closing.Stage) :
    d ∈ (s.enterClosing k events stage).1.closes := by
  obtain ⟨hmem, hclose⟩ := List.mem_filter.mp hd
  obtain ⟨hk, rfl⟩ := List.getElem?_eq_some_iff.mp hcall
  have herase : d ∈ s.calls.eraseIdx k := by
    have hperm := (List.getElem_cons_eraseIdx_perm hk).mem_iff.mpr hmem
    exact (List.mem_cons.mp hperm).resolve_left hne
  obtain ⟨calls, hstate, hcalls⟩ := s.enterClosing_state k events stage
  rw [hstate]
  refine List.mem_filter.mpr ⟨?_, hclose⟩
  rcases hcalls with rfl | ⟨c', rfl⟩
  · exact herase
  · exact (List.set_perm_cons_eraseIdx hk _).mem_iff.mpr (List.mem_cons_of_mem _ herase)

theorem State.Awaited.step {asked : Prop} {s s' : State} {a : Action} {es : List Effect}
    (hsole : s.IsSole) (h : s.Awaited asked) (hgoes : Goes setup s a s' es) : s'.Awaited asked := by
  have hover (hover : s.supervisors = [.returned]) : s'.Awaited asked :=
    .returned (hgoes.after_returned hsole hover).1
  cases hgoes.closeStep with
  | asked ha hcalls hhandle hes =>
    have hmore {c : Call} (hc : c ∈ s.closes) : c ∈ s'.closes := by
      rw [State.closes, hcalls, List.filter_append]
      exact List.mem_append_left _ hc
    cases h with
    | returned hreturned => exact hover hreturned
    | joining hcall => exact .joining (hmore hcall)
    | left hsome hasked => exact .left (hhandle ▸ hsome) fun h => hmore (hasked h)
  | @taken k i hcall hcalls hes =>
    refine .joining (i := i) ?_
    obtain ⟨hk, -⟩ := List.getElem?_eq_some_iff.mp hcall
    rw [State.closes, hcalls]
    exact List.mem_filter.mpr ⟨List.mem_set hk _, rfl⟩
  | @entered k c hcall hready hstate hes =>
    rcases hready with ⟨rfl, hnone⟩ | ⟨i, rfl, hreturned⟩
    · cases h with
      | returned hreturned => exact hover hreturned
      | joining hjoin =>
        rw [hstate]
        exact .joining (State.mem_closes_enterClosing hcall hjoin (by simp) _ _)
      | left hsome hasked => exact absurd hnone hsome
    · exact hover (hsole.eq_singleton hreturned).2
  | @answered k c r hcall hstate hes =>
    have hkeep {d : Call} (hd : d ∈ s.closes) (hne : d ≠ .closing c) : d ∈ s'.closes := by
      rw [hstate]
      exact State.mem_closes_enterClosing hcall hd hne _ _
    cases h with
    | returned hreturned => exact hover hreturned
    | joining hjoin => exact .joining (hkeep hjoin (by simp))
    | left hsome hasked =>
      refine .left ?_ fun h => hkeep (hasked h) (by simp)
      obtain ⟨calls, hcalls, -⟩ := s.enterClosing_state k (c.answer r).events (c.answer r).value
      rw [hstate, hcalls]
      exact hsome
  | none hcalls hhandle hes =>
    cases h with
    | returned hreturned => exact hover hreturned
    | joining hjoin => exact .joining (hcalls.mem_iff.mpr hjoin)
    | left hsome hasked => exact .left (hhandle (.inl hsome)) fun h => hcalls.mem_iff.mpr (hasked h)

theorem State.Goes.handle_of_started {s s' : State} {a : Action} {es : List Effect}
    (hgoes : Goes setup s a s' es) (hstarted : .returned .started ∈ es) : s'.handle ≠ .none := by
  cases hgoes.closeStep with
  | asked ha hcalls hhandle hes => simp [hes] at hstarted
  | taken hcall hcalls hes => simp [hes] at hstarted
  | entered hcall hready hstate hes => cases isOfRelease_of_mem_enterClosing (hes ▸ hstarted)
  | answered hcall hstate hes => cases isOfRelease_of_mem_enterClosing (hes ▸ hstarted)
  | none hcalls hhandle hes => exact hhandle (.inr hstarted)

theorem awaited_of_started {now : Instant} {as : List Action} {s : State} {es : List Effect}
    (hrun : run setup (State.new now) as = some (s, es)) (hstarted : .returned .started ∈ es) :
    s.Awaited False := by
  have hkept := reached_effects_induction
    (P := fun s past => .returned .started ∈ past → s.Awaited False) (by simp) ?_ hrun
  · exact hkept.1 hstarted
  · intro s s' past es a hsole ih hgoes hstarted
    rcases List.mem_append.mp hstarted with hpast | hnow
    · exact (ih hpast).step hsole hgoes
    · exact .left (hgoes.handle_of_started hnow) False.elim

/-- A discoverer without calls that was closed after a start had come back has no supervisor left. -/
theorem returned_of_closed {now : Instant} {before after : List Action} {s₀ s : State}
    {es₀ es : List Effect} (hbefore : run setup (State.new now) before = some (s₀, es₀))
    (hstarted : .returned .started ∈ es₀) (hafter : run setup s₀ (.close :: after) = some (s, es))
    (hcalls : s.calls = []) : s.supervisors = [.returned] := by
  have hsole₀ : s₀.IsSole := isSole_of_reaches ⟨now, before, hbefore⟩
  obtain ⟨s₁, es₁, es₂, hclose, hrest, rfl⟩ := run_cons_eq_some_iff.mp hafter
  have hgoes := State.goes_of_step hclose
  have hasked : s₁.Awaited True := by
    have hstopping : .stopping ∈ s₁.closes := by
      cases hgoes with
      | close hheld => exact List.mem_filter.mpr ⟨by simp, rfl⟩
    cases (awaited_of_started hbefore hstarted).step hsole₀ hgoes with
    | returned hover => exact .returned hover
    | joining hcall => exact .joining hcall
    | left hhandle _ => exact .left hhandle fun _ => hstopping
  have hkept : s.Awaited True ∧ s.IsSole :=
    run_state_induction (A := fun _ => True) (P := fun s => s.Awaited True ∧ s.IsSole)
      (fun h _ hgoes => ⟨h.1.step h.2 hgoes, h.2.step hgoes⟩) (by simp) hrest
      ⟨hasked, hsole₀.step hgoes⟩
  have hnone : s.closes = [] := by rw [State.closes, hcalls]; rfl
  cases hkept.1 with
  | returned hover => exact hover
  | joining hcall => simp [hnone] at hcall
  | left _ hasked => simpa [hnone] using hasked trivial

/-- **A dropped discoverer ends its mailboxes when its supervisor has returned, and only then.**  While
no cycle is under way, a mailbox that its reader still holds ends just if no supervisor is left at work.
That is so when the discoverer was never started, and when a close was made after a start had come
back.  One that was started and never closed is not stopped by being dropped: whoever waits at one of
its mailboxes waits on, however it goes on, and the mailbox can still be written. -/
theorem dropped_mailboxes_end_iff_returned {now : Instant} {as : List Action} {s : State}
    {es : List Effect} {i : Nat} {b : Box} (hrun : run setup (State.new now) as = some (s, es))
    (hheld : s.held = false) (hrests : s.Rests) (hbox : s.shared.registry.box? i = some b) :
    (s.Ends setup i ↔ ∀ v ∈ s.supervisors, v = .returned) ∧
      ((∀ a ∈ as, a ≠ .start) → s.Ends setup i) ∧
      (∀ before after s₀ es₀, as = before ++ .close :: after →
        run setup (State.new now) before = some (s₀, es₀) → .returned .started ∈ es₀ →
        s.Ends setup i) ∧
      (.start ∈ as → (∀ a ∈ as, a ≠ .close) → s.WaitsOn setup i ∧ s.CanWrite setup i) := by
  have hsole : s.IsSole := isSole_of_reaches ⟨now, as, hrun⟩
  have hdropped : s.Dropped := dropped_of_reaches ⟨now, as, hrun⟩ hheld
  have hends (hover : ∀ v ∈ s.supervisors, v = .returned) : s.Ends setup i :=
    State.Over.ends ⟨hdropped, hrests.strays, hover⟩ i
  have hspawned := (startsStand_of_run hrun).spawned
  refine ⟨⟨fun h => h.returned hbox, hends⟩, ?_, ?_, ?_⟩
  · intro hnone
    have hcount : as.countP Action.isStart = 0 := by
      rw [List.countP_eq_zero]
      rintro a ha hstart
      cases a with
      | start => exact hnone _ ha rfl
      | _ => cases hstart
    have hnil : s.supervisors = [] := List.eq_nil_of_length_eq_zero (by omega)
    exact hends (by simp [hnil])
  · rintro before after s₀ es₀ rfl hbefore hstarted
    obtain ⟨s₁, es₁, es₂, hsame, hafter, -⟩ := run_append_eq_some_iff.mp hrun
    cases hbefore.symm.trans hsame
    have hover := returned_of_closed hbefore hstarted hafter hdropped.calls
    exact hends (by simp [hover])
  · intro hstart hopen
    have hpos : 0 < as.countP Action.isStart := List.countP_pos_iff.mpr ⟨_, hstart, rfl⟩
    have hunspawned : s.unspawned = 0 := by simp [State.unspawned, hdropped.calls]
    have hlength : s.supervisors.length = 1 := by omega
    have hclosed : s.shared.closed = false := closed_of_run hrun hopen
    have htends := tends_of_run hrun hclosed
    refine ⟨hdropped.waitsOn hsole hclosed hlength htends i, ?_⟩
    obtain ⟨v, hv⟩ := List.length_eq_one_iff.mp hlength
    have hi : i < s.shared.registry.size := by
      obtain ⟨hget, -⟩ := Option.filter_eq_some_iff.mp hbox
      exact (List.getElem?_eq_some_iff.mp hget).1
    exact State.canWrite_of_tends hv (htends v (by simp [hv])) (hrests.idle v (by simp [hv])) hi

/-- A run up to a point where the control loop sleeps and a mailbox has been read. -/
def untilRead : List Action :=
  [.subscribe, .proceed 0] ++ untilFirstCycle ++ loadedCycle ++
    [loopStep .deposit, loopStep .report, loopStep .refresh] ++ loadedCycle ++
    [loopStep .deposit, loopStep .report, loopStep .park, .read 0]

/-- A close of the discoverer after that, and the drop. -/
def closedAndDropped : List Action :=
  [.close, .proceed 0, loopStep .stop, .supervise 0 .observe, .proceed 0, .sourceClosed 0 (.ok ()),
    .drop]

theorem closedAndDropped_ends :
    ∃ s es b, run oneSource (State.new 0) (untilRead ++ closedAndDropped) = some (s, es) ∧
      s.held = false ∧ s.Rests ∧ s.shared.registry.box? 0 = some b ∧ b.unread = none ∧
      s.Ends oneSource 0 ∧ (b.receive s.isWritable).1 = .ended := by
  have hend : (run oneSource (State.new 0) untilRead).bind (fun r₀ =>
      (run oneSource r₀.1 closedAndDropped).map fun r =>
        (r₀.2.contains (.returned .started), r.1.held, r.1.supervisors, r.1.strays.isEmpty,
          (r.1.shared.registry.box? 0).map (·.unread.isNone))) =
      some (true, false, [.returned], true, some true) := by decide +kernel
  obtain ⟨⟨s₀, es₀⟩, hbefore, hend⟩ := Option.bind_eq_some_iff.mp hend
  obtain ⟨⟨s, es⟩, hafter, hend⟩ := Option.map_eq_some_iff.mp hend
  simp only [Prod.mk.injEq, List.contains_iff_mem, Option.map_eq_some_iff, List.isEmpty_iff,
    Option.isNone_iff_eq_none] at hend
  obtain ⟨hstarted, hheld, hover, hstrays, b, hbox, hunread⟩ := hend
  have hrun := run_append_eq_some_iff.mpr ⟨s₀, es₀, es, hbefore, hafter, rfl⟩
  have hrests : s.Rests := ⟨hstrays, by simp [hover, Supervisor.InCycle]⟩
  obtain ⟨-, -, hclosed, -⟩ := dropped_mailboxes_end_iff_returned hrun hheld hrests hbox
  have hends := hclosed untilRead _ s₀ es₀ rfl hbefore hstarted
  exact ⟨s, _, b, hrun, hheld, hrests, hbox, hunread, hends, (hends [] s [] rfl).2 b hbox hunread⟩

/-- **A discoverer that is dropped while its control loop sleeps keeps its mailboxes**: with nothing
unread its reader waits, and the next tick leads to another snapshot. -/
theorem dropped_running_is_written :
    ∃ s es b s' es', run oneSource (State.new 0) (untilRead ++ [.drop]) = some (s, es) ∧
      s.held = false ∧ s.Rests ∧ s.shared.registry.box? 0 = some b ∧ b.unread = none ∧
      (b.receive s.isWritable).1 = .pending ∧
      run oneSource s ([.elapse 10, loopStep .tick] ++ loadedCycle ++ [loopStep .deposit]) =
        some (s', es') ∧
      .deposited 0 [] ∈ es' ∧ ¬ s.Ends oneSource 0 := by
  have hend : (run oneSource (State.new 0) (untilRead ++ [.drop])).bind (fun r =>
      (run oneSource r.1 ([.elapse 10, loopStep .tick] ++ loadedCycle ++ [loopStep .deposit])).map
        fun r' => (r.1.held, r.1.supervisors, r.1.strays.isEmpty,
          (r.1.shared.registry.box? 0).map (·.unread.isNone), r'.2.contains (.deposited 0 []))) =
      some (false, [.watching (.parked 10 false)], true, some true, true) := by decide +kernel
  obtain ⟨⟨s, es⟩, hrun, hend⟩ := Option.bind_eq_some_iff.mp hend
  obtain ⟨⟨s', es'⟩, hrest, hend⟩ := Option.map_eq_some_iff.mp hend
  simp only [Prod.mk.injEq, List.contains_iff_mem, Option.map_eq_some_iff, List.isEmpty_iff,
    Option.isNone_iff_eq_none] at hend
  obtain ⟨hheld, hparked, hstrays, ⟨b, hbox, hunread⟩, hwritten⟩ := hend
  have hwaits := State.receive_of_supervisor (s := s) (by rw [hparked]; exact .head _)
    (by simp) hunread
  have hrests : s.Rests := ⟨hstrays, by simp [hparked, Supervisor.InCycle]⟩
  refine ⟨s, es, b, s', es', hrun, hheld, hrests, hbox, hunread, hwaits, hrest, hwritten, ?_⟩
  intro hends
  exact (hends _ s' es' hrest).1 [] hwritten

end ClusterTopology.Discoverer
