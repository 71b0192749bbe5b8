import ClusterTopology.Proofs.Discoverer.Subscribers
import ClusterTopology.Proofs.Discoverer.Unread
/-!
Closing a discoverer that has been started.

A close stops the cycles, waits for the supervisor and then releases the sources.  It can find the
control loop anywhere, and a loop that could stop may go on with something else that is ready, so
further cycles and publications may come while the close waits.  What ends that is the handle of the
supervisor: a start that has come back has left it, so a close that comes back has seen the
supervisor return, and no other supervisor can ever be spawned.

`CloseStands` follows the close through its places.  After it only clients move mailboxes.

The close has been made, or it waits for the supervisor, or it tells the sources one after the other, or it
has come back.  A step of anything else leaves the place alone, and a step of the close goes on to the next
one, which is `CloseStands.step`.  Effects are sorted by whose they are, so the sources that have been told
are exactly the first ones in their order.  Once the supervisor has returned, `Goes.after_returned` says
that nothing is written any more, and by `run_after_returned` what is unread stays there for its reader, to
be found once.
-/

namespace ClusterTopology

/-- Whether an effect is one of a close: a source is told to release what it holds, or the close comes
back. -/
def Effect.isOfClose : Effect → Bool
  | .closed _ | .returned (.closed _) => true
  | _ => false

/-- The first `n` sources told to release what they hold, in order. -/
def Effect.releases (n : Nat) : List Effect := (List.range n).map .closed

theorem Effect.releases_succ (n : Nat) : releases (n + 1) = releases n ++ [.closed n] := by
  simp [releases, List.range_succ]

/-- What a close does at a stage of the closing of the sources. -/
def Closing.Stage.told : Closing.Stage → Effect
  | .closing c => .closed c.position
  | .ended failure => .returned (.closed failure)

theorem Closing.answer_value (c : Closing) (r : Except TopologyError Unit) :
    ∃ failure, (c.answer r).value = Closing.next failure (c.position + 1) c.rest := by
  cases r with
  | ok u => exact ⟨_, rfl⟩
  | error e => exact ⟨_, rfl⟩

namespace Discoverer

variable {setup : Setup}

theorem not_isOfClose_of_isOfTask {e : Effect} (he : isOfTask e = true) : e.isOfClose = false := by
  cases e <;> first | rfl | cases he

theorem filter_isOfClose_of_tasks {es : List Effect} (hes : ∀ e ∈ es, isOfTask e = true) :
    es.filter Effect.isOfClose = [] := by
  rw [List.filter_eq_nil_iff]
  intro e he
  rw [not_isOfClose_of_isOfTask (hes e he)]
  exact Bool.false_ne_true

/-! ### The closes among the calls -/

def Call.isClose : Call → Bool
  | .stopping | .joining _ | .closing _ => true
  | _ => false

def State.closes (s : State) : List Call := s.calls.filter Call.isClose

theorem filter_eraseIdx_perm {calls : List Call} {k : Nat} {c : Call} (hcall : calls[k]? = some c) :
    (calls.filter Call.isClose).Perm ((c :: calls.eraseIdx k).filter Call.isClose) := by
  obtain ⟨hk, rfl⟩ := List.getElem?_eq_some_iff.mp hcall
  exact ((List.getElem_cons_eraseIdx_perm hk).symm).filter _

theorem filter_set_perm {calls : List Call} {k : Nat} {c : Call} (hcall : calls[k]? = some c)
    (c' : Call) :
    ((calls.set k c').filter Call.isClose).Perm ((c' :: calls.eraseIdx k).filter Call.isClose) := by
  obtain ⟨hk, -⟩ := List.getElem?_eq_some_iff.mp hcall
  exact (List.set_perm_cons_eraseIdx hk c').filter _

/-- Where there is one close, it is the one that moves, and what it becomes is the only one after
that. -/
theorem sole_close {calls : List Call} {k : Nat} {c d : Call}
    (hone : calls.filter Call.isClose = [d]) (hcall : calls[k]? = some c) (hc : c.isClose = true) :
    c = d ∧ (calls.eraseIdx k).filter Call.isClose = [] ∧
      ∀ c', c'.isClose = true → (calls.set k c').filter Call.isClose = [c'] := by
  have hperm := filter_eraseIdx_perm hcall
  rw [hone, List.filter_cons_of_pos hc] at hperm
  obtain ⟨rfl, hrest⟩ := List.cons.inj (List.singleton_perm.mp hperm)
  refine ⟨rfl, hrest.symm, ?_⟩
  intro c' hc'
  have hset := filter_set_perm hcall c'
  rw [List.filter_cons_of_pos hc', ← hrest] at hset
  exact List.perm_singleton.mp hset

namespace State

/-- A step is one of a close, or leaves closes alone. -/
inductive CloseStep (setup : Setup) (s : State) (a : Action) (s' : State) (es : List Effect) :
    Prop where
  | asked (ha : a = .close) (hcalls : s'.calls = s.calls ++ [.stopping])
      (hhandle : s'.handle = s.handle) (hes : es = [])
  | taken {k i : Nat} (hcall : s.calls[k]? = some .stopping)
      (hcalls : s'.calls = s.calls.set k (.joining i)) (hes : es = [])
  | entered {k : Nat} {c : Call} (hcall : s.calls[k]? = some c)
      (hready : c = .stopping ∧ s.handle = none ∨
        ∃ i, c = .joining i ∧ s.supervisors[i]? = some .returned)
      (hstate : s' = (s.enterClosing k [] (Closing.start setup.sources)).1)
      (hes : es = (s.enterClosing k [] (Closing.start setup.sources)).2)
  | answered {k : Nat} {c : Closing} {r : Except TopologyError Unit}
      (hcall : s.calls[k]? = some (.closing c))
      (hstate : s' = (s.enterClosing k (c.answer r).events (c.answer r).value).1)
      (hes : es = (s.enterClosing k (c.answer r).events (c.answer r).value).2)
  | none (hcalls : s'.closes.Perm s.closes)
      (hhandle : s.handle ≠ none ∨ .returned .started ∈ es → s'.handle ≠ none)
      (hes : es.filter Effect.isOfClose = [])

theorem Goes.closeStep {s s' : State} {a : Action} {es : List Effect} (hgoes : Goes setup s a s' es) :
    CloseStep setup s a s' es := by
  have hkeep {s' : State} {es : List Effect} (hcalls : s'.calls = s.calls)
      (hhandle : s'.handle = s.handle) (hes : ∀ e ∈ es, isOfTask e = true) :
      CloseStep setup s a s' es := by
    refine .none (by rw [closes, hcalls]; rfl) ?_ (filter_isOfClose_of_tasks hes)
    rintro (hsome | hstarted)
    · rw [hhandle]
      exact hsome
    · cases hes _ hstarted
  cases hgoes with
  | elapse d => exact hkeep rfl rfl (by simp)
  | subscribe _ =>
    refine .none ?_ (by simp) rfl
    simp [closes, Call.isClose]
  | startAgain _ _ => exact .none (.refl _) (by simp) rfl
  | start _ _ =>
    refine .none ?_ (by simp) rfl
    simp [closes, Call.isClose]
  | close _ => exact .asked rfl rfl rfl rfl
  | drop _ _ => exact hkeep rfl rfl (by simp)
  | subscribed hcall =>
    refine .none ?_ ?_ rfl
    · simpa [closes, finish, Call.isClose] using (filter_eraseIdx_perm hcall).symm
    · rintro (hsome | hstarted)
      · simp only [finish, notify]
        split <;> exact hsome
      · simp at hstarted
  | spawned hcall =>
    refine .none ?_ (by simp) rfl
    have hset := filter_set_perm hcall (.leaving s.supervisors.length)
    have herase := (filter_eraseIdx_perm hcall).symm
    simpa [closes, Call.isClose] using hset.trans herase
  | left hcall =>
    refine .none ?_ (by simp) rfl
    simpa [closes, Call.isClose] using (filter_eraseIdx_perm hcall).symm
  | taken hcall _ => exact .taken hcall rfl rfl
  | unsupervised hcall hhandle => exact .entered hcall (.inl ⟨rfl, hhandle⟩) rfl rfl
  | joined hcall hreturned => exact .entered hcall (.inr ⟨_, rfl, hreturned⟩) rfl rfl
  | sourceClosed r hcall => exact .answered hcall rfl rfl
  | supervise _ hgoes => exact hkeep rfl rfl fun _ => hgoes.isOfTask_of_mem
  | stray _ hgoes =>
    exact hkeep rfl rfl fun _ he => isOfTask_of_isOfWorker (hgoes.isOfWorker_of_mem he)
  | discard _ => exact hkeep rfl rfl (by simp)
  | read _ => exact .none (.refl _) (by simp) rfl
  | giveUp _ => exact hkeep rfl rfl (by simp)

/-! ### After the supervisor has returned -/

/-- **A supervisor that has returned is the last one, and nothing is written any more.** -/
theorem Goes.after_returned {s s' : State} {a : Action} {es : List Effect} (hsole : s.IsSole)
    (hover : s.supervisors = [.returned]) (hgoes : Goes setup s a s' es) :
    s'.supervisors = [.returned] ∧ (∀ i x, .deposited i x ∉ es) ∧
      ∀ i, s'.shared.registry.written i = s.shared.registry.written i := by
  have hclosing : ∀ k events stage, (s.enterClosing k events stage).1.supervisors = [.returned] ∧
      (∀ i x, .deposited i x ∉ (s.enterClosing k events stage).2) ∧
      ∀ i, (s.enterClosing k events stage).1.shared.registry.written i =
        s.shared.registry.written i := by
    intro k events stage
    refine ⟨by rw [enterClosing_supervisors, hover], ?_, ?_⟩
    · intro i x hmem
      cases isOfRelease_of_mem_enterClosing hmem
    · intro i
      rw [enterClosing_shared]
  cases hgoes with
  | elapse d => exact ⟨hover, by simp, fun _ => rfl⟩
  | subscribe _ => exact ⟨hover, by simp, by simp⟩
  | startAgain _ _ => exact ⟨hover, by simp, fun _ => rfl⟩
  | start _ _ => exact ⟨hover, by simp, fun _ => rfl⟩
  | close _ => exact ⟨hover, by simp, fun _ => rfl⟩
  | drop _ _ => exact ⟨hover, by simp, fun _ => rfl⟩
  | subscribed _ =>
    have hnotify : s.notify = { s with shared := { s.shared with permit := true } } := by
      simp [notify, hover, Supervisor.wakeFirst?, Supervisor.woken?]
    exact ⟨by simp [finish, hnotify, hover], by simp, by simp [finish]⟩
  | spawned hcall =>
    obtain ⟨hnil, -⟩ := hsole.nil_of_starting hcall
    simp [hnil] at hover
  | left _ => exact ⟨hover, by simp, fun _ => rfl⟩
  | taken _ _ => exact ⟨hover, by simp, fun _ => rfl⟩
  | unsupervised _ _ => exact hclosing _ _ _
  | joined _ _ => exact hclosing _ _ _
  | sourceClosed _ _ => exact hclosing _ _ _
  | supervise hv hgoes =>
    obtain ⟨-, hone⟩ := hsole.eq_singleton hv
    obtain rfl : _ = Supervisor.returned := by simpa [hone] using hover
    cases hgoes
  | stray _ hgoes =>
    obtain ⟨⟨current, hshared⟩, -, -⟩ := hgoes.frame
    refine ⟨hover, ?_, by simp [hshared]⟩
    intro i x hmem
    cases hgoes.isOfWorker_of_mem hmem
  | discard _ => exact ⟨hover, by simp, fun _ => rfl⟩
  | read hb => exact ⟨hover, by simp, fun i => Registry.written_set_look hb i⟩
  | giveUp _ => exact ⟨hover, by simp, by simp⟩

end State

/-! ### The one close -/

/-- How far the one close of a discoverer over `n` sources has come, by what it has done. -/
inductive CloseStands (n : Nat) (s : State) (done : List Effect) : Prop where
  | stopping (hone : s.closes = [.stopping]) (hhandle : s.handle ≠ none) (hdone : done = [])
  | joining {i : Nat} (hone : s.closes = [.joining i]) (hdone : done = [])
  | closing {c : Closing} (hone : s.closes = [.closing c]) (hover : s.supervisors = [.returned])
      (hrest : c.position + 1 + c.rest.length = n) (hdone : done = Effect.releases (c.position + 1))
  | returned {failure : Option TopologyError} (hnone : s.closes = [])
      (hover : s.supervisors = [.returned])
      (hdone : done = Effect.releases n ++ [.returned (.closed failure)])

theorem State.filter_isOfClose_enterClosing (s : State) (k : Nat) (events : List Event)
    (stage : Closing.Stage) :
    (s.enterClosing k events stage).2.filter Effect.isOfClose = [stage.told] := by
  have hevents : ∀ events, (Effect.ofEvents events).filter Effect.isOfClose = [] := by
    intro events
    apply filter_isOfClose_of_tasks
    intro e he
    exact isOfTask_of_isOfWorker (isOfWorker_of_mem_ofEvents he)
  match stage with
  | .closing c => simp [enterClosing, hevents, Effect.isOfClose, Closing.Stage.told]
  | .ended none => simp [enterClosing, finish, hevents, Effect.isOfClose, Closing.Stage.told]
  | .ended (some e) => simp [enterClosing, finish, hevents, Effect.isOfClose, Closing.Stage.told]

/-- A close that has released the first sources goes on with those that are left. -/
theorem closeStands_enter {s : State} {k : Nat} {c d : Call} (hone : s.closes = [d])
    (hcall : s.calls[k]? = some c) (hc : c.isClose = true) (hover : s.supervisors = [.returned])
    (events : List Event) (failure : Option TopologyError) (position : Nat) (names : List String) :
    CloseStands (position + names.length)
      (s.enterClosing k events (Closing.next failure position names)).1
      (Effect.releases position ++ (s.enterClosing k events
        (Closing.next failure position names)).2.filter Effect.isOfClose) := by
  obtain ⟨-, hnone, hset⟩ := sole_close hone hcall hc
  rw [State.filter_isOfClose_enterClosing]
  cases names with
  | nil =>
    refine .returned ?_ ?_ rfl
    · cases failure <;> exact hnone
    · rw [State.enterClosing_supervisors, hover]
  | cons name rest =>
    refine .closing (c := ⟨failure, position, name, rest⟩) (hset _ rfl) ?_ ?_ ?_
    · rw [State.enterClosing_supervisors, hover]
    · simp only [List.length_cons]
      omega
    · rw [Effect.releases_succ]
      rfl

theorem State.closes_ne_nil {s : State} {k : Nat} {c : Call} (hcall : s.calls[k]? = some c)
    (hc : c.isClose = true) : s.closes ≠ [] :=
  List.ne_nil_of_mem (List.mem_filter.mpr ⟨List.mem_of_getElem? hcall, hc⟩)

/-- **The close goes on through its places, whatever else happens.** -/
theorem CloseStands.step {s s' : State} {a : Action} {es done : List Effect} (hsole : s.IsSole)
    (h : CloseStands setup.sources.length s done) (ha : a ≠ .close)
    (hgoes : State.Goes setup s a s' es) :
    CloseStands setup.sources.length s' (done ++ es.filter Effect.isOfClose) := by
  cases hgoes.closeStep with
  | asked hclose hcalls hhandle hes => exact absurd hclose ha
  | @taken k i hcall hcalls hes =>
    cases h with
    | stopping hone hhandle hdone =>
      obtain ⟨-, -, hset⟩ := sole_close hone hcall rfl
      refine .joining (i := i) ?_ (by simp [hdone, hes])
      rw [State.closes, hcalls]
      exact hset _ rfl
    | joining hone hdone => cases (sole_close hone hcall rfl).1
    | closing hone hover hrest hdone => cases (sole_close hone hcall rfl).1
    | returned hnone hover hdone => exact absurd hnone (State.closes_ne_nil hcall rfl)
  | entered hcall hready hstate hes =>
    cases h with
    | stopping hone hhandle hdone =>
      rcases hready with ⟨-, hnone⟩ | ⟨i, rfl, -⟩
      · exact absurd hnone hhandle
      · cases (sole_close hone hcall rfl).1
    | joining hone hdone =>
      rcases hready with ⟨rfl, -⟩ | ⟨i, rfl, hreturned⟩
      · cases (sole_close hone hcall rfl).1
      · -- the supervisor that has returned is the only one there is
        have hover : s.supervisors = [.returned] := (hsole.eq_singleton hreturned).2
        have hentered := closeStands_enter hone hcall rfl hover [] none 0 setup.sources
        rw [hstate, hes, hdone]
        simpa [Closing.start, Effect.releases] using hentered
    | closing hone hover hrest hdone =>
      rcases hready with ⟨rfl, -⟩ | ⟨i, rfl, -⟩
      · cases (sole_close hone hcall rfl).1
      · cases (sole_close hone hcall rfl).1
    | returned hnone hover hdone =>
      rcases hready with ⟨rfl, -⟩ | ⟨i, rfl, -⟩
      · exact absurd hnone (State.closes_ne_nil hcall rfl)
      · exact absurd hnone (State.closes_ne_nil hcall rfl)
  | @answered k c r hcall hstate hes =>
    cases h with
    | stopping hone hhandle hdone => cases (sole_close hone hcall rfl).1
    | joining hone hdone => cases (sole_close hone hcall rfl).1
    | closing hone hover hrest hdone =>
      cases (sole_close hone hcall rfl).1
      obtain ⟨failure, hvalue⟩ := Closing.answer_value c r
      have hentered := closeStands_enter hone hcall rfl hover (c.answer r).events failure
        (c.position + 1) c.rest
      rw [← hvalue, hrest] at hentered
      rw [hstate, hes, hdone]
      exact hentered
    | returned hnone hover hdone => exact absurd hnone (State.closes_ne_nil hcall rfl)
  | none hcalls hhandle hes =>
    rw [hes, List.append_nil]
    cases h with
    | stopping hone hhandle' hdone =>
      exact .stopping (List.perm_singleton.mp (hone ▸ hcalls)) (hhandle (.inl hhandle')) hdone
    | joining hone hdone => exact .joining (List.perm_singleton.mp (hone ▸ hcalls)) hdone
    | closing hone hover hrest hdone =>
      exact .closing (List.perm_singleton.mp (hone ▸ hcalls)) (hgoes.after_returned hsole hover).1
        hrest hdone
    | returned hnone hover hdone =>
      exact .returned (List.perm_nil.mp (hnone ▸ hcalls)) (hgoes.after_returned hsole hover).1 hdone

structure State.Unclosed (s : State) (past : List Effect) : Prop where
  none : s.closes = []
  quiet : past.filter Effect.isOfClose = []
  handle : .returned .started ∈ past → s.handle ≠ .none

theorem State.Unclosed.step {s s' : State} {a : Action} {past es : List Effect}
    (h : s.Unclosed past) (ha : a ≠ .close) (hgoes : State.Goes setup s a s' es) :
    s'.Unclosed (past ++ es) := by
  cases hgoes.closeStep with
  | asked hclose hcalls hhandle hes => exact absurd hclose ha
  | taken hcall hcalls hes => exact absurd h.none (closes_ne_nil hcall rfl)
  | entered hcall hready hstate hes =>
    rcases hready with ⟨rfl, -⟩ | ⟨i, rfl, -⟩
    · exact absurd h.none (closes_ne_nil hcall rfl)
    · exact absurd h.none (closes_ne_nil hcall rfl)
  | answered hcall hstate hes => exact absurd h.none (closes_ne_nil hcall rfl)
  | none hcalls hhandle hes =>
    refine ⟨List.perm_nil.mp (h.none ▸ hcalls), by simp [h.quiet, hes], ?_⟩
    intro hstarted
    rcases List.mem_append.mp hstarted with hpast | hnow
    · exact hhandle (.inl (h.handle hpast))
    · exact hhandle (.inr hnow)

theorem State.unclosed_new (now : Instant) : (State.new now).Unclosed [] := by
  refine ⟨rfl, rfl, ?_⟩
  intro h
  cases h

/-! ### Whole runs -/

/-- Nothing is written in a run after the supervisor has returned. -/
theorem run_after_returned {as : List Action} {s s' : State} {es : List Effect} (hsole : s.IsSole)
    (hover : s.supervisors = [.returned]) (hrun : run setup s as = some (s', es)) :
    s'.supervisors = [.returned] ∧ (∀ i x, .deposited i x ∉ es) ∧
      ∀ i, s'.shared.registry.written i = s.shared.registry.written i := by
  induction as generalizing s es with
  | nil =>
    cases hrun
    exact ⟨hover, by simp, fun _ => rfl⟩
  | cons a as ih =>
    obtain ⟨s₁, es₁, es₂, hfirst, hrest, rfl⟩ := run_cons_eq_some_iff.mp hrun
    have hgoes := State.goes_of_step hfirst
    obtain ⟨hover₁, hnone₁, hwritten₁⟩ := hgoes.after_returned hsole hover
    obtain ⟨hover₂, hnone₂, hwritten₂⟩ := ih (hsole.step hgoes) hover₁ hrest
    refine ⟨hover₂, ?_, ?_⟩
    · intro i x hmem
      rcases List.mem_append.mp hmem with hmem | hmem
      · exact hnone₁ i x hmem
      · exact hnone₂ i x hmem
    · intro i
      rw [hwritten₂, hwritten₁]

/-- A reader that holds a mailbox finds in it what is unread. -/
theorem step_read {s : State} {i : Nat} {b : Box} (hb : s.shared.registry.boxes[i]? = some b)
    (hheld : b.held = true) :
    ∃ s', s.step setup (.read i) = some (s', [.received i b.unread]) := by
  have hbox : s.shared.registry.box? i = some b := Option.filter_eq_some_iff.mpr ⟨hb, hheld⟩
  exact ⟨_, by simp [State.step, Registry.tryReceive?, hbox, Box.tryReceive]; rfl⟩

/-- **When a close comes back, all is over.**  A start has come back before the close is made, and there
is one close.  Wherever it finds the control loop, and whatever is ready or called meanwhile: when it
has come back, well or with an error, the supervisor has returned and with it the control loop,
and every source has been told once, in order, to release what it holds.  Whatever follows, no
mailbox is written any more, and a mailbox handed out before yields what is unread in it once and
then nothing. -/
theorem nothing_is_written_after_close {now : Instant} {before during after : List Action}
    {s₀ s s' : State} {es₀ es es' : List Effect} {failure : Option TopologyError}
    (hbefore : run setup (State.new now) before = some (s₀, es₀))
    (hfirst : ∀ a ∈ before, a ≠ .close) (hstarted : .returned .started ∈ es₀)
    (hduring : run setup s₀ (.close :: during) = some (s, es))
    (honly : ∀ a ∈ during, a ≠ .close) (hreturned : .returned (.closed failure) ∈ es)
    (hafter : run setup s after = some (s', es')) :
    s.supervisors = [.returned] ∧ s'.supervisors = [.returned] ∧
      (es₀ ++ es).filter Effect.isOfClose =
        (List.range setup.sources.length).map .closed ++ [.returned (.closed failure)] ∧
      (∀ i x, .deposited i x ∉ es') ∧
      (∀ i, s'.shared.registry.written i = s.shared.registry.written i) ∧
      ∀ i b, s.shared.registry.boxes[i]? = some b →
        (Effect.looks i es' = [] ∨ ∃ n, Effect.looks i es' = b.unread :: List.replicate n none) ∧
        ∃ b', s'.shared.registry.boxes[i]? = some b' ∧
          b'.unread = (if Effect.looks i es' = [] then b.unread else none) ∧
          (b'.held = true → ∃ s'', s'.step setup (.read i) = some (s'', [.received i b'.unread])) := by
  have hsole₀ : s₀.IsSole := isSole_of_reaches ⟨now, before, hbefore⟩
  have hunclosed : s₀.Unclosed es₀ := by
    have hkept := run_actions_induction (P := State.Unclosed) (A := (· ≠ .close))
      (fun h ha hgoes => h.step ha hgoes) hfirst hbefore (State.unclosed_new now)
    simpa using hkept
  -- the close begins with the handle there, and goes on from place to place
  obtain ⟨s₁, es₁, es₂, hasked, hrest, rfl⟩ := run_cons_eq_some_iff.mp hduring
  have hgoes₁ := State.goes_of_step hasked
  have hbegun : CloseStands setup.sources.length s₁ (es₁.filter Effect.isOfClose) := by
    cases hgoes₁ with
    | close hheld =>
      refine .stopping ?_ (hunclosed.handle hstarted) rfl
      have hnone := hunclosed.none
      rw [State.closes] at hnone ⊢
      simp [hnone, Call.isClose]
  have hstands : CloseStands setup.sources.length s ((es₁ ++ es₂).filter Effect.isOfClose) ∧
      s.IsSole := by
    refine run_actions_induction (A := (· ≠ .close))
      (P := fun s past => CloseStands setup.sources.length s (past.filter Effect.isOfClose) ∧
        s.IsSole) ?_ honly hrest ⟨hbegun, hsole₀.step hgoes₁⟩
    intro s s' past es a h ha hgoes
    rw [List.filter_append]
    exact ⟨h.1.step h.2 ha hgoes, h.2.step hgoes⟩
  have hmem : .returned (.closed failure) ∈ (es₁ ++ es₂).filter Effect.isOfClose :=
    List.mem_filter.mpr ⟨hreturned, rfl⟩
  cases hstands.1 with
  | stopping hone hhandle hdone => simp [hdone] at hmem
  | joining hone hdone => simp [hdone] at hmem
  | closing hone hover hrest hdone => simp [hdone, Effect.releases] at hmem
  | @returned failure' hnone hover hdone =>
    obtain rfl : failure = failure' := by simpa [hdone, Effect.releases] using hmem
    obtain ⟨hover', hunwritten, hwritten⟩ := run_after_returned hstands.2 hover hafter
    refine ⟨hover, hover', ?_, hunwritten, hwritten, ?_⟩
    · rw [List.filter_append, hunclosed.quiet, hdone]
      rfl
    · intro i b hb
      obtain ⟨b', hb', hbox⟩ := box_after_run hafter hb (hunwritten i)
      exact ⟨hbox.found, b', hb', hbox.unread, step_read hb'⟩

/-- A run up to a point where the control loop could take a tick or a request: a mailbox holds the first
snapshot unread, and another one has just been handed out. -/
def untilTickAndRequest : List Action :=
  [.subscribe, .proceed 0] ++ untilFirstCycle ++ loadedCycle ++
    [loopStep .deposit, loopStep .report, .elapse 10, .subscribe, .proceed 0]

/-- A close after that.  The loop takes the request first, and is stopped when the worker of the new
cycle has stored its result; the source fails to release what it holds. -/
def closedInCycle : List Action :=
  [loopStep .refresh, loopStep (.work .begin), .proceed 0, loopStep (.work (.answer (.loaded []))),
    loopStep (.work .store), loopStep .abandon, .supervise 0 .observe, .proceed 0,
    .sourceClosed 0 (.error (.closed "pd"))]

/-- A subscription after the close, and looks into the mailbox that was not read before. -/
def looksAfterClose : List Action :=
  [.subscribe, .read 0, .proceed 0, .read 0, .read 0]

theorem closedInCycle_ends_all :
    ∃ s₀ es₀ s es s' es',
      run oneSource (State.new 0) untilTickAndRequest = some (s₀, es₀) ∧
      .returned .started ∈ es₀ ∧
      run oneSource s₀ (.close :: closedInCycle) = some (s, es) ∧
      .returned (.closed (some (.closed "pd"))) ∈ es ∧
      run oneSource s looksAfterClose = some (s', es') ∧
      s.supervisors = [.returned] ∧ s'.supervisors = [.returned] ∧
      (es₀ ++ es).filter Effect.isOfClose =
        [.closed 0, .returned (.closed (some (.closed "pd")))] ∧
      (∀ i x, .deposited i x ∉ es') ∧ Effect.looks 0 es' = [some [], none, none] := by
  have hend : (run oneSource (State.new 0) untilTickAndRequest).bind (fun r₀ =>
      (run oneSource r₀.1 (.close :: closedInCycle)).bind fun r =>
        (run oneSource r.1 looksAfterClose).map fun r' =>
          (r₀.2.contains (.returned .started),
            r.2.contains (.returned (.closed (some (.closed "pd")))), Effect.looks 0 r'.2)) =
      some (true, true, [some [], none, none]) := by decide +kernel
  obtain ⟨⟨s₀, es₀⟩, hbefore, hend⟩ := Option.bind_eq_some_iff.mp hend
  obtain ⟨⟨s, es⟩, hduring, hend⟩ := Option.bind_eq_some_iff.mp hend
  obtain ⟨⟨s', es'⟩, hafter, hend⟩ := Option.map_eq_some_iff.mp hend
  simp only [Prod.mk.injEq, List.contains_iff_mem] at hend
  obtain ⟨hstarted, hreturned, hlooks⟩ := hend
  have hfirst : ∀ a ∈ untilTickAndRequest, a ≠ .close := by
    simp [untilTickAndRequest, untilFirstCycle, loadedCycle, loopStep]
  have honly : ∀ a ∈ closedInCycle, a ≠ .close := by simp [closedInCycle, loopStep]
  obtain ⟨hover, hover', hlog, hunwritten, -, -⟩ :=
    nothing_is_written_after_close hbefore hfirst hstarted hduring honly hreturned hafter
  exact ⟨s₀, es₀, s, es, s', es', hbefore, hstarted, hduring, hreturned, hafter, hover, hover', hlog,
    hunwritten, hlooks⟩

end Discoverer

end ClusterTopology
