import Mathlib.Data.List.Perm.Basic
import Mathlib.Tactic.Common
import ClusterTopology.Proofs.Discoverer.Transition
/-!
Runs of a discoverer, and that it never has two supervisors.

A run is an induction over its actions: what one step keeps, the whole run keeps.  That is said once here,
for facts about the state together with everything done on the way.  Two things are said of single
steps because much else leans on them: what a step does to the subscriptions under way, and that,
whatever clients do, there is at most one supervisor, so at most one control loop and one cycle at
a time.

`run_induction` is the general form, with the steps taken so far as a list; the others are for facts that
need less, down to facts about the state alone.  The two about single steps are `Goes.subscriptionStep` and
`IsSole.step`.  The calls of clients are a list from which calls are taken and in which they are replaced,
and the lemmas on counting say what that does to the number of calls of a sort.
-/

namespace ClusterTopology.Discoverer

/-! ### Traces -/

abbrev Taken := Action × List Effect

/-- The steps of a run, in order, each with what it did; it ends before an action that is not
possible. -/
def trace (setup : Setup) : State → List Action → List Taken
  | _, [] => []
  | s, a :: as =>
    match s.step setup a with
    | none => []
    | some (s', es) => (a, es) :: trace setup s' as

def effectsOf (tr : List Taken) : List Effect := tr.flatMap (·.2)

@[simp] theorem effectsOf_append (tr₁ tr₂ : List Taken) :
    effectsOf (tr₁ ++ tr₂) = effectsOf tr₁ ++ effectsOf tr₂ := by
  simp [effectsOf]

@[simp] theorem effectsOf_singleton (a : Action) (es : List Effect) :
    effectsOf [(a, es)] = es := by
  simp [effectsOf]

variable {setup : Setup}

theorem run_cons_eq_some_iff {s s' : State} {a : Action} {as : List Action} {es : List Effect} :
    run setup s (a :: as) = some (s', es) ↔
      ∃ s₁ es₁ es₂, s.step setup a = some (s₁, es₁) ∧ run setup s₁ as = some (s', es₂) ∧
        es = es₁ ++ es₂ := by
  simp only [run, Option.bind_eq_bind, Option.bind_eq_some_iff, Prod.exists, Option.pure_def,
    Option.some.injEq, Prod.mk.injEq]
  constructor
  · rintro ⟨s₁, es₁, hstep, s₂, es₂, hrun, rfl, rfl⟩
    exact ⟨s₁, es₁, es₂, hstep, hrun, rfl⟩
  · rintro ⟨s₁, es₁, es₂, hstep, hrun, rfl⟩
    exact ⟨s₁, es₁, hstep, s', es₂, hrun, rfl, rfl⟩

theorem run_append_eq_some_iff {s s' : State} {as₁ as₂ : List Action} {es : List Effect} :
    run setup s (as₁ ++ as₂) = some (s', es) ↔
      ∃ s₁ es₁ es₂, run setup s as₁ = some (s₁, es₁) ∧ run setup s₁ as₂ = some (s', es₂) ∧
        es = es₁ ++ es₂ := by
  induction as₁ generalizing s es with
  | nil =>
    constructor
    · intro hrun
      exact ⟨s, [], es, rfl, hrun, rfl⟩
    · rintro ⟨s₁, es₁, es₂, hnil, hrun, rfl⟩
      cases hnil
      exact hrun
  | cons a as₁ ih =>
    rw [List.cons_append, run_cons_eq_some_iff]
    constructor
    · rintro ⟨s₁, es₁, es₂, hstep, hrest, rfl⟩
      obtain ⟨s₂, es₃, es₄, hrun₁, hrun₂, rfl⟩ := ih.mp hrest
      exact ⟨s₂, es₁ ++ es₃, es₄, run_cons_eq_some_iff.mpr ⟨s₁, es₁, es₃, hstep, hrun₁, rfl⟩, hrun₂,
        (List.append_assoc _ _ _).symm⟩
    · rintro ⟨s₂, es₃, es₄, hrun₁, hrun₂, rfl⟩
      obtain ⟨s₁, es₁, es₂, hstep, hrest, rfl⟩ := run_cons_eq_some_iff.mp hrun₁
      exact ⟨s₁, es₁, es₂ ++ es₄, hstep, ih.mpr ⟨s₂, es₂, es₄, hrest, hrun₂, rfl⟩,
        List.append_assoc _ _ _⟩

/-- **What every step keeps, every run keeps.**  The fact may be about the steps taken so far as well
as about the state. -/
theorem run_induction {P : State → List Taken → Prop}
    (hstep : ∀ {s s' : State} {tr : List Taken} {a : Action} {es : List Effect},
      P s tr → State.Goes setup s a s' es → P s' (tr ++ [(a, es)]))
    {as : List Action} {s s' : State} {es : List Effect} {tr : List Taken}
    (hrun : run setup s as = some (s', es)) (h : P s tr) : P s' (tr ++ trace setup s as) := by
  induction as generalizing s es tr with
  | nil =>
    cases hrun
    simpa [trace] using h
  | cons a as ih =>
    obtain ⟨s₁, es₁, es₂, hfirst, hrest, rfl⟩ := run_cons_eq_some_iff.mp hrun
    have hnext := ih hrest (hstep h (State.goes_of_step hfirst))
    simpa [trace, hfirst] using hnext

theorem effectsOf_trace {as : List Action} {s s' : State} {es : List Effect}
    (hrun : run setup s as = some (s', es)) : effectsOf (trace setup s as) = es := by
  induction as generalizing s es with
  | nil =>
    cases hrun
    rfl
  | cons a as ih =>
    obtain ⟨s₁, es₁, es₂, hfirst, hrest, rfl⟩ := run_cons_eq_some_iff.mp hrun
    have hnext := ih hrest
    simp only [trace, hfirst]
    simpa [effectsOf] using hnext

theorem actions_of_trace {as : List Action} {s s' : State} {es : List Effect}
    (hrun : run setup s as = some (s', es)) : (trace setup s as).map (·.1) = as := by
  induction as generalizing s es with
  | nil => rfl
  | cons a as ih =>
    obtain ⟨s₁, es₁, es₂, hfirst, hrest, rfl⟩ := run_cons_eq_some_iff.mp hrun
    have hnext := ih hrest
    simp only [trace, hfirst, List.map_cons, hnext]

/-- `run_induction` for facts about the state and what has been done, over steps of one kind. -/
theorem run_actions_induction {P : State → List Effect → Prop} {A : Action → Prop}
    (hstep : ∀ {s s' : State} {past es : List Effect} {a : Action},
      P s past → A a → State.Goes setup s a s' es → P s' (past ++ es))
    {as : List Action} {s s' : State} {es past : List Effect} (has : ∀ a ∈ as, A a)
    (hrun : run setup s as = some (s', es)) (h : P s past) : P s' (past ++ es) := by
  induction as generalizing s es past with
  | nil =>
    cases hrun
    simpa using h
  | cons a as ih =>
    obtain ⟨s₁, es₁, es₂, hfirst, hrest, rfl⟩ := run_cons_eq_some_iff.mp hrun
    have hnext := hstep h (has a List.mem_cons_self) (State.goes_of_step hfirst)
    have hlast := ih (fun b hb => has b (List.mem_cons_of_mem _ hb)) hrest hnext
    simpa using hlast

/-- `run_actions_induction` over any steps. -/
theorem run_effects_induction {P : State → List Effect → Prop}
    (hstep : ∀ {s s' : State} {past es : List Effect} {a : Action},
      P s past → State.Goes setup s a s' es → P s' (past ++ es))
    {as : List Action} {s s' : State} {es past : List Effect}
    (hrun : run setup s as = some (s', es)) (h : P s past) : P s' (past ++ es) :=
  run_actions_induction (A := fun _ => True) (fun h _ hgoes => hstep h hgoes) (by simp) hrun h

/-- What every step of a kind keeps of the state, every run of such steps keeps. -/
theorem run_state_induction {P : State → Prop} {A : Action → Prop}
    (hstep : ∀ {s s' : State} {a : Action} {es : List Effect},
      P s → A a → State.Goes setup s a s' es → P s')
    {as : List Action} {s s' : State} {es : List Effect} (has : ∀ a ∈ as, A a)
    (hrun : run setup s as = some (s', es)) (h : P s) : P s' :=
  @run_actions_induction setup (fun s _ => P s) A (fun h ha hgoes => hstep h ha hgoes)
    as s s' es [] has hrun h

/-! ### What the calls of clients change -/

namespace State

variable {s : State}

@[simp] theorem notify_calls : s.notify.calls = s.calls := by
  unfold notify
  split <;> rfl

@[simp] theorem notify_started : s.notify.started = s.started := by
  unfold notify
  split <;> rfl

@[simp] theorem notify_registry : s.notify.shared.registry = s.shared.registry := by
  unfold notify
  split <;> rfl

@[simp] theorem notify_strays : s.notify.strays = s.strays := by
  unfold notify
  split <;> rfl

/-- A step of the closing of the sources changes nothing but the call that it belongs to. -/
theorem enterClosing_state (k : Nat) (events : List Event) (stage : Closing.Stage) :
    ∃ calls, (s.enterClosing k events stage).1 = { s with calls } ∧
      (calls = s.calls.eraseIdx k ∨ ∃ c, calls = s.calls.set k (.closing c)) := by
  match stage with
  | .closing c => exact ⟨_, rfl, .inr ⟨c, rfl⟩⟩
  | .ended none => exact ⟨_, rfl, .inl rfl⟩
  | .ended (some e) => exact ⟨_, rfl, .inl rfl⟩

@[simp] theorem enterClosing_shared (k : Nat) (events : List Event) (stage : Closing.Stage) :
    (s.enterClosing k events stage).1.shared = s.shared := by
  obtain ⟨calls, hstate, -⟩ := enterClosing_state (s := s) k events stage
  rw [hstate]

@[simp] theorem enterClosing_supervisors (k : Nat) (events : List Event) (stage : Closing.Stage) :
    (s.enterClosing k events stage).1.supervisors = s.supervisors := by
  obtain ⟨calls, hstate, -⟩ := enterClosing_state (s := s) k events stage
  rw [hstate]

@[simp] theorem enterClosing_strays (k : Nat) (events : List Event) (stage : Closing.Stage) :
    (s.enterClosing k events stage).1.strays = s.strays := by
  obtain ⟨calls, hstate, -⟩ := enterClosing_state (s := s) k events stage
  rw [hstate]

theorem mem_enterClosing {k : Nat} {events : List Event} {stage : Closing.Stage} {e : Effect}
    (he : e ∈ (s.enterClosing k events stage).2) :
    (∃ event ∈ events, e = .event event) ∨ e = .event .discovererClosed ∨
      (∃ position, e = .closed position) ∨ ∃ failure, e = .returned (.closed failure) := by
  match stage with
  | .closing c =>
    simp only [enterClosing, Effect.ofEvents, List.mem_append, List.mem_map, List.mem_singleton]
      at he
    rcases he with ⟨event, hevent, rfl⟩ | rfl
    · exact .inl ⟨event, hevent, rfl⟩
    · exact .inr (.inr (.inl ⟨_, rfl⟩))
  | .ended failure =>
    rcases failure with _ | error
    · simp only [enterClosing, finish, Effect.ofEvents, List.mem_append, List.mem_map,
        List.mem_singleton] at he
      rcases he with ⟨event, hevent | rfl, rfl⟩ | rfl
      · exact .inl ⟨event, hevent, rfl⟩
      · exact .inr (.inl rfl)
      · exact .inr (.inr (.inr ⟨_, rfl⟩))
    · simp only [enterClosing, finish, Effect.ofEvents, List.mem_append, List.mem_map,
        List.mem_singleton] at he
      rcases he with ⟨event, hevent, rfl⟩ | rfl
      · exact .inl ⟨event, hevent, rfl⟩
      · exact .inr (.inr (.inr ⟨_, rfl⟩))

/-- Whether an effect can be one of the closing of the sources. -/
def isOfRelease : Effect → Bool
  | .event _ | .closed _ | .returned (.closed _) => true
  | _ => false

/-- A close tells sources to release what they hold, comes back, and reports. -/
theorem isOfRelease_of_mem_enterClosing {k : Nat} {events : List Event} {stage : Closing.Stage}
    {e : Effect} (he : e ∈ (s.enterClosing k events stage).2) : isOfRelease e = true := by
  rcases mem_enterClosing he with ⟨_, _, rfl⟩ | rfl | ⟨_, rfl⟩ | ⟨_, rfl⟩ <;> rfl

/-- Only a close closes the discoverer. -/
theorem Goes.closed_eq {s s' : State} {a : Action} {es : List Effect} (hgoes : Goes setup s a s' es)
    (ha : a ≠ .close) : s'.shared.closed = s.shared.closed := by
  cases hgoes with
  | subscribed _ =>
    simp only [finish, notify]
    split <;> rfl
  | unsupervised _ _ => simp
  | joined _ _ => simp
  | sourceClosed _ _ => simp
  | supervise hv hgoes =>
    obtain ⟨-, hsame, -⟩ := hgoes.frame
    exact hsame
  | stray hw hgoes =>
    obtain ⟨⟨current, hshared⟩, -⟩ := hgoes.frame
    simp [hshared]
  | close _ => exact absurd rfl ha
  | _ => rfl

/-- Only a drop takes the client away. -/
theorem Goes.held_eq {s s' : State} {a : Action} {es : List Effect} (hgoes : Goes setup s a s' es)
    (ha : a ≠ .drop) : s'.held = s.held := by
  have hclosing : ∀ k events stage, (s.enterClosing k events stage).1.held = s.held := by
    intro k events stage
    obtain ⟨calls, hstate, -⟩ := s.enterClosing_state k events stage
    rw [hstate]
  cases hgoes with
  | subscribed _ =>
    simp only [finish, notify]
    split <;> rfl
  | unsupervised _ _ => exact hclosing _ _ _
  | joined _ _ => exact hclosing _ _ _
  | sourceClosed _ _ => exact hclosing _ _ _
  | drop _ _ => exact absurd rfl ha
  | _ => rfl

theorem Goes.closed_of_closed {s s' : State} {a : Action} {es : List Effect}
    (hgoes : Goes setup s a s' es) (hclosed : s.shared.closed = true) : s'.shared.closed = true := by
  by_cases ha : a = .close
  · subst ha
    cases hgoes
    rfl
  · exact (hgoes.closed_eq ha).trans hclosed

/-! ### Counting calls -/

theorem countP_eraseIdx_add {calls : List Call} {k : Nat} {c : Call} (hcall : calls[k]? = some c)
    (p : Call → Bool) : (calls.eraseIdx k).countP p + (p c).toNat = calls.countP p := by
  obtain ⟨hk, rfl⟩ := List.getElem?_eq_some_iff.mp hcall
  rw [← (List.getElem_cons_eraseIdx_perm hk).countP_eq p, List.countP_cons]
  cases p calls[k] <;> rfl

theorem countP_set_add {calls : List Call} {k : Nat} {c : Call} (hcall : calls[k]? = some c)
    (c' : Call) (p : Call → Bool) :
    (calls.set k c').countP p + (p c).toNat = calls.countP p + (p c').toNat := by
  obtain ⟨hk, -⟩ := List.getElem?_eq_some_iff.mp hcall
  have herase := countP_eraseIdx_add hcall p
  have hset : (calls.set k c').countP p = (calls.eraseIdx k).countP p + (p c').toNat := by
    rw [(List.set_perm_cons_eraseIdx hk c').countP_eq p, List.countP_cons]
    cases p c' <;> rfl
  omega

theorem toNat_beq (c d : Call) : (c == d).toNat = if c = d then 1 else 0 := by
  by_cases hcd : c = d <;> simp [hcd]

theorem count_eraseIdx_add {calls : List Call} {k : Nat} {c : Call} (hcall : calls[k]? = some c)
    (d : Call) : (calls.eraseIdx k).count d + (if c = d then 1 else 0) = calls.count d := by
  rw [← toNat_beq]
  exact countP_eraseIdx_add hcall (· == d)

theorem count_set_add {calls : List Call} {k : Nat} {c : Call} (hcall : calls[k]? = some c)
    (c' d : Call) : (calls.set k c').count d + (if c = d then 1 else 0) =
      calls.count d + (if c' = d then 1 else 0) := by
  rw [← toNat_beq, ← toNat_beq]
  exact countP_set_add hcall c' (· == d)

/-! ### Subscriptions -/

/-- A step registers a mailbox, ends the subscription to one with a request, or changes no
subscription. -/
inductive SubscriptionStep (s : State) (a : Action) (s' : State) (es : List Effect) : Prop where
  | registers (ha : a = .subscribe) (hregistry : s'.shared.registry = s.shared.registry.register)
      (hcalls : s'.calls = s.calls ++ [.subscribing s.shared.registry.size]) (hes : es = [])
  | ends {k i : Nat} (hcall : s.calls[k]? = some (.subscribing i))
      (hstate : s' = { s.notify with calls := s.calls.eraseIdx k })
      (hes : es = [.returned (.mailbox i)])
  | none (hsize : s'.shared.registry.size = s.shared.registry.size)
      (hcalls : ∀ i, s'.calls.count (.subscribing i) = s.calls.count (.subscribing i))
      (hes : ∀ i, .returned (.mailbox i) ∉ es)

theorem subscriptionStep_enterClosing (s : State) (a : Action) {k : Nat} {c : Call}
    (hcall : s.calls[k]? = some c) (hc : ∀ i, c ≠ .subscribing i) (events : List Event)
    (stage : Closing.Stage) :
    SubscriptionStep s a (s.enterClosing k events stage).1 (s.enterClosing k events stage).2 := by
  obtain ⟨calls, hstate, hcalls⟩ := s.enterClosing_state k events stage
  have hreturned : ∀ i, .returned (.mailbox i) ∉ (s.enterClosing k events stage).2 := by
    intro i hmem
    cases isOfRelease_of_mem_enterClosing hmem
  refine .none (by rw [hstate]) (fun i => ?_) hreturned
  rw [hstate]
  rcases hcalls with rfl | ⟨c', rfl⟩
  · have := count_eraseIdx_add hcall (.subscribing i)
    simpa [hc i] using this
  · have := count_set_add hcall (.closing c') (.subscribing i)
    simpa [hc i] using this

theorem Goes.subscriptionStep {s s' : State} {a : Action} {es : List Effect}
    (hgoes : Goes setup s a s' es) : SubscriptionStep s a s' es := by
  cases hgoes with
  | elapse d => exact .none rfl (fun _ => rfl) (by simp)
  | subscribe _ => exact .registers rfl rfl rfl rfl
  | startAgain _ _ => exact .none rfl (fun _ => rfl) (by simp)
  | start _ _ => exact .none rfl (fun i => by simp) (by simp)
  | close _ => exact .none rfl (fun i => by simp) (by simp)
  | drop _ _ => exact .none rfl (fun _ => rfl) (by simp)
  | subscribed hcall => exact .ends hcall (by simp [finish]) rfl
  | spawned hcall =>
    refine .none rfl (fun i => ?_) (by simp)
    have := count_set_add hcall (.leaving s.supervisors.length) (.subscribing i)
    simpa using this
  | left hcall =>
    refine .none rfl (fun i => ?_) (by simp)
    have := count_eraseIdx_add hcall (.subscribing i)
    simpa using this
  | @taken k j hcall _ =>
    refine .none rfl (fun i => ?_) (by simp)
    have := count_set_add hcall (.joining j) (.subscribing i)
    simpa using this
  | unsupervised hcall _ => exact subscriptionStep_enterClosing s _ hcall (by simp) _ _
  | joined hcall _ => exact subscriptionStep_enterClosing s _ hcall (by simp) _ _
  | sourceClosed r hcall => exact subscriptionStep_enterClosing s _ hcall (by simp) _ _
  | supervise hv hgoes =>
    obtain ⟨hsize, -, heffects⟩ := hgoes.frame
    exact .none hsize (fun _ => rfl) (fun i => heffects _)
  | stray hw hgoes =>
    obtain ⟨⟨current, hshared⟩, heffects, -⟩ := hgoes.frame
    exact .none (by simp [hshared]) (fun _ => rfl) (fun i => heffects _)
  | discard _ => exact .none rfl (fun _ => rfl) (by simp)
  | read hb => exact .none (by simp) (fun _ => rfl) (by simp)
  | giveUp hb => exact .none (by simp) (fun _ => rfl) (by simp)

end State

/-! ### One supervisor -/

/-- There is a supervisor, or a start that will spawn it, only once the discoverer has been started, and
then only one of them. -/
def State.IsSole (s : State) : Prop :=
  s.supervisors.length + s.calls.count .starting ≤ if s.started then 1 else 0

namespace State

theorem isSole_new (now : Instant) : (State.new now).IsSole := by
  simp [IsSole, State.new]

/-- Where there is at most one supervisor, it is the one that moves. -/
theorem IsSole.eq_singleton {s : State} (h : s.IsSole) {i : Nat} {v : Supervisor}
    (hv : s.supervisors[i]? = some v) : i = 0 ∧ s.supervisors = [v] := by
  have hlength : s.supervisors.length ≤ 1 := by
    unfold IsSole at h
    split at h <;> omega
  obtain ⟨hi, -⟩ := List.getElem?_eq_some_iff.mp hv
  obtain rfl : i = 0 := by omega
  refine ⟨rfl, ?_⟩
  obtain ⟨v', hv'⟩ := List.length_eq_one_iff.mp (by omega : s.supervisors.length = 1)
  rw [hv'] at hv
  cases hv
  exact hv'

theorem IsSole.nil_or_singleton {s : State} (h : s.IsSole) :
    s.supervisors = [] ∨ ∃ v, s.supervisors = [v] := by
  rcases hv : s.supervisors[0]? with _ | v
  · exact .inl (by simpa using hv)
  · exact .inr ⟨v, (h.eq_singleton hv).2⟩

theorem adopt_supervisors {s : State} {v : Supervisor} (hone : s.supervisors = [v])
    (t : Turn Supervisor) : (s.adopt 0 t).1.supervisors = [t.task] := by
  simp [adopt, hone]

theorem IsSole.nil_of_starting {s : State} (h : s.IsSole) {k : Nat}
    (hcall : s.calls[k]? = some .starting) : s.supervisors = [] ∧ s.calls.count .starting = 1 := by
  have hcount : 0 < s.calls.count .starting := List.count_pos_iff.mpr (List.mem_of_getElem? hcall)
  unfold IsSole at h
  split at h
  · exact ⟨List.eq_nil_of_length_eq_zero (by omega), by omega⟩
  · omega

/-- A request wakes the control loop when that sleeps and has not been woken before; else it is
stored. -/
theorem IsSole.notify_eq {s : State} (h : s.IsSole) :
    (∃ due, s.supervisors = [.watching (.parked due false)] ∧
      s.notify = { s with supervisors := [.watching (.parked due true)] }) ∨
    ((∀ due, s.supervisors ≠ [.watching (.parked due false)]) ∧
      s.notify = { s with shared := { s.shared with permit := true } }) := by
  rcases h.nil_or_singleton with hnil | ⟨v, hv⟩
  · refine .inr ⟨fun due => by simp [hnil], ?_⟩
    simp [notify, hnil, Supervisor.wakeFirst?]
  · rcases hwoken : v.woken? with _ | v'
    · refine .inr ⟨?_, ?_⟩
      · rintro due hparked
        rw [hv] at hparked
        cases hparked
        simp [Supervisor.woken?] at hwoken
      · simp [notify, hv, Supervisor.wakeFirst?, hwoken]
    · left
      unfold Supervisor.woken? at hwoken
      split at hwoken
      · next due =>
        cases hwoken
        exact ⟨due, hv, by simp [notify, hv, Supervisor.wakeFirst?, Supervisor.woken?]⟩
      · cases hwoken

theorem IsSole.keep {s s' : State} (h : s.IsSole) (hstarted : s'.started = s.started)
    (hlength : s'.supervisors.length = s.supervisors.length)
    (hcalls : s'.calls.count .starting ≤ s.calls.count .starting) : s'.IsSole := by
  unfold IsSole at h ⊢
  rw [hstarted, hlength]
  exact Nat.le_trans (Nat.add_le_add_left hcalls _) h

theorem count_starting_eraseIdx_le (calls : List Call) (k : Nat) :
    (calls.eraseIdx k).count .starting ≤ calls.count .starting :=
  (List.eraseIdx_sublist calls k).count_le _

theorem count_starting_set_le {calls : List Call} {c : Call} (k : Nat) (hc : c ≠ .starting) :
    (calls.set k c).count .starting ≤ calls.count .starting := by
  by_cases hk : k < calls.length
  · rw [List.count_set hk]
    simp [hc]
  · have hsame : calls.set k c = calls := List.set_eq_of_length_le (Nat.not_lt.mp hk)
    exact Nat.le_of_eq (by rw [hsame])

/-- **There is never more than one supervisor**: a step keeps it. -/
theorem IsSole.step {s s' : State} {a : Action} {es : List Effect} (h : s.IsSole)
    (hgoes : Goes setup s a s' es) : s'.IsSole := by
  have hclosing : ∀ k events stage, (s.enterClosing k events stage).1.IsSole := by
    intro k events stage
    obtain ⟨calls, hstate, hcalls⟩ := s.enterClosing_state k events stage
    rw [hstate]
    rcases hcalls with rfl | ⟨c, rfl⟩
    · exact h.keep rfl rfl (count_starting_eraseIdx_le _ k)
    · exact h.keep rfl rfl (count_starting_set_le k (by simp))
  cases hgoes with
  | elapse d => exact h.keep rfl rfl (Nat.le_refl _)
  | subscribe _ => exact h.keep rfl rfl (by simp)
  | startAgain _ _ => exact h
  | start _ hstarted =>
    have hnone : s.supervisors.length + s.calls.count .starting = 0 := by
      simpa [IsSole, hstarted] using h
    have hcount : (s.calls ++ [Call.starting]).count .starting = s.calls.count .starting + 1 := by
      simp
    simp only [IsSole, hcount, if_true]
    omega
  | close _ => exact h.keep rfl rfl (by simp)
  | drop _ _ => exact h.keep rfl rfl (Nat.le_refl _)
  | subscribed hcall =>
    rcases h.notify_eq with ⟨due, hparked, hnotify⟩ | ⟨_, hnotify⟩
    · exact h.keep (by simp [finish]) (by simp [finish, hnotify, hparked])
        (by simpa [finish] using count_starting_eraseIdx_le _ _)
    · exact h.keep (by simp [finish]) (by simp [finish, hnotify])
        (by simpa [finish] using count_starting_eraseIdx_le _ _)
  | @spawned k hcall =>
    obtain ⟨hnil, hcount⟩ := h.nil_of_starting hcall
    obtain ⟨hk, hget⟩ := List.getElem?_eq_some_iff.mp hcall
    have hstarted : s.started = true := by
      by_contra hne
      simp [IsSole, hne, hcount] at h
    simp [IsSole, hstarted, hnil, List.count_set hk, hget, hcount]
  | left _ => exact h.keep rfl rfl (count_starting_eraseIdx_le _ _)
  | taken _ _ => exact h.keep rfl rfl (count_starting_set_le _ (by simp))
  | unsupervised _ _ => exact hclosing _ _ _
  | joined _ _ => exact hclosing _ _ _
  | sourceClosed _ _ => exact hclosing _ _ _
  | supervise _ _ => exact h.keep rfl (by simp [adopt]) (Nat.le_refl _)
  | stray _ _ => exact h.keep rfl rfl (Nat.le_refl _)
  | discard _ => exact h.keep rfl rfl (Nat.le_refl _)
  | read _ => exact h.keep rfl rfl (Nat.le_refl _)
  | giveUp _ => exact h.keep rfl rfl (Nat.le_refl _)

end State

/-- `run_induction` from a discoverer that has just been built; a step may use that there is at most
one supervisor. -/
theorem reached_induction {P : State → List Taken → Prop} {now : Instant}
    (hnew : P (State.new now) [])
    (hstep : ∀ {s s' : State} {tr : List Taken} {a : Action} {es : List Effect},
      s.IsSole → P s tr → State.Goes setup s a s' es → P s' (tr ++ [(a, es)]))
    {as : List Action} {s : State} {es : List Effect}
    (hrun : run setup (State.new now) as = some (s, es)) :
    P s (trace setup (State.new now) as) ∧ s.IsSole := by
  have hkept := run_induction (P := fun s tr => P s tr ∧ s.IsSole)
    (fun h hgoes => ⟨hstep h.2 h.1 hgoes, h.2.step hgoes⟩) hrun ⟨hnew, State.isSole_new now⟩
  simpa using hkept

/-- `reached_induction` for facts about the state and what has been done. -/
theorem reached_effects_induction {P : State → List Effect → Prop} {now : Instant}
    (hnew : P (State.new now) [])
    (hstep : ∀ {s s' : State} {past es : List Effect} {a : Action},
      s.IsSole → P s past → State.Goes setup s a s' es → P s' (past ++ es))
    {as : List Action} {s : State} {es : List Effect}
    (hrun : run setup (State.new now) as = some (s, es)) : P s es ∧ s.IsSole := by
  have hkept := run_effects_induction (P := fun s past => P s past ∧ s.IsSole)
    (fun h hgoes => ⟨hstep h.2 h.1 hgoes, h.2.step hgoes⟩) hrun ⟨hnew, State.isSole_new now⟩
  simpa using hkept

theorem isSole_of_reaches {s : State} {es : List Effect} (h : Reaches setup s es) : s.IsSole := by
  obtain ⟨now, as, hrun⟩ := h
  exact (reached_effects_induction (P := fun _ _ => True) trivial (fun _ _ _ => trivial) hrun).2

theorem State.IsSole.run {as : List Action} {s s' : State} {es : List Effect} (h : s.IsSole)
    (hrun : run setup s as = some (s', es)) : s'.IsSole :=
  run_state_induction (A := fun _ => True) (fun h _ hgoes => h.step hgoes) (by simp) hrun h

theorem closed_of_run {as : List Action} {s s' : State} {es : List Effect}
    (hrun : run setup s as = some (s', es)) (has : ∀ a ∈ as, a ≠ .close) :
    s'.shared.closed = s.shared.closed :=
  run_state_induction (P := fun s' => s'.shared.closed = s.shared.closed)
    (fun h ha hgoes => (hgoes.closed_eq ha).trans h) has hrun rfl

/-! ### A discoverer with one source -/

/-- A setup of one source with a period of ten nanoseconds. -/
def oneSource : Setup := ⟨["pd"], 10, by decide⟩

def loopStep (m : LoopMove) : Action := .supervise 0 (.control m)

/-- The start of a discoverer, up to its first cycle. -/
def untilFirstCycle : List Action :=
  [.start, .proceed 0, .proceed 0, .supervise 0 .spawn, loopStep .launch]

/-- A cycle in which the one source finds nothing, up to its publication. -/
def loadedCycle : List Action :=
  [loopStep (.work .begin), loopStep (.work (.answer (.loaded []))), loopStep (.work .store),
    loopStep .join]

end ClusterTopology.Discoverer
