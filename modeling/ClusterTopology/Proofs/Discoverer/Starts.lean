import ClusterTopology.Proofs.Discoverer.Run
/-!
Whose step a step is, and what the starts of a discoverer come to.

Most facts about cycles need to know of a step only whether it is one of the supervisor, one of a worker that
was left behind, or one of the clients and the clock (`TaskStep`).  The last kind is the largest and does the
least: at most it spawns the supervisor or wakes the control loop.

However many starts are made, and whatever else happens between them, one spawns the supervisor and comes back
well, and all others are refused.  Three counts say so: a start that has been let through is under way or has
come back, it waits to spawn or there is a supervisor, and every other one has been refused.

`StartStep` sorts the steps by what they do to these counts, and `StartsStand` is the invariant that a run
keeps.  `exists_run_of_start` goes the other way: a start that is under way can always come back, in as many
steps as it has left, whatever the other tasks do not do.
-/

namespace ClusterTopology

/-! ## Kinds of steps -/

/-- Whether an effect is one of clients: what comes back to them, what they read, and the closing of the
sources. -/
def Effect.isOfClient : Effect → Bool
  | .returned _ | .received _ _ | .closed _ => true
  | .event .discovererClosed | .event (.sourceCloseFailed _ _) => true
  | _ => false

namespace Discoverer

variable {setup : Setup}

def Loop.isAlive : Loop → Bool
  | .ended | .panicked _ => false
  | _ => true

def Action.isOfClient : Action → Bool
  | .supervise _ _ | .stray _ _ | .discard _ => false
  | _ => true

/-- What a step of the clients does to the supervisor. -/
inductive Supervisor.Served : List Supervisor → List Supervisor → Prop where
  | kept (vs : List Supervisor) : Served vs vs
  | spawned : Served [] [.spawning]
  | woken (due : Instant) :
      Served [.watching (.parked due false)] [.watching (.parked due true)]

namespace State

inductive TaskStep (setup : Setup) (s : State) : Action → State → List Effect → Prop where
  | supervise {m : SupervisorMove} {v : Supervisor} {t : Turn Supervisor}
      (hv : s.supervisors = [v]) (hgoes : Supervisor.Goes setup s.shared m v t) :
      TaskStep setup s (.supervise 0 m) (s.adopt 0 t).1 t.effects
  | stray {j : Nat} {m : WorkerMove} {w : Worker} {t : Turn Worker} (hw : s.strays[j]? = some w)
      (hgoes : Worker.Goes setup s.shared m w t) :
      TaskStep setup s (.stray j m) { s with shared := t.shared, strays := s.strays.set j t.task }
        t.effects
  | discard {j : Nat} (hj : j < s.strays.length) :
      TaskStep setup s (.discard j) { s with strays := s.strays.eraseIdx j } []
  | client {a : Action} {s' : State} {es : List Effect} (ha : a.isOfClient = true)
      (hcurrent : s'.shared.current = s.shared.current) (hstrays : s'.strays = s.strays)
      (hserved : Supervisor.Served s.supervisors s'.supervisors)
      (hes : ∀ e ∈ es, e.isOfClient = true) : TaskStep setup s a s' es

theorem taskStep_enterClosing (s : State) {a : Action} (ha : a.isOfClient = true) (k : Nat)
    {events : List Event} (hevents : ∀ event ∈ events, (Effect.event event).isOfClient = true)
    (stage : Closing.Stage) :
    TaskStep setup s a (s.enterClosing k events stage).1 (s.enterClosing k events stage).2 := by
  refine .client ha (by simp) (by simp) ?_ ?_
  · rw [enterClosing_supervisors]
    exact .kept _
  · intro e he
    rcases mem_enterClosing he with ⟨event, hevent, rfl⟩ | rfl | ⟨_, rfl⟩ | ⟨_, rfl⟩
    · exact hevents event hevent
    all_goals rfl

/-- **Every step is one of the supervisor, one of a worker left behind, or one of the clients.** -/
theorem Goes.taskStep {s s' : State} {a : Action} {es : List Effect} (hsole : s.IsSole)
    (hgoes : Goes setup s a s' es) : TaskStep setup s a s' es := by
  have hreturned {r : Return} : ∀ e ∈ [Effect.returned r], e.isOfClient = true := by
    simp [Effect.isOfClient]
  cases hgoes with
  | elapse d => exact .client rfl rfl rfl (.kept _) (by simp)
  | subscribe _ => exact .client rfl rfl rfl (.kept _) (by simp)
  | startAgain _ _ => exact .client rfl rfl rfl (.kept _) hreturned
  | start _ _ => exact .client rfl rfl rfl (.kept _) (by simp)
  | close _ => exact .client rfl rfl rfl (.kept _) (by simp)
  | drop _ _ => exact .client rfl rfl rfl (.kept _) (by simp)
  | subscribed _ =>
    rcases hsole.notify_eq with ⟨due, hparked, hnotify⟩ | ⟨-, hnotify⟩
    · refine .client rfl (by simp [finish, hnotify]) (by simp [finish]) ?_ hreturned
      simpa [finish, hnotify, hparked] using Supervisor.Served.woken due
    · refine .client rfl (by simp [finish, hnotify]) (by simp [finish]) ?_ hreturned
      simpa [finish, hnotify] using Supervisor.Served.kept s.supervisors
  | spawned hcall =>
    obtain ⟨hnil, -⟩ := hsole.nil_of_starting hcall
    refine .client rfl rfl rfl ?_ (by simp)
    simpa [hnil] using Supervisor.Served.spawned
  | left _ => exact .client rfl rfl rfl (.kept _) hreturned
  | taken _ _ => exact .client rfl rfl rfl (.kept _) (by simp)
  | unsupervised _ _ => exact taskStep_enterClosing s rfl _ (by simp) _
  | joined _ _ => exact taskStep_enterClosing s rfl _ (by simp) _
  | @sourceClosed k c r _ =>
    refine taskStep_enterClosing s rfl _ ?_ _
    cases r <;> simp [Closing.answer, Effect.isOfClient]
  | supervise hv hgoes =>
    obtain ⟨rfl, hone⟩ := hsole.eq_singleton hv
    exact .supervise hone hgoes
  | stray hw hgoes => exact .stray hw hgoes
  | discard hj => exact .discard hj
  | read _ => exact .client rfl rfl rfl (.kept _) (by simp [Effect.isOfClient])
  | giveUp _ => exact .client rfl rfl rfl (.kept _) (by simp)

end State

/-! ## Starts -/

def Call.isStart : Call → Bool
  | .starting | .leaving _ => true
  | _ => false

def Action.isStart : Action → Bool
  | .start => true
  | _ => false

namespace State

def starts (s : State) : Nat := s.calls.countP Call.isStart

/-- How many starts have yet to spawn a supervisor. -/
def unspawned (s : State) : Nat := s.calls.count .starting

/-- A step lets a start through or refuses it, brings one further, or leaves starts alone. -/
inductive StartStep (s : State) (a : Action) (s' : State) (es : List Effect) : Prop where
  | began (ha : a = .start) (hbefore : s.started = false) (hafter : s'.started = true)
      (hstarts : s'.starts = s.starts + 1) (hunspawned : s'.unspawned = s.unspawned + 1)
      (hlength : s'.supervisors.length = s.supervisors.length) (hes : es = [])
  | refused (ha : a = .start) (hstarted : s.started = true) (hstate : s' = s)
      (hes : es = [.returned .alreadyStarted])
  | spawned (ha : a ≠ .start) (hstarted : s'.started = s.started) (hstarts : s'.starts = s.starts)
      (hunspawned : s'.unspawned + 1 = s.unspawned)
      (hlength : s'.supervisors.length = s.supervisors.length + 1) (hes : es = [])
  | left (ha : a ≠ .start) (hstarted : s'.started = s.started) (hstarts : s'.starts + 1 = s.starts)
      (hunspawned : s'.unspawned = s.unspawned)
      (hlength : s'.supervisors.length = s.supervisors.length) (hes : es = [.returned .started])
  | none (ha : a ≠ .start) (hstarted : s'.started = s.started) (hstarts : s'.starts = s.starts)
      (hunspawned : s'.unspawned = s.unspawned)
      (hlength : s'.supervisors.length = s.supervisors.length)
      (hes : .returned .started ∉ es ∧ .returned .alreadyStarted ∉ es)

theorem startStep_enterClosing (s : State) {a : Action} (ha : a ≠ .start) {k : Nat} {c : Call}
    (hcall : s.calls[k]? = some c) (hc : c.isStart = false) (hc' : c ≠ .starting)
    (events : List Event) (stage : Closing.Stage) :
    StartStep s a (s.enterClosing k events stage).1 (s.enterClosing k events stage).2 := by
  obtain ⟨calls, hstate, hcalls⟩ := s.enterClosing_state k events stage
  refine .none ha (by rw [hstate]) ?_ ?_ (by rw [hstate]) ⟨?_, ?_⟩
  · rw [hstate]
    rcases hcalls with rfl | ⟨c', rfl⟩
    · have := countP_eraseIdx_add hcall Call.isStart
      simpa [starts, hc] using this
    · have hclosing : Call.isStart (.closing c') = false := rfl
      have := countP_set_add hcall (.closing c') Call.isStart
      simpa [starts, hc, hclosing] using this
  · rw [hstate]
    rcases hcalls with rfl | ⟨c', rfl⟩
    · have := count_eraseIdx_add hcall .starting
      simpa [unspawned, hc'] using this
    · have := count_set_add hcall (.closing c') .starting
      simpa [unspawned, hc'] using this
  · intro hmem
    cases isOfRelease_of_mem_enterClosing hmem
  · intro hmem
    cases isOfRelease_of_mem_enterClosing hmem

theorem Goes.startStep {s s' : State} {a : Action} {es : List Effect} (hsole : s.IsSole)
    (hgoes : Goes setup s a s' es) : StartStep s a s' es := by
  have hnone {es : List Effect} (hes : ∀ r, .returned r ∉ es) :
      .returned .started ∉ es ∧ .returned .alreadyStarted ∉ es := ⟨hes _, hes _⟩
  cases hgoes with
  | elapse d => exact .none (by simp) rfl rfl rfl rfl (hnone (by simp))
  | subscribe _ =>
    refine .none (by simp) rfl ?_ ?_ rfl (hnone (by simp))
    · simp [starts, Call.isStart]
    · simp [unspawned]
  | startAgain _ hstarted => exact .refused rfl hstarted rfl rfl
  | start _ hstarted =>
    refine .began rfl hstarted rfl ?_ ?_ rfl rfl
    · simp [starts, Call.isStart]
    · simp [unspawned]
  | close _ =>
    refine .none (by simp) rfl ?_ ?_ rfl (hnone (by simp))
    · simp [starts, Call.isStart]
    · simp [unspawned]
  | drop _ _ => exact .none (by simp) rfl rfl rfl rfl (hnone (by simp))
  | subscribed hcall =>
    refine .none (by simp) (by simp [finish]) ?_ ?_ ?_ (by simp)
    · have := countP_eraseIdx_add hcall Call.isStart
      simpa [starts, finish, Call.isStart] using this
    · have := count_eraseIdx_add hcall .starting
      simpa [unspawned, finish] using this
    · rcases hsole.notify_eq with ⟨due, hparked, hnotify⟩ | ⟨_, hnotify⟩
      · simp [finish, hnotify, hparked]
      · simp [finish, hnotify]
  | spawned hcall =>
    refine .spawned (by simp) rfl ?_ ?_ (by simp) rfl
    · have := countP_set_add hcall (.leaving s.supervisors.length) Call.isStart
      simpa [starts, Call.isStart] using this
    · have := count_set_add hcall (.leaving s.supervisors.length) .starting
      simpa [unspawned] using this
  | left hcall =>
    refine .left (by simp) rfl ?_ ?_ rfl rfl
    · have := countP_eraseIdx_add hcall Call.isStart
      simpa [starts, Call.isStart] using this
    · have := count_eraseIdx_add hcall .starting
      simpa [unspawned] using this
  | @taken k i hcall _ =>
    refine .none (by simp) rfl ?_ ?_ rfl (hnone (by simp))
    · have := countP_set_add hcall (.joining i) Call.isStart
      simpa [starts, Call.isStart] using this
    · have := count_set_add hcall (.joining i) .starting
      simpa [unspawned] using this
  | unsupervised hcall _ => exact startStep_enterClosing s (by simp) hcall rfl (by simp) _ _
  | joined hcall _ => exact startStep_enterClosing s (by simp) hcall rfl (by simp) _ _
  | sourceClosed r hcall => exact startStep_enterClosing s (by simp) hcall rfl (by simp) _ _
  | supervise hv hgoes =>
    obtain ⟨-, -, heffects⟩ := hgoes.frame
    exact .none (by simp) rfl rfl rfl (by simp [adopt]) (hnone heffects)
  | stray hw hgoes =>
    obtain ⟨-, heffects, -⟩ := hgoes.frame
    exact .none (by simp) rfl rfl rfl rfl (hnone heffects)
  | discard _ => exact .none (by simp) rfl rfl rfl rfl (hnone (by simp))
  | read _ => exact .none (by simp) rfl rfl rfl rfl (hnone (by simp))
  | giveUp _ => exact .none (by simp) rfl rfl rfl rfl (hnone (by simp))

end State

/-- What has become of `made` starts: one is let through, and every other is refused. -/
structure StartsStand (s : State) (made : Nat) (past : List Effect) : Prop where
  started : (if s.started then 1 else 0) = min made 1
  spawned : s.supervisors.length + s.unspawned = min made 1
  returned : past.count (.returned .started) + s.starts = min made 1
  refused : past.count (.returned .alreadyStarted) = made - 1

theorem StartsStand.step {s s' : State} {made : Nat} {past es : List Effect} {a : Action}
    (h : StartsStand s made past) (hsole : s.IsSole) (hgoes : State.Goes setup s a s' es) :
    StartsStand s' (made + (a.isStart).toNat) (past ++ es) := by
  obtain ⟨hstart, hspawned, hreturned, hrefused⟩ := h
  have hother (ha : a ≠ .start) : made + (a.isStart).toNat = made := by
    cases a <;> first | rfl | exact absurd rfl ha
  cases hgoes.startStep hsole with
  | began ha hbefore hafter hstarts hunspawned hlength hes =>
    subst ha hes
    -- nothing has been let through, so this is the first start
    obtain rfl : made = 0 := by
      simp only [hbefore, Bool.false_eq_true, if_false] at hstart
      omega
    simp only [Action.isStart, Bool.toNat_true, List.append_nil]
    refine ⟨by simp [hafter], ?_, ?_, hrefused⟩
    · omega
    · omega
  | refused ha hstarted hstate hes =>
    subst ha hes hstate
    have hmade : 0 < made := by
      simp only [hstarted, if_true] at hstart
      omega
    have hone : min (made + 1) 1 = min made 1 := by omega
    simp only [Action.isStart, Bool.toNat_true]
    refine ⟨hone ▸ hstart, hone ▸ hspawned, ?_, ?_⟩
    · rw [hone]
      simpa using hreturned
    · rw [List.count_append, List.count_singleton_self]
      omega
  | spawned ha hstarted hstarts hunspawned hlength hes =>
    subst hes
    rw [hother ha, List.append_nil]
    refine ⟨hstarted ▸ hstart, ?_, hstarts ▸ hreturned, hrefused⟩
    omega
  | left ha hstarted hstarts hunspawned hlength hes =>
    subst hes
    rw [hother ha]
    refine ⟨hstarted ▸ hstart, hlength ▸ hunspawned ▸ hspawned, ?_, ?_⟩
    · rw [List.count_append, List.count_singleton_self]
      omega
    · simpa using hrefused
  | none ha hstarted hstarts hunspawned hlength hes =>
    have hstartedNone := List.count_eq_zero.mpr hes.1
    have hrefusedNone := List.count_eq_zero.mpr hes.2
    rw [hother ha]
    refine ⟨hstarted ▸ hstart, hlength ▸ hunspawned ▸ hspawned, ?_, ?_⟩
    · rw [List.count_append, hstartedNone, hstarts]
      exact hreturned
    · rw [List.count_append, hrefusedNone]
      exact hrefused

/-- **Starts are counted**, whatever else happens in a run. -/
theorem startsStand_of_run {now : Instant} {as : List Action} {s : State} {es : List Effect}
    (hrun : run setup (State.new now) as = some (s, es)) :
    StartsStand s (as.countP Action.isStart) es := by
  have hkept := reached_induction
    (P := fun s tr => StartsStand s ((tr.map (·.1)).countP Action.isStart) (effectsOf tr))
    ⟨rfl, rfl, rfl, rfl⟩ ?_ hrun
  · rw [actions_of_trace hrun, effectsOf_trace hrun] at hkept
    exact hkept.1
  · intro s s' tr a es hsole h hgoes
    have hnext := h.step hsole hgoes
    have hcount : [a].countP Action.isStart = (a.isStart).toNat := by
      cases ha : a.isStart <;> simp [ha]
    rw [List.map_append, List.countP_append, effectsOf_append, effectsOf_singleton]
    simpa [hcount] using hnext

/-- A start that has come back has left a supervisor. -/
theorem exists_supervisor_of_started {now : Instant} {as : List Action} {s : State}
    {es : List Effect} (hrun : run setup (State.new now) as = some (s, es))
    (hstarted : .returned .started ∈ es) : ∃ v, s.supervisors = [v] := by
  obtain ⟨-, hspawned, hreturned, -⟩ := startsStand_of_run hrun
  have hpos : 0 < es.count (.returned .started) := List.count_pos_iff.mpr hstarted
  have hpending : s.unspawned ≤ s.starts := by
    refine List.countP_mono_left ?_
    intro c _ hc
    rw [eq_of_beq hc]
    rfl
  have hlength : s.supervisors.length = 1 := by omega
  exact List.length_eq_one_iff.mp hlength

/-- A start that is under way can always come back. -/
theorem exists_run_of_start {s : State} {k : Nat} {c : Call} (hcall : s.calls[k]? = some c)
    (hc : c.isStart = true) :
    ∃ n s' es', run setup s (List.replicate n (.proceed k)) = some (s', es') ∧
      .returned .started ∈ es' := by
  have hleaving {s : State} {i : Nat} (hcall : s.calls[k]? = some (.leaving i)) :
      ∃ s', run setup s [.proceed k] = some (s', [.returned .started]) :=
    ⟨_, by simp [run, State.step, State.proceed, hcall, State.finish, Effect.ofEvents]; rfl⟩
  cases c with
  | starting =>
    obtain ⟨hk, -⟩ := List.getElem?_eq_some_iff.mp hcall
    obtain ⟨s₁, hspawn, hnext⟩ : ∃ s₁, s.step setup (.proceed k) = some (s₁, []) ∧
        s₁.calls[k]? = some (.leaving s.supervisors.length) :=
      ⟨_, by simp [State.step, State.proceed, hcall]; rfl, by simp [hk]⟩
    obtain ⟨s', hleave⟩ := hleaving hnext
    refine ⟨2, s', [.returned .started], ?_, List.mem_singleton_self _⟩
    exact run_cons_eq_some_iff.mpr ⟨s₁, [], _, hspawn, hleave, rfl⟩
  | leaving i =>
    obtain ⟨s', hleave⟩ := hleaving hcall
    exact ⟨1, s', _, hleave, List.mem_singleton_self _⟩
  | _ => cases hc

end Discoverer

end ClusterTopology
