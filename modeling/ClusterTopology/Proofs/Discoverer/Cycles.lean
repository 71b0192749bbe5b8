import Mathlib.Data.List.Forall2
import ClusterTopology.Proofs.Discoverer.Run
/-!
The cycles of a run, and what is published after each.

The steps of a run are sorted into the cycles that they belong to: what the sources have answered in a
cycle, and what the cycle has stored and published.  Seen so, a run is a list of cycles that have come to
their end one after the other, and at its end perhaps one that has not, or that a close has left
behind.  What every cycle publishes is what the last cycle that loaded has found, which is also the
current snapshot.

`Standing` is the invariant: it says for every place where the tasks can be how far the latest cycle
has come.

`ComesTo` says what the answers of a cycle come to: all that has been found, or the first answer that is a
failure or a panic.  `Told` says that the finished cycles are rounds: each replaces the snapshot if it has
loaded, and then puts it into the mailboxes that there are and reports the publication once.  The invariant
is carried by one lemma for each kind of task, `Standing.step` putting them together.  What a reader of the
mailboxes can see is then computed from the rounds alone, by `replay`.
-/

namespace ClusterTopology

/-- Whether an effect belongs to a cycle: a store, or a part of a publication. -/
def Effect.isOfCycle : Effect → Bool
  | .stored _ | .deposited _ _ | .event (.published _ _) => true
  | _ => false

namespace Discoverer

/-! ### The cycles of a run -/

structure Cycle where
  /-- What the sources have answered, in order. -/
  answers : List Outcome
  /-- What has been stored and published, in order. -/
  visible : List Effect
  /-- Whether a close has left it behind. -/
  abandoned : Bool
deriving DecidableEq, Repr

def Cycle.began : Cycle := ⟨[], [], false⟩

def Action.beginsCycle : Action → Bool
  | .supervise _ (.control .launch) | .supervise _ (.control .tick)
  | .supervise _ (.control .refresh) => true
  | _ => false

def Action.abandonsCycle : Action → Bool
  | .supervise _ (.control .abandon) => true
  | _ => false

def WorkerMove.answers : WorkerMove → List Outcome
  | .answer o => [o]
  | _ => []

def Action.answers : Action → List Outcome
  | .supervise _ (.control (.work m)) | .stray _ m => m.answers
  | _ => []

def Cycle.extend (c : Cycle) (a : Action) (es : List Effect) : Cycle where
  answers := c.answers ++ a.answers
  visible := c.visible ++ es.filter Effect.isOfCycle
  abandoned := c.abandoned || a.abandonsCycle

def record (cs : List Cycle) (taken : Taken) : List Cycle :=
  if taken.1.beginsCycle then .began :: cs
  else
    match cs with
    | [] => []
    | c :: past => c.extend taken.1 taken.2 :: past

/-- The cycles of a trace, the latest first. -/
def cyclesOf (tr : List Taken) : List Cycle := tr.foldl record []

@[simp] theorem cyclesOf_append_singleton (tr : List Taken) (taken : Taken) :
    cyclesOf (tr ++ [taken]) = record (cyclesOf tr) taken := by
  simp [cyclesOf]

/-- A step that no cycle has to do with. -/
def Silent (a : Action) (es : List Effect) : Prop :=
  a.beginsCycle = false ∧ a.abandonsCycle = false ∧ a.answers = [] ∧
    es.filter Effect.isOfCycle = []

theorem Silent.record_eq {a : Action} {es : List Effect} (h : Silent a es) (cs : List Cycle) :
    record cs (a, es) = cs := by
  obtain ⟨hbegins, habandons, hanswers, hes⟩ := h
  cases cs with
  | nil => simp [record, hbegins]
  | cons c past => simp [record, hbegins, Cycle.extend, habandons, hanswers, hes]

theorem record_of_beginsCycle {a : Action} (h : a.beginsCycle = true) (es : List Effect)
    (cs : List Cycle) : record cs (a, es) = .began :: cs := by
  simp [record, h]

theorem record_cons {a : Action} (h : a.beginsCycle = false) (es : List Effect) (c : Cycle)
    (past : List Cycle) : record (c :: past) (a, es) = c.extend a es :: past := by
  simp [record, h]

/-! ### What a cycle comes to -/

/-- What a cycle over `n` sources comes to, by what they answer: all that they have found, or the first
answer that is none.  A cycle whose deadline the clock cannot show asks nobody. -/
inductive ComesTo (n : Nat) : List Outcome → Outcome → Prop where
  | loaded (parts : List Snapshot) (h : parts.length = n) :
      ComesTo n (parts.map .loaded) (.loaded parts.flatten)
  | failed (parts : List Snapshot) (e : TopologyError) (h : parts.length < n) :
      ComesTo n (parts.map .loaded ++ [.failed e]) (.failed e)
  | panicked (parts : List Snapshot) (p : Panic) (h : parts.length < n) :
      ComesTo n (parts.map .loaded ++ [.panicked p]) (.panicked p)
  | overflow : ComesTo n [] (.panicked .clockOverflow)

/-- The snapshot after a cycle that has come to an outcome, given the one before it. -/
def keep : Outcome → Snapshot → Snapshot
  | .loaded found, _ => found
  | _, before => before

def stores : Outcome → List Effect
  | .loaded found => [.stored found]
  | _ => []

/-- A snapshot put into the first `n` mailboxes, one after the other. -/
def deposits (n : Nat) (s : Snapshot) : List Effect :=
  (List.range n).map fun i => .deposited i s

def publication (n : Nat) (s : Snapshot) : List Effect :=
  deposits n s ++ [.event (.published n s.length)]

/-- Cycles over `n` sources that have come to their end, the latest first, and the snapshot after them.
Every cycle stores what it has found, if it has loaded, and after that publishes the snapshot once. -/
inductive Told (n : Nat) : List Cycle → Snapshot → Prop where
  | nil : Told n [] []
  | cons {past : List Cycle} {before : Snapshot} {c : Cycle} {o : Outcome} {count : Nat}
      (hpast : Told n past before) (hcomes : ComesTo n c.answers o)
      (hvisible : c.visible = stores o ++ publication count (keep o before))
      (habandoned : c.abandoned = false) : Told n (c :: past) (keep o before)

/-! ### How far the latest cycle has come -/

/-- How far a worker of a cycle over `n` sources has come with it. -/
def Worker.Fits (n : Nat) (c : Cycle) : Worker → Prop
  | .spawned => c.answers = [] ∧ c.visible = []
  | .asking a => c.visible = [] ∧ ∃ parts : List Snapshot,
      c.answers = parts.map .loaded ∧ a.found = parts.flatten ∧ parts.length + a.rest.length + 1 = n
  | .gathered found => c.visible = [] ∧ ComesTo n c.answers (.loaded found)
  | .ended o => c.visible = stores o ∧ ComesTo n c.answers o

/-- The snapshot when a worker has come so far, given the one before its cycle. -/
def Worker.leaves : Worker → Snapshot → Snapshot
  | .ended o, before => keep o before
  | _, before => before

def Supervisor.InCycle : Supervisor → Prop
  | .watching (.cycling _ _) | .watching (.publishing _ _) => True
  | _ => False

/-- Whether a supervisor has no cycles to come. -/
def Supervisor.IsOver : Supervisor → Prop
  | .watching .ended | .returned => True
  | _ => False

/-- How a discoverer over `n` sources stands when its run has had the given cycles. -/
inductive Standing (n : Nat) (s : State) : List Cycle → Prop where
  /-- No cycle is under way. -/
  | idle {cs : List Cycle} (htold : Told n cs s.shared.current) (hstrays : s.strays = [])
      (hidle : ∀ v ∈ s.supervisors, ¬ v.InCycle) : Standing n s cs
  /-- The worker of the latest cycle is at work. -/
  | working {c : Cycle} {past : List Cycle} {before : Snapshot} {ticker : Option Instant}
      {w : Worker} (hloop : s.supervisors = [.watching (.cycling ticker w)])
      (htold : Told n past before) (habandoned : c.abandoned = false) (hfits : w.Fits n c)
      (hcurrent : s.shared.current = w.leaves before) (hstrays : s.strays = []) :
      Standing n s (c :: past)
  /-- The latest cycle is being published. -/
  | publishing {c : Cycle} {past : List Cycle} {before : Snapshot} {ticker : Option Instant}
      {f : Fanout} (hloop : s.supervisors = [.watching (.publishing ticker f)])
      (htold : Told n past before) (habandoned : c.abandoned = false)
      (hcomes : ComesTo n c.answers f.outcome)
      (hvisible : c.visible = stores f.outcome ++ deposits f.done f.snapshot)
      (hdone : f.done ≤ f.count) (hsnapshot : f.snapshot = keep f.outcome before)
      (hcurrent : s.shared.current = f.snapshot) (hstrays : s.strays = []) :
      Standing n s (c :: past)
  /-- A close has left the latest cycle behind, with a worker that has come so far or is gone. -/
  | deserted {c : Cycle} {past : List Cycle} {before : Snapshot} {v : Supervisor} {w : Worker}
      (hloop : s.supervisors = [v]) (hover : v.IsOver) (htold : Told n past before)
      (habandoned : c.abandoned = true) (hfits : w.Fits n c)
      (hcurrent : s.shared.current = w.leaves before) (hstrays : s.strays = [w] ∨ s.strays = []) :
      Standing n s (c :: past)

/-- A worker is left behind only by a supervisor that has no cycles to come, and it is alone. -/
theorem Standing.strays_cases {n : Nat} {s : State} {cs : List Cycle} (h : Standing n s cs) :
    s.strays = [] ∨ ∃ v w, s.supervisors = [v] ∧ v.IsOver ∧ s.strays = [w] := by
  cases h with
  | idle htold hstrays hidle => exact .inl hstrays
  | working hloop htold habandoned hfits hcurrent hstrays => exact .inl hstrays
  | publishing hloop htold habandoned hcomes hvisible hdone hsnapshot hcurrent hstrays =>
    exact .inl hstrays
  | deserted hloop hover htold habandoned hfits hcurrent hstrays =>
    rcases hstrays with hone | hnone
    · exact .inr ⟨_, _, hloop, hover, hone⟩
    · exact .inl hnone

/-! ### Workers and their cycles -/

variable {setup : Setup}

/-- How far a worker has come with a cycle depends on what has been answered and what is visible. -/
theorem Worker.Fits.transfer {n : Nat} {w : Worker} {c c' : Cycle} (h : w.Fits n c)
    (hanswers : c'.answers = c.answers) (hvisible : c'.visible = c.visible) : w.Fits n c' := by
  cases w <;> simpa [Fits, hanswers, hvisible] using h

/-- A step of a worker brings its cycle as far as it brings the worker. -/
theorem Worker.Goes.fits {sh : Shared} {m : WorkerMove} {w : Worker} {t : Turn Worker} {c : Cycle}
    {before : Snapshot} {a : Action} (hgoes : Worker.Goes setup sh m w t)
    (hfits : w.Fits setup.sources.length c) (hcurrent : sh.current = w.leaves before)
    (ha : a.answers = m.answers) :
    t.task.Fits setup.sources.length (c.extend a t.effects) ∧
      t.shared.current = t.task.leaves before := by
  have hextend : ∀ es, (c.extend a es).answers = c.answers ++ m.answers := by simp [Cycle.extend, ha]
  cases hgoes with
  | overflow _ =>
    obtain ⟨hanswers, hvisible⟩ := hfits
    refine ⟨⟨by simp [Cycle.extend, hvisible, Turn.quiet, stores], ?_⟩, hcurrent⟩
    rw [hextend, hanswers]
    exact .overflow
  | begin _ =>
    obtain ⟨hanswers, hvisible⟩ := hfits
    rcases hsources : setup.sources with _ | ⟨name, rest⟩
    · refine ⟨⟨by simp [Cycle.extend, hvisible, Aggregation.start, Aggregation.ask, enter], ?_⟩,
        hcurrent⟩
      rw [hextend, hanswers]
      exact .loaded [] rfl
    · refine ⟨⟨?_, [], by simp [hextend, hanswers, WorkerMove.answers], rfl, by simp⟩, hcurrent⟩
      simp [Cycle.extend, hvisible, Aggregation.start, Aggregation.ask, enter, Effect.isOfCycle]
  | answer g o =>
    obtain ⟨hvisible, parts, hanswers, hfound, hlength⟩ := hfits
    have hmore : ∀ es, (c.extend a es).answers = parts.map .loaded ++ [o] := by
      intro es
      rw [hextend, hanswers]
      rfl
    cases o with
    | loaded s =>
      have hparts : ∀ es, (c.extend a es).answers = (parts ++ [s]).map .loaded := by simp [hmore]
      have hflat : g.found ++ s = (parts ++ [s]).flatten := by simp [hfound]
      rcases hrest : g.rest with _ | ⟨name, rest⟩
      · simp only [Aggregation.answer, Aggregation.ask, hrest, enter]
        refine ⟨⟨by simp [Cycle.extend, hvisible, Effect.ofEvents, Effect.isOfCycle], ?_⟩, hcurrent⟩
        rw [hparts, hflat]
        exact .loaded (parts ++ [s]) (by simpa [hrest] using hlength)
      · simp only [Aggregation.answer, Aggregation.ask, hrest, enter]
        refine ⟨⟨by simp [Cycle.extend, hvisible, Effect.ofEvents, Effect.isOfCycle],
          parts ++ [s], hparts _, hflat, ?_⟩, hcurrent⟩
        simp only [hrest, List.length_cons] at hlength
        simp only [List.length_append, List.length_singleton]
        omega
    | failed e =>
      refine ⟨⟨?_, hmore _ ▸ .failed parts e (by omega)⟩, hcurrent⟩
      simp [Cycle.extend, hvisible, stores, Aggregation.answer, enter, Effect.ofEvents,
        Effect.isOfCycle]
    | panicked p =>
      refine ⟨⟨?_, hmore _ ▸ .panicked parts p (by omega)⟩, hcurrent⟩
      simp [Cycle.extend, hvisible, stores, Aggregation.answer, enter, Effect.ofEvents]
  | store s =>
    obtain ⟨hvisible, hcomes⟩ := hfits
    refine ⟨⟨by simp [Cycle.extend, hvisible, stores, Effect.isOfCycle], ?_⟩, rfl⟩
    rw [hextend]
    simpa [WorkerMove.answers] using hcomes

/-! ### One step -/

/-- Everything visible of cycles given latest first, in order. -/
def visibleOf (cs : List Cycle) : List Effect := cs.reverse.flatMap (·.visible)

/-- After a step the discoverer stands as the cycles with that step say, and these have everything
visible that the step has done. -/
def Continues (n : Nat) (s : State) (cs : List Cycle) (taken : Taken) : Prop :=
  Standing n s (record cs taken) ∧
    visibleOf (record cs taken) = visibleOf cs ++ taken.2.filter Effect.isOfCycle

theorem Silent.continues {n : Nat} {s : State} {cs : List Cycle} {a : Action} {es : List Effect}
    (hsilent : Silent a es) (h : Standing n s cs) : Continues n s cs (a, es) := by
  unfold Continues
  rw [hsilent.record_eq]
  exact ⟨h, by simp [hsilent.2.2.2]⟩

theorem continues_of_beginsCycle {n : Nat} {s : State} {cs : List Cycle} {a : Action}
    {es : List Effect} (ha : a.beginsCycle = true) (hes : es.filter Effect.isOfCycle = [])
    (h : Standing n s (.began :: cs)) : Continues n s cs (a, es) := by
  unfold Continues
  rw [record_of_beginsCycle ha]
  exact ⟨h, by simp [visibleOf, Cycle.began, hes]⟩

theorem continues_of_extend {n : Nat} {s : State} {c : Cycle} {past : List Cycle} {a : Action}
    {es : List Effect} (ha : a.beginsCycle = false)
    (h : Standing n s (c.extend a es :: past)) : Continues n s (c :: past) (a, es) := by
  unfold Continues
  rw [record_cons ha]
  exact ⟨h, by simp [visibleOf, Cycle.extend]⟩

/-- Nothing but the current snapshot, the supervisor and the workers left behind matters. -/
theorem Standing.transfer {n : Nat} {s s' : State} {cs : List Cycle} (h : Standing n s cs)
    (hcurrent : s'.shared.current = s.shared.current) (hsupervisors : s'.supervisors = s.supervisors)
    (hstrays : s'.strays = s.strays) : Standing n s' cs := by
  cases h with
  | idle htold hnone hidle =>
    exact .idle (hcurrent ▸ htold) (hstrays.trans hnone) (hsupervisors ▸ hidle)
  | working hloop htold habandoned hfits hcur hnone =>
    exact .working (hsupervisors.trans hloop) htold habandoned hfits (hcurrent.trans hcur)
      (hstrays.trans hnone)
  | publishing hloop htold habandoned hcomes hvisible hdone hsnapshot hcur hnone =>
    exact .publishing (hsupervisors.trans hloop) htold habandoned hcomes hvisible hdone hsnapshot
      (hcurrent.trans hcur) (hstrays.trans hnone)
  | deserted hloop hover htold habandoned hfits hcur hleft =>
    exact .deserted (hsupervisors.trans hloop) hover htold habandoned hfits (hcurrent.trans hcur)
      (hstrays ▸ hleft)

/-- A supervisor that is in no cycle goes on, perhaps into one. -/
theorem Supervisor.Goes.continues_idle {s : State} {cs : List Cycle} {i : Nat} {m : SupervisorMove}
    {v : Supervisor} {t : Turn Supervisor} (hgoes : Goes setup s.shared m v t)
    (hi : s.supervisors.set i t.task = [t.task])
    (htold : Told setup.sources.length cs s.shared.current) (hstrays : s.strays = [])
    (hidle : ¬ v.InCycle) :
    Continues setup.sources.length (s.adopt i t).1 cs (.supervise i m, t.effects) := by
  have hstay (hcurrent : t.shared.current = s.shared.current) (hleft : t.strays = [])
      (hv : ¬ t.task.InCycle) : Standing setup.sources.length (s.adopt i t).1 cs := by
    refine .idle (hcurrent ▸ htold) (by simp [State.adopt, hstrays, hleft]) ?_
    simpa [State.adopt, hi] using hv
  have hbegin {ticker : Option Instant} (hcurrent : t.shared.current = s.shared.current)
      (hleft : t.strays = []) (hv : t.task = .watching (.cycling ticker .spawned)) :
      Standing setup.sources.length (s.adopt i t).1 (.began :: cs) := by
    refine .working (w := .spawned) (by rw [← hv]; exact hi) htold rfl ⟨rfl, rfl⟩ hcurrent ?_
    simp [State.adopt, hstrays, hleft]
  cases hgoes with
  | spawn => exact Silent.continues ⟨rfl, rfl, rfl, rfl⟩ (hstay rfl rfl id)
  | control h =>
    cases h with
    | launch => exact continues_of_beginsCycle rfl rfl (hbegin rfl rfl rfl)
    | work ticker h => exact absurd trivial hidle
    | join ticker o => exact absurd trivial hidle
    | abandon ticker w hclosed => exact absurd trivial hidle
    | deposit ticker f h => exact absurd trivial hidle
    | report h hdue => exact absurd trivial hidle
    | reportOverflow h hadd => exact absurd trivial hidle
    | stop hwaits hclosed => exact Silent.continues ⟨rfl, rfl, rfl, rfl⟩ (hstay rfl rfl id)
    | tick hwaits hdue => exact continues_of_beginsCycle rfl rfl (hbegin rfl rfl rfl)
    | refreshStored due h => exact continues_of_beginsCycle rfl rfl (hbegin rfl rfl rfl)
    | refreshWoken due => exact continues_of_beginsCycle rfl rfl (hbegin rfl rfl rfl)
    | park due hopen hdue hpermit => exact Silent.continues ⟨rfl, rfl, rfl, rfl⟩ (hstay rfl rfl id)
    | crash hwaits p => exact Silent.continues ⟨rfl, rfl, rfl, rfl⟩ (hstay rfl rfl id)
  | finish => exact Silent.continues ⟨rfl, rfl, rfl, rfl⟩ (hstay rfl rfl id)
  | pause p => exact Silent.continues ⟨rfl, rfl, rfl, rfl⟩ (hstay rfl rfl id)
  | wake h => exact Silent.continues ⟨rfl, rfl, rfl, rfl⟩ (hstay rfl rfl id)
  | leave time hclosed => exact Silent.continues ⟨rfl, rfl, rfl, rfl⟩ (hstay rfl rfl id)

/-- A control loop whose worker is at work goes on with the cycle, publishes it or leaves it behind. -/
theorem Loop.Goes.continues_working {s : State} {c : Cycle} {past : List Cycle} {before : Snapshot}
    {ticker : Option Instant} {w : Worker} {i : Nat} {m : LoopMove} {t : Turn Loop}
    (hgoes : Goes setup s.shared m (.cycling ticker w) t)
    (hi : s.supervisors.set i (.watching t.task) = [.watching t.task])
    (htold : Told setup.sources.length past before) (habandoned : c.abandoned = false)
    (hfits : w.Fits setup.sources.length c) (hcurrent : s.shared.current = w.leaves before)
    (hstrays : s.strays = []) :
    Continues setup.sources.length (s.adopt i (t.map .watching)).1 (c :: past)
      (.supervise i (.control m), t.effects) := by
  cases hgoes with
  | @work m w t ticker h =>
    have hleft : t.strays = [] := by cases h <;> rfl
    obtain ⟨hfits', hcurrent'⟩ :=
      h.fits (a := .supervise i (.control (.work m))) hfits hcurrent rfl
    refine continues_of_extend rfl (.working hi htold ?_ hfits' hcurrent' ?_)
    · simp [Cycle.extend, habandoned, Action.abandonsCycle]
    · simp [State.adopt, Turn.map, hstrays, hleft]
  | join ticker o =>
    obtain ⟨hvisible, hcomes⟩ := hfits
    refine continues_of_extend rfl (.publishing hi htold ?_ ?_ ?_ (Nat.zero_le _) hcurrent rfl ?_)
    · simp [Cycle.extend, habandoned, Action.abandonsCycle]
    · simpa [Cycle.extend, Action.answers] using hcomes
    · cases o <;> simp [Cycle.extend, hvisible, deposits, workerEvents, Turn.reporting,
        Effect.ofEvents, Effect.isOfCycle]
    · simp [State.adopt, Turn.map, Turn.reporting, hstrays]
  | abandon ticker w hclosed =>
    refine continues_of_extend rfl
      (.deserted (w := w) hi trivial htold (by simp [Cycle.extend, Action.abandonsCycle])
        (hfits.transfer ?_ ?_) hcurrent (.inl (by simp [State.adopt, Turn.map, hstrays])))
    · simp [Cycle.extend, Action.answers]
    · cases ticker <;> simp [Cycle.extend, Effect.isOfCycle]
  | stop hwaits hclosed => cases hwaits
  | tick hwaits hdue => cases hwaits
  | crash hwaits p => cases hwaits

/-- Of what a loop reports of a cycle, the publication belongs to it. -/
theorem Loop.filter_report (count components : Nat) (isFirst : Bool) (o : Outcome) :
    (Effect.ofEvents (.published count components :: cycleEvents isFirst o)).filter
      Effect.isOfCycle = [.event (.published count components)] := by
  cases o <;> cases isFirst <;> rfl

/-- A control loop that publishes goes on with it, and comes to the end of the cycle when all mailboxes
are written. -/
theorem Loop.Goes.continues_publishing {s : State} {c : Cycle} {past : List Cycle}
    {before : Snapshot} {ticker : Option Instant} {f : Fanout} {i : Nat} {m : LoopMove}
    {t : Turn Loop} (hgoes : Goes setup s.shared m (.publishing ticker f) t)
    (hi : s.supervisors.set i (.watching t.task) = [.watching t.task])
    (htold : Told setup.sources.length past before) (habandoned : c.abandoned = false)
    (hcomes : ComesTo setup.sources.length c.answers f.outcome)
    (hvisible : c.visible = stores f.outcome ++ deposits f.done f.snapshot)
    (hdone : f.done ≤ f.count) (hsnapshot : f.snapshot = keep f.outcome before)
    (hcurrent : s.shared.current = f.snapshot) (hstrays : s.strays = []) :
    Continues setup.sources.length (s.adopt i (t.map .watching)).1 (c :: past)
      (.supervise i (.control m), t.effects) := by
  -- wherever the loop goes from there, the cycle is complete when its report is made
  have hends {t : Turn Loop} (hle : f.count ≤ f.done)
      (hreport : t.effects.filter Effect.isOfCycle = [.event (.published f.count f.snapshot.length)])
      (hsame : t.shared = s.shared) (hleft : t.strays = [])
      (hi : s.supervisors.set i (.watching t.task) = [.watching t.task])
      (hidle : ¬ (Supervisor.watching t.task).InCycle) :
      Continues setup.sources.length (s.adopt i (t.map .watching)).1 (c :: past)
        (.supervise i (.control .report), t.effects) := by
    have hcount : f.done = f.count := Nat.le_antisymm hdone hle
    have hcomplete : Told setup.sources.length
        (c.extend (.supervise i (.control .report)) t.effects :: past) (keep f.outcome before) := by
      refine .cons htold ?_ (?_ : _ = _ ++ publication f.count _) ?_
      · simpa [Cycle.extend, Action.answers] using hcomes
      · simp [Cycle.extend, hvisible, hreport, publication, hcount, hsnapshot]
      · simp [Cycle.extend, habandoned, Action.abandonsCycle]
    refine continues_of_extend rfl (.idle ?_ (by simp [State.adopt, Turn.map, hstrays, hleft]) ?_)
    · simpa [State.adopt, Turn.map, hsame, hcurrent, hsnapshot] using hcomplete
    · simpa [State.adopt, Turn.map, hi] using hidle
  cases hgoes with
  | deposit ticker f hlt =>
    refine continues_of_extend rfl (.publishing hi htold ?_ ?_ ?_ hlt hsnapshot hcurrent ?_)
    · simp [Cycle.extend, habandoned, Action.abandonsCycle]
    · simpa [Cycle.extend, Action.answers] using hcomes
    · simp [Cycle.extend, hvisible, deposits, List.range_succ, Effect.isOfCycle]
    · simp [State.adopt, Turn.map, hstrays]
  | report hle hdue => exact hends hle (filter_report _ _ _ _) rfl rfl hi id
  | reportOverflow hle hadd => exact hends hle (filter_report _ _ _ _) rfl rfl hi id
  | stop hwaits hclosed => cases hwaits
  | tick hwaits hdue => cases hwaits
  | crash hwaits p => cases hwaits

/-- A supervisor with no cycles to come does nothing but end. -/
theorem Supervisor.Goes.over {sh : Shared} {m : SupervisorMove} {v : Supervisor}
    {t : Turn Supervisor} (hgoes : Goes setup sh m v t) (hover : v.IsOver) :
    m = .observe ∧ t = .quiet .returned sh := by
  cases hgoes with
  | control h =>
    cases h with
    | stop hwaits hclosed => cases hwaits <;> exact hover.elim
    | tick hwaits hdue => cases hwaits <;> exact hover.elim
    | crash hwaits p => cases hwaits <;> exact hover.elim
    | _ => exact hover.elim
  | finish => exact ⟨rfl, rfl⟩
  | _ => exact hover.elim

/-- A step of the closing of the sources belongs to no cycle. -/
theorem State.filter_enterClosing (s : State) (k : Nat) {events : List Event}
    (hevents : ∀ event ∈ events, (Effect.event event).isOfCycle = false) (stage : Closing.Stage) :
    (s.enterClosing k events stage).2.filter Effect.isOfCycle = [] := by
  rw [List.filter_eq_nil_iff]
  intro e he
  rcases mem_enterClosing he with ⟨event, hevent, rfl⟩ | rfl | ⟨_, rfl⟩ | ⟨_, rfl⟩
  · rw [hevents event hevent]
    exact Bool.false_ne_true
  all_goals exact Bool.false_ne_true

/-- **One step keeps the standing.** -/
theorem Standing.step {s s' : State} {cs : List Cycle} {a : Action} {es : List Effect}
    (hsole : s.IsSole) (h : Standing setup.sources.length s cs) (hgoes : State.Goes setup s a s' es) :
    Continues setup.sources.length s' cs (a, es) := by
  have hclosing : ∀ {a} k events stage, a.beginsCycle = false → a.abandonsCycle = false →
      a.answers = [] → (∀ event ∈ events, (Effect.event event).isOfCycle = false) →
      Continues setup.sources.length (s.enterClosing k events stage).1 cs
        (a, (s.enterClosing k events stage).2) := by
    intro a k events stage hbegins habandons hanswers hevents
    exact Silent.continues ⟨hbegins, habandons, hanswers, s.filter_enterClosing k hevents stage⟩
      (h.transfer (by simp) (by simp) (by simp))
  cases hgoes with
  | elapse d => exact Silent.continues ⟨rfl, rfl, rfl, rfl⟩ (h.transfer rfl rfl rfl)
  | subscribe _ => exact Silent.continues ⟨rfl, rfl, rfl, rfl⟩ (h.transfer rfl rfl rfl)
  | startAgain _ _ => exact Silent.continues ⟨rfl, rfl, rfl, rfl⟩ h
  | start _ _ => exact Silent.continues ⟨rfl, rfl, rfl, rfl⟩ (h.transfer rfl rfl rfl)
  | close _ => exact Silent.continues ⟨rfl, rfl, rfl, rfl⟩ (h.transfer rfl rfl rfl)
  | drop _ _ => exact Silent.continues ⟨rfl, rfl, rfl, rfl⟩ (h.transfer rfl rfl rfl)
  | subscribed hcall =>
    refine Silent.continues ⟨rfl, rfl, rfl, rfl⟩ ?_
    rcases hsole.notify_eq with ⟨due, hparked, hnotify⟩ | ⟨-, hnotify⟩
    · -- only a loop at its wait is woken, so no cycle is under way
      cases h with
      | idle htold hstrays hidle =>
        refine .idle (by simpa [State.finish, hnotify] using htold)
          (by simpa [State.finish, hnotify] using hstrays) ?_
        simp [State.finish, hnotify, Supervisor.InCycle]
      | working hloop => simp [hparked] at hloop
      | publishing hloop => simp [hparked] at hloop
      | deserted hloop hover =>
        rw [hparked] at hloop
        cases hloop
        exact hover.elim
    · exact h.transfer (by simp [State.finish, hnotify]) (by simp [State.finish, hnotify])
        (by simp [State.finish, hnotify])
  | spawned hcall =>
    refine Silent.continues ⟨rfl, rfl, rfl, rfl⟩ ?_
    obtain ⟨hnil, -⟩ := hsole.nil_of_starting hcall
    cases h with
    | idle htold hstrays hidle =>
      exact .idle htold hstrays (by simp [hnil, Supervisor.InCycle])
    | working hloop => simp [hnil] at hloop
    | publishing hloop => simp [hnil] at hloop
    | deserted hloop hover => simp [hnil] at hloop
  | left _ => exact Silent.continues ⟨rfl, rfl, rfl, rfl⟩ (h.transfer rfl rfl rfl)
  | taken _ _ => exact Silent.continues ⟨rfl, rfl, rfl, rfl⟩ (h.transfer rfl rfl rfl)
  | unsupervised _ _ => exact hclosing _ _ _ rfl rfl rfl (by simp)
  | joined _ _ => exact hclosing _ _ _ rfl rfl rfl (by simp)
  | @sourceClosed k c r _ =>
    refine hclosing _ _ _ rfl rfl rfl ?_
    cases r <;> simp [Closing.answer, Effect.isOfCycle]
  | @supervise i m v t hv hgoes =>
    obtain ⟨rfl, hone⟩ := hsole.eq_singleton hv
    have hi : ∀ v', s.supervisors.set 0 v' = [v'] := by simp [hone]
    cases h with
    | idle htold hstrays hidle =>
      exact hgoes.continues_idle (hi _) htold hstrays (hidle v (by simp [hone]))
    | working hloop htold habandoned hfits hcurrent hstrays =>
      obtain rfl : v = _ := by simpa [hone] using hloop
      cases hgoes with
      | control hgoes =>
        exact hgoes.continues_working (hi _) htold habandoned hfits hcurrent hstrays
    | publishing hloop htold habandoned hcomes hvisible hdone hsnapshot hcurrent hstrays =>
      obtain rfl : v = _ := by simpa [hone] using hloop
      cases hgoes with
      | control hgoes =>
        exact hgoes.continues_publishing (hi _) htold habandoned hcomes hvisible hdone hsnapshot
          hcurrent hstrays
    | deserted hloop hover htold habandoned hfits hcurrent hstrays =>
      obtain rfl : v = _ := by simpa [hone] using hloop
      obtain ⟨rfl, rfl⟩ := hgoes.over hover
      refine Silent.continues ⟨rfl, rfl, rfl, rfl⟩ ?_
      exact .deserted (hi _) trivial htold habandoned hfits hcurrent
        (by simpa [State.adopt, Turn.quiet] using hstrays)
  | @stray j m w t hw hgoes =>
    cases h with
    | idle htold hstrays hidle => simp [hstrays] at hw
    | working hloop htold habandoned hfits hcurrent hstrays => simp [hstrays] at hw
    | publishing hloop htold habandoned hcomes hvisible hdone hsnapshot hcurrent hstrays =>
      simp [hstrays] at hw
    | deserted hloop hover htold habandoned hfits hcurrent hstrays =>
      rcases hstrays with hstrays | hstrays
      · obtain ⟨rfl, rfl⟩ : j = 0 ∧ w = _ := by
          rw [hstrays] at hw
          cases j with
          | zero => exact ⟨rfl, (Option.some.inj hw).symm⟩
          | succ j => simp at hw
        obtain ⟨hfits', hcurrent'⟩ := hgoes.fits (a := .stray 0 m) hfits hcurrent rfl
        refine continues_of_extend rfl (.deserted hloop hover htold ?_ hfits' hcurrent' ?_)
        · simp [Cycle.extend, habandoned]
        · simp [hstrays]
      · simp [hstrays] at hw
  | discard hj =>
    refine Silent.continues ⟨rfl, rfl, rfl, rfl⟩ ?_
    cases h with
    | idle htold hstrays hidle => simp [hstrays] at hj
    | working hloop htold habandoned hfits hcurrent hstrays => simp [hstrays] at hj
    | publishing hloop htold habandoned hcomes hvisible hdone hsnapshot hcurrent hstrays =>
      simp [hstrays] at hj
    | deserted hloop hover htold habandoned hfits hcurrent hstrays =>
      rcases hstrays with hstrays | hstrays
      · refine .deserted hloop hover htold habandoned hfits hcurrent (.inr ?_)
        rw [hstrays, List.length_singleton, Nat.lt_one_iff] at hj
        simp [hj, hstrays]
      · simp [hstrays] at hj
  | read _ => exact Silent.continues ⟨rfl, rfl, rfl, rfl⟩ (h.transfer rfl rfl rfl)
  | giveUp _ => exact Silent.continues ⟨rfl, rfl, rfl, rfl⟩ (h.transfer rfl rfl rfl)

/-! ### Whole runs -/

/-- The snapshot that is current after some effects, given the one before them: the one stored last. -/
def replay : Snapshot → List Effect → Snapshot
  | before, [] => before
  | _, .stored s :: es => replay s es
  | before, _ :: es => replay before es

/-- What cycles make visible one after the other, each with its outcome and the number of mailboxes
there were.  Every one publishes the result of the last one that loaded. -/
def visibleRounds : Snapshot → List (Outcome × Nat) → List Effect
  | _, [] => []
  | before, (o, count) :: rounds =>
    stores o ++ publication count (keep o before) ++ visibleRounds (keep o before) rounds

theorem replay_append (before : Snapshot) (es₁ es₂ : List Effect) :
    replay before (es₁ ++ es₂) = replay (replay before es₁) es₂ := by
  induction es₁ generalizing before with
  | nil => rfl
  | cons e es₁ ih => cases e <;> exact ih _

theorem replay_filter (before : Snapshot) (es : List Effect) :
    replay before (es.filter Effect.isOfCycle) = replay before es := by
  induction es generalizing before with
  | nil => rfl
  | cons e es ih =>
    cases e with
    | event e => cases e <;> exact ih _
    | _ => exact ih _

theorem replay_stores (o : Outcome) (before : Snapshot) : replay before (stores o) = keep o before := by
  cases o <;> rfl

theorem replay_deposits (before s : Snapshot) (n : Nat) : replay before (deposits n s) = before := by
  induction n with
  | zero => rfl
  | succ n ih =>
    have hmore : deposits (n + 1) s = deposits n s ++ [.deposited n s] := by
      simp [deposits, List.range_succ]
    rw [hmore, replay_append, ih]
    rfl

/-- A round leaves what its cycle leaves, whatever it publishes. -/
theorem replay_round (before s : Snapshot) (o : Outcome) (count : Nat) :
    replay before (stores o ++ publication count s) = keep o before := by
  rw [replay_append, replay_stores, publication, replay_append, replay_deposits]
  rfl

theorem visibleOf_cons (c : Cycle) (past : List Cycle) :
    visibleOf (c :: past) = visibleOf past ++ c.visible := by
  simp [visibleOf]

theorem Told.replay_eq {n : Nat} {cs : List Cycle} {last : Snapshot} (h : Told n cs last) :
    replay [] (visibleOf cs) = last := by
  induction h with
  | nil => rfl
  | cons hpast hcomes hvisible habandoned ih =>
    rw [visibleOf_cons, hvisible, replay_append, ih, replay_round]

theorem visibleRounds_append_singleton (before : Snapshot) (rounds : List (Outcome × Nat))
    (o : Outcome) (count : Nat) :
    visibleRounds before (rounds ++ [(o, count)]) = visibleRounds before rounds ++
      (stores o ++ publication count (keep o (replay before (visibleRounds before rounds)))) := by
  induction rounds generalizing before with
  | nil => simp [visibleRounds, replay]
  | cons round rounds ih =>
    obtain ⟨o', count'⟩ := round
    rw [List.cons_append, visibleRounds, ih, visibleRounds, replay_append, replay_round]
    simp only [List.append_assoc]

/-- Cycles that have come to their end are rounds of publications of the running result. -/
theorem Told.exists_rounds {n : Nat} {cs : List Cycle} {last : Snapshot} (h : Told n cs last) :
    ∃ rounds : List (Outcome × Nat),
      List.Forall₂ (fun c round => ComesTo n c.answers round.1) cs.reverse rounds ∧
        visibleOf cs = visibleRounds [] rounds := by
  induction h with
  | nil => exact ⟨[], .nil, rfl⟩
  | @cons past before c o count hpast hcomes hvisible habandoned ih =>
    obtain ⟨rounds, hrounds, heq⟩ := ih
    refine ⟨rounds ++ [(o, count)], ?_, ?_⟩
    · rw [List.reverse_cons]
      exact List.rel_append hrounds (.cons hcomes .nil)
    · rw [visibleOf_cons, hvisible, visibleRounds_append_singleton, ← heq, hpast.replay_eq]

/-- The latest cycle of a run, if it has not come to its end, and the current snapshot, given the one
before that cycle. -/
inductive Latest (n : Nat) (s : State) (before : Snapshot) : List Cycle → Prop where
  /-- All cycles have come to their end. -/
  | none (hidle : ∀ v ∈ s.supervisors, ¬ v.InCycle) (hcurrent : s.shared.current = before) :
      Latest n s before []
  /-- Nothing has been stored or published yet. -/
  | asking {c : Cycle} {v : Supervisor} (hloop : s.supervisors = [v]) (hcycle : v.InCycle)
      (habandoned : c.abandoned = false) (hvisible : c.visible = [])
      (hcurrent : s.shared.current = before) : Latest n s before [c]
  /-- The outcome is there, and has been published in part. -/
  | publishing {c : Cycle} {v : Supervisor} {o : Outcome} {done : Nat} (hloop : s.supervisors = [v])
      (hcycle : v.InCycle) (habandoned : c.abandoned = false) (hcomes : ComesTo n c.answers o)
      (hvisible : c.visible = stores o ++ deposits done (keep o before))
      (hcurrent : s.shared.current = keep o before) : Latest n s before [c]
  /-- A close has left it behind before it stored anything. -/
  | abandoned {c : Cycle} (habandoned : c.abandoned = true) (hvisible : c.visible = [])
      (hcurrent : s.shared.current = before) : Latest n s before [c]
  /-- A close has left it behind, and it has stored all that it found. -/
  | abandonedStored {c : Cycle} {found : Snapshot} (habandoned : c.abandoned = true)
      (hcomes : ComesTo n c.answers (.loaded found)) (hvisible : c.visible = [.stored found])
      (hcurrent : s.shared.current = found) : Latest n s before [c]

theorem Standing.latest {n : Nat} {s : State} {cs : List Cycle} (h : Standing n s cs) :
    ∃ rest ended before, cs = rest ++ ended ∧ Told n ended before ∧ Latest n s before rest := by
  cases h with
  | idle htold hstrays hidle => exact ⟨[], cs, _, rfl, htold, .none hidle rfl⟩
  | @working c past before ticker w hloop htold habandoned hfits hcurrent hstrays =>
    refine ⟨[c], past, before, rfl, htold, ?_⟩
    cases w with
    | spawned => exact .asking hloop trivial habandoned hfits.2 hcurrent
    | asking a => exact .asking hloop trivial habandoned hfits.1 hcurrent
    | gathered found => exact .asking hloop trivial habandoned hfits.1 hcurrent
    | ended o =>
      exact .publishing hloop trivial habandoned hfits.2
        (hfits.1.trans (by simp [deposits] : stores o = stores o ++ deposits 0 _)) hcurrent
  | @publishing c past before ticker f hloop htold habandoned hcomes hvisible hdone hsnapshot
      hcurrent hstrays =>
    refine ⟨[c], past, before, rfl, htold, ?_⟩
    rw [hsnapshot] at hvisible hcurrent
    exact .publishing hloop trivial habandoned hcomes hvisible hcurrent
  | @deserted c past before v w hloop hover htold habandoned hfits hcurrent hstrays =>
    refine ⟨[c], past, before, rfl, htold, ?_⟩
    cases w with
    | spawned => exact .abandoned habandoned hfits.2 hcurrent
    | asking a => exact .abandoned habandoned hfits.1 hcurrent
    | gathered found => exact .abandoned habandoned hfits.1 hcurrent
    | ended o =>
      cases o with
      | loaded found => exact .abandonedStored habandoned hfits.2 hfits.1 hcurrent
      | failed e => exact .abandoned habandoned hfits.1 hcurrent
      | panicked p => exact .abandoned habandoned hfits.1 hcurrent

/-- How a discoverer stands after a run, and that its cycles account for all that was stored and
published. -/
theorem standing_of_run {now : Instant} {as : List Action} {s : State} {es : List Effect}
    (hrun : run setup (State.new now) as = some (s, es)) :
    Standing setup.sources.length s (cyclesOf (trace setup (State.new now) as)) ∧
      visibleOf (cyclesOf (trace setup (State.new now) as)) = es.filter Effect.isOfCycle := by
  have hkept := reached_induction
    (P := fun s tr => Standing setup.sources.length s (cyclesOf tr) ∧
      visibleOf (cyclesOf tr) = (effectsOf tr).filter Effect.isOfCycle)
    ⟨.idle .nil rfl (by simp [State.new]), rfl⟩ ?_ hrun
  · rw [effectsOf_trace hrun] at hkept
    exact hkept.1
  · intro s s' tr a es hsole h hgoes
    obtain ⟨hstanding, hvisible⟩ := h.1.step hsole hgoes
    rw [cyclesOf_append_singleton]
    exact ⟨hstanding, by simp [hvisible, h.2]⟩

/-- **The current snapshot, and every snapshot that is published, is the result of the last cycle that
loaded.**  The cycles of a run come to their end one after the other, but for the latest, which may
be under way or have been left behind.  Each that has ended stores what all sources have answered
together, if it has loaded, and then publishes once: to the mailboxes there are, the result of the
last cycle that loaded, which is empty when there was none.  So the stores and publications of a run
are those rounds in order, and the current snapshot is the one stored last. -/
theorem published_snapshots_are_last_loaded {now : Instant} {as : List Action} {s : State}
    {es : List Effect} (hrun : run setup (State.new now) as = some (s, es)) :
    ∃ rest ended before rounds,
      cyclesOf (trace setup (State.new now) as) = rest ++ ended ∧
      Told setup.sources.length ended before ∧
      Latest setup.sources.length s before rest ∧
      List.Forall₂ (fun c round => ComesTo setup.sources.length c.answers round.1)
        ended.reverse rounds ∧
      es.filter Effect.isOfCycle = visibleRounds [] rounds ++ rest.flatMap (·.visible) ∧
      s.shared.current = replay [] es := by
  obtain ⟨hstanding, hvisible⟩ := standing_of_run hrun
  obtain ⟨rest, ended, before, hcycles, htold, hlatest⟩ := hstanding.latest
  obtain ⟨rounds, hrounds, heq⟩ := htold.exists_rounds
  have hreverse : rest.reverse.flatMap (·.visible) = rest.flatMap (·.visible) := by
    cases hlatest <;> rfl
  have hall : es.filter Effect.isOfCycle = visibleRounds [] rounds ++ rest.flatMap (·.visible) := by
    rw [← hvisible, hcycles, ← heq, ← hreverse]
    simp [visibleOf]
  refine ⟨rest, ended, before, rounds, hcycles, htold, hlatest, hrounds, hall, ?_⟩
  rw [← replay_filter, hall, replay_append, ← heq, htold.replay_eq]
  cases hlatest with
  | none _ hcurrent => exact hcurrent
  | asking _ _ _ hvisible hcurrent => simp [hvisible, replay, hcurrent]
  | publishing _ _ _ _ hvisible hcurrent =>
    simp [hvisible, replay_append, replay_stores, replay_deposits, hcurrent]
  | abandoned _ hvisible hcurrent => simp [hvisible, replay, hcurrent]
  | abandonedStored _ _ hvisible hcurrent => simp [hvisible, replay, hcurrent]

/-- A setup of two sources with a period of ten nanoseconds. -/
def twoSources : Setup := { oneSource with sources := ["etcd", "pd"] }

/-- A run over two sources whose cycles load, fail in the first source, panic in the second, and are
left behind by a close with everything gathered and not stored.  A mailbox is registered before the
start, and one while the second cycle is published. -/
def eventfulRun : List Action :=
  let loop (m : LoopMove) : Action := .supervise 0 (.control m)
  let work (m : WorkerMove) : Action := loop (.work m)
  let tidb : Component := ⟨.tidb, "10.0.0.1", 4000, 10080⟩
  let pd : Component := ⟨.pd, "10.0.0.2", 2379, 2379⟩
  [.subscribe, .proceed 0, .start, .proceed 0, .proceed 0, .supervise 0 .spawn,
    loop .launch, work .begin, work (.answer (.loaded [tidb])), work (.answer (.loaded [pd])),
    work .store, loop .join, loop .deposit, loop .report,
    loop .refresh, work .begin, work (.answer (.failed (.closed "etcd"))), loop .join, .subscribe,
    loop .deposit, loop .report, .proceed 0, .elapse 20,
    loop .tick, work .begin, work (.answer (.loaded [])), work (.answer (.panicked .clockOverflow)),
    loop .join, loop .deposit, loop .deposit, loop .report, .close,
    loop .refresh, work .begin, work (.answer (.loaded [pd])), work (.answer (.loaded [pd])),
    loop .abandon, .stray 0 .store, .discard 0, .supervise 0 .observe]

theorem eventfulRun_publishes_last_loaded :
    ∃ s es, run twoSources (State.new 0) eventfulRun = some (s, es) ∧
      ∃ rest ended before rounds,
        cyclesOf (trace twoSources (State.new 0) eventfulRun) = rest ++ ended ∧
        Told 2 ended before ∧ Latest 2 s before rest ∧
        List.Forall₂ (fun c round => ComesTo 2 c.answers round.1) ended.reverse rounds ∧
        es.filter Effect.isOfCycle = visibleRounds [] rounds ++ rest.flatMap (·.visible) ∧
        s.shared.current = replay [] es := by
  have hsome : (run twoSources (State.new 0) eventfulRun).isSome = true := by rfl
  obtain ⟨⟨s, es⟩, hrun⟩ := Option.isSome_iff_exists.mp hsome
  exact ⟨s, es, hrun, published_snapshots_are_last_loaded hrun⟩

end Discoverer

end ClusterTopology
