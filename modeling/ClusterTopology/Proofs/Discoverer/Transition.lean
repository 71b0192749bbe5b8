import ClusterTopology.Discoverer
/-!
The steps of a discoverer as rules.

`State.step` computes what follows an action.  A statement about all runs asks the other way round: what
can a step have been?  The relations below answer that, one rule for each way in which a task can move,
with everything that the rule asks for and does.  Proofs about runs go by cases on the rules and do not
open the step functions again.

For each of the four step functions there is a relation and a lemma that a step is one of its rules:
`Worker.goes_of_move`, `Loop.goes_of_move`, `Supervisor.goes_of_move` and `goes_of_step`.  Two more facts
come from the rules at once, since many proofs begin with them: what the steps of a task leave alone
(`frame`), and which effects are those of a worker or of a task.  When a step function changes, its rules
and the lemma beside them change, and after that only the proofs by cases in which a rule is new.
-/

namespace ClusterTopology.Discoverer

/-! ### Workers -/

inductive Worker.Goes (setup : Setup) (sh : Shared) : WorkerMove → Worker → Turn Worker → Prop where
  | overflow (h : Instant.add? sh.now setup.interval = none) :
      Goes setup sh .begin .spawned (.quiet (.ended (.panicked .clockOverflow)) sh)
  | begin {deadline : Instant} (h : Instant.add? sh.now setup.interval = some deadline) :
      Goes setup sh .begin .spawned
        ⟨(enter sh.now (Aggregation.start deadline setup.sources)).1, sh,
          (enter sh.now (Aggregation.start deadline setup.sources)).2, []⟩
  | answer (a : Aggregation) (o : Outcome) :
      Goes setup sh (.answer o) (.asking a)
        ⟨(enter sh.now (a.answer o).value).1, sh,
          Effect.ofEvents (a.answer o).events ++ (enter sh.now (a.answer o).value).2, []⟩
  | store (s : Snapshot) :
      Goes setup sh .store (.gathered s)
        ⟨.ended (.loaded s), { sh with current := s }, [.stored s], []⟩

theorem Worker.goes_of_move {setup : Setup} {sh : Shared} {m : WorkerMove} {w : Worker}
    {t : Turn Worker} (h : w.move setup sh m = some t) : Goes setup sh m w t := by
  cases m with
  | begin =>
    cases w with
    | spawned =>
      rcases hadd : Instant.add? sh.now setup.interval with _ | deadline
      · simp only [move, hadd, Option.some.injEq] at h
        exact h ▸ .overflow hadd
      · simp only [move, hadd, Option.some.injEq] at h
        exact h ▸ .begin hadd
    | _ => simp [move] at h
  | answer o =>
    cases w with
    | asking a =>
      simp only [move, Option.some.injEq] at h
      exact h ▸ .answer a o
    | _ => simp [move] at h
  | store =>
    cases w with
    | gathered s =>
      simp only [move, Option.some.injEq] at h
      exact h ▸ .store s
    | _ => simp [move] at h

/-! ### The control loop -/

/-- A loop that is at its wait, with the time at which its ticker is due, and whether it has been
woken. -/
inductive Loop.Waits : Loop → Instant → Bool → Prop where
  | choosing (due : Instant) : Waits (.choosing due) due false
  | parked (due : Instant) (notified : Bool) : Waits (.parked due notified) due notified

/-- The memory after a loop has gone on from its wait without taking up the request that had woken it:
the request is stored. -/
def Shared.handBack (sh : Shared) (notified : Bool) : Shared :=
  { sh with permit := sh.permit || notified }

@[simp] theorem Shared.handBack_false (sh : Shared) : sh.handBack false = sh := by
  simp [handBack]

inductive Loop.Goes (setup : Setup) (sh : Shared) : LoopMove → Loop → Turn Loop → Prop where
  | launch : Goes setup sh .launch .launched (.quiet (.cycling none .spawned) sh)
  | work {m : WorkerMove} {w : Worker} {t : Turn Worker} (ticker : Option Instant)
      (h : Worker.Goes setup sh m w t) :
      Goes setup sh (.work m) (.cycling ticker w) (t.map (.cycling ticker))
  | join (ticker : Option Instant) (o : Outcome) :
      Goes setup sh .join (.cycling ticker (.ended o))
        (.reporting (.publishing ticker ⟨o, sh.current, sh.registry.size, 0⟩) sh (workerEvents o))
  | abandon (ticker : Option Instant) (w : Worker) (hclosed : sh.closed = true) :
      Goes setup sh .abandon (.cycling ticker w)
        ⟨.ended, sh, if ticker.isSome then [.event .loopStopped] else [], [w]⟩
  | deposit (ticker : Option Instant) (f : Fanout) (h : f.done < f.count) :
      Goes setup sh .deposit (.publishing ticker f)
        ⟨.publishing ticker { f with done := f.done + 1 },
          { sh with registry := sh.registry.deposit f.done f.snapshot },
          [.deposited f.done f.snapshot], []⟩
  | report {ticker : Option Instant} {f : Fanout} {due : Instant} (h : f.count ≤ f.done)
      (hdue : ticker.or (Instant.add? sh.now setup.interval) = some due) :
      Goes setup sh .report (.publishing ticker f)
        (.reporting (.choosing due) sh
          (.published f.count f.snapshot.length :: cycleEvents ticker.isNone f.outcome))
  | reportOverflow {f : Fanout} (h : f.count ≤ f.done)
      (hadd : Instant.add? sh.now setup.interval = none) :
      Goes setup sh .report (.publishing none f)
        (.reporting (.panicked .clockOverflow) sh
          (.published f.count f.snapshot.length :: cycleEvents true f.outcome))
  | stop {l : Loop} {due : Instant} {notified : Bool} (hwaits : l.Waits due notified)
      (hclosed : sh.closed = true) :
      Goes setup sh .stop l (.reporting .ended (sh.handBack notified) [.loopStopped])
  | tick {l : Loop} {due : Instant} {notified : Bool} (hwaits : l.Waits due notified)
      (hdue : due ≤ sh.now) :
      Goes setup sh .tick l
        (.quiet (.cycling (some (nextDue setup.interval due sh.now)) .spawned) (sh.handBack notified))
  | refreshStored (due : Instant) (h : sh.permit = true) :
      Goes setup sh .refresh (.choosing due)
        (.reporting (.cycling (some due) .spawned) { sh with permit := false } [.refreshRequested])
  | refreshWoken (due : Instant) :
      Goes setup sh .refresh (.parked due true)
        (.reporting (.cycling (some due) .spawned) sh [.refreshRequested])
  | park (due : Instant) (hopen : sh.closed = false) (hdue : sh.now < due)
      (hpermit : sh.permit = false) :
      Goes setup sh .park (.choosing due) (.quiet (.parked due false) sh)
  | crash {l : Loop} {due : Instant} {notified : Bool} (hwaits : l.Waits due notified) (p : Panic) :
      Goes setup sh (.crash p) l (.quiet (.panicked p) (sh.handBack notified))

theorem Loop.goes_of_move {setup : Setup} {sh : Shared} {m : LoopMove} {l : Loop} {t : Turn Loop}
    (h : l.move setup sh m = some t) : Goes setup sh m l t := by
  cases m with
  | launch =>
    cases l with
    | launched =>
      simp only [move, Option.some.injEq] at h
      exact h ▸ .launch
    | _ => simp [move] at h
  | work m =>
    cases l with
    | cycling ticker w =>
      simp only [move, Option.map_eq_some_iff] at h
      obtain ⟨u, hu, rfl⟩ := h
      exact .work ticker (Worker.goes_of_move hu)
    | _ => simp [move] at h
  | join =>
    cases l with
    | cycling ticker w =>
      cases w with
      | ended o =>
        simp only [move, Option.some.injEq] at h
        exact h ▸ .join ticker o
      | _ => simp [move] at h
    | _ => simp [move] at h
  | abandon =>
    cases l with
    | cycling ticker w =>
      by_cases hclosed : sh.closed = true
      · simp only [move, if_pos hclosed, Option.some.injEq] at h
        exact h ▸ .abandon ticker w hclosed
      · simp [move, hclosed] at h
    | _ => simp [move] at h
  | deposit =>
    cases l with
    | publishing ticker f =>
      by_cases hdone : f.done < f.count
      · simp only [move, if_pos hdone, Option.some.injEq] at h
        exact h ▸ .deposit ticker f hdone
      · simp [move, hdone] at h
    | _ => simp [move] at h
  | report =>
    cases l with
    | publishing ticker f =>
      by_cases hdone : f.done < f.count
      · simp [move, hdone] at h
      · have hle : f.count ≤ f.done := Nat.not_lt.mp hdone
        cases ticker with
        | some due =>
          simp only [move, if_neg hdone, Option.some.injEq] at h
          exact h ▸ .report hle rfl
        | none =>
          rcases hadd : Instant.add? sh.now setup.interval with _ | due
          · simp only [move, if_neg hdone, hadd, Option.some.injEq] at h
            exact h ▸ .reportOverflow hle hadd
          · simp only [move, if_neg hdone, hadd, Option.some.injEq] at h
            exact h ▸ .report hle (by rw [Option.none_or]; exact hadd)
    | _ => simp [move] at h
  | stop =>
    cases l with
    | choosing due =>
      by_cases hclosed : sh.closed = true
      · simp only [move, if_pos hclosed, Option.some.injEq] at h
        have hgoes : Goes setup sh .stop (.choosing due) _ := .stop (.choosing due) hclosed
        rw [Shared.handBack_false] at hgoes
        exact h ▸ hgoes
      · simp [move, hclosed] at h
    | parked due notified =>
      by_cases hclosed : sh.closed = true
      · simp only [move, if_pos hclosed, Option.some.injEq] at h
        exact h ▸ .stop (.parked due notified) hclosed
      · simp [move, hclosed] at h
    | _ => simp [move] at h
  | tick =>
    cases l with
    | choosing due =>
      by_cases hdue : due ≤ sh.now
      · simp only [move, if_pos hdue, Option.some.injEq] at h
        have hgoes : Goes setup sh .tick (.choosing due) _ := .tick (.choosing due) hdue
        rw [Shared.handBack_false] at hgoes
        exact h ▸ hgoes
      · simp [move, hdue] at h
    | parked due notified =>
      by_cases hdue : due ≤ sh.now
      · simp only [move, if_pos hdue, Option.some.injEq] at h
        exact h ▸ .tick (.parked due notified) hdue
      · simp [move, hdue] at h
    | _ => simp [move] at h
  | refresh =>
    cases l with
    | choosing due =>
      by_cases hpermit : sh.permit = true
      · simp only [move, if_pos hpermit, Option.some.injEq] at h
        exact h ▸ .refreshStored due hpermit
      · simp [move, hpermit] at h
    | parked due notified =>
      cases notified with
      | true =>
        simp only [move, Option.some.injEq] at h
        exact h ▸ .refreshWoken due
      | false => simp [move] at h
    | _ => simp [move] at h
  | park =>
    cases l with
    | choosing due =>
      by_cases hblocked : (sh.closed || decide (due ≤ sh.now) || sh.permit) = true
      · simp [move, hblocked] at h
      · simp only [move, if_neg hblocked, Option.some.injEq] at h
        simp only [Bool.or_eq_true, decide_eq_true_eq, not_or, Bool.not_eq_true, Nat.not_le]
          at hblocked
        exact h ▸ .park due hblocked.1.1 hblocked.1.2 hblocked.2
    | _ => simp [move] at h
  | crash p =>
    cases l with
    | choosing due =>
      simp only [move, Option.some.injEq] at h
      have hgoes : Goes setup sh (.crash p) (.choosing due) _ := .crash (.choosing due) p
      rw [Shared.handBack_false] at hgoes
      exact h ▸ hgoes
    | parked due notified =>
      simp only [move, Option.some.injEq] at h
      exact h ▸ .crash (.parked due notified) p
    | _ => simp [move] at h

/-! ### Supervisors -/

inductive Supervisor.Goes (setup : Setup) (sh : Shared) :
    SupervisorMove → Supervisor → Turn Supervisor → Prop where
  | spawn : Goes setup sh .spawn .spawning (.quiet (.watching .launched) sh)
  | control {m : LoopMove} {l : Loop} {t : Turn Loop} (h : Loop.Goes setup sh m l t) :
      Goes setup sh (.control m) (.watching l) (t.map .watching)
  | finish : Goes setup sh .observe (.watching .ended) (.quiet .returned sh)
  | pause (p : Panic) :
      Goes setup sh .observe (.watching (.panicked p))
        (.reporting (.pausing (sh.now + backoff)) sh [.loopPanicked p.message])
  | wake {time : Instant} (h : time ≤ sh.now) :
      Goes setup sh .wake (.pausing time) (.quiet .spawning sh)
  | leave (time : Instant) (hclosed : sh.closed = true) :
      Goes setup sh .leave (.pausing time) (.quiet .returned sh)

theorem Supervisor.goes_of_move {setup : Setup} {sh : Shared} {m : SupervisorMove} {v : Supervisor}
    {t : Turn Supervisor} (h : v.move setup sh m = some t) : Goes setup sh m v t := by
  cases m with
  | spawn =>
    cases v with
    | spawning =>
      simp only [move, Option.some.injEq] at h
      exact h ▸ .spawn
    | _ => simp [move] at h
  | control m =>
    cases v with
    | watching l =>
      simp only [move, Option.map_eq_some_iff] at h
      obtain ⟨u, hu, rfl⟩ := h
      exact .control (Loop.goes_of_move hu)
    | _ => simp [move] at h
  | observe =>
    cases v with
    | watching l =>
      cases l with
      | ended =>
        simp only [move, Option.some.injEq] at h
        exact h ▸ .finish
      | panicked p =>
        simp only [move, Option.some.injEq] at h
        exact h ▸ .pause p
      | _ => simp [move] at h
    | _ => simp [move] at h
  | wake =>
    cases v with
    | pausing time =>
      by_cases htime : time ≤ sh.now
      · simp only [move, if_pos htime, Option.some.injEq] at h
        exact h ▸ .wake htime
      · simp [move, htime] at h
    | _ => simp [move] at h
  | leave =>
    cases v with
    | pausing time =>
      by_cases hclosed : sh.closed = true
      · simp only [move, if_pos hclosed, Option.some.injEq] at h
        exact h ▸ .leave time hclosed
      · simp [move, hclosed] at h
    | _ => simp [move] at h

/-! ### The whole -/

namespace State

/-- What a step of the whole can be. -/
inductive Goes (setup : Setup) (s : State) : Action → State → List Effect → Prop where
  | elapse (d : Duration) :
      Goes setup s (.elapse d) { s with shared := { s.shared with now := s.shared.now + d } } []
  | subscribe (hheld : s.held = true) :
      Goes setup s .subscribe
        { s with
          shared := { s.shared with registry := s.shared.registry.register }
          calls := s.calls ++ [.subscribing s.shared.registry.size] } []
  | startAgain (hheld : s.held = true) (hstarted : s.started = true) :
      Goes setup s .start s [.returned .alreadyStarted]
  | start (hheld : s.held = true) (hstarted : s.started = false) :
      Goes setup s .start { s with started := true, calls := s.calls ++ [.starting] } []
  | close (hheld : s.held = true) :
      Goes setup s .close
        { s with shared := { s.shared with closed := true }, calls := s.calls ++ [.stopping] } []
  | drop (hheld : s.held = true) (hcalls : s.calls = []) :
      Goes setup s .drop { s with held := false } []
  | subscribed {k i : Nat} (hcall : s.calls[k]? = some (.subscribing i)) :
      Goes setup s (.proceed k) (s.notify.finish k (.mailbox i) []).1 [.returned (.mailbox i)]
  | spawned {k : Nat} (hcall : s.calls[k]? = some .starting) :
      Goes setup s (.proceed k)
        { s with
          supervisors := s.supervisors ++ [.spawning]
          calls := s.calls.set k (.leaving s.supervisors.length) } []
  | left {k i : Nat} (hcall : s.calls[k]? = some (.leaving i)) :
      Goes setup s (.proceed k) { s with handle := some i, calls := s.calls.eraseIdx k }
        [.returned .started]
  | taken {k i : Nat} (hcall : s.calls[k]? = some .stopping) (hhandle : s.handle = some i) :
      Goes setup s (.proceed k) { s with handle := none, calls := s.calls.set k (.joining i) } []
  | unsupervised {k : Nat} (hcall : s.calls[k]? = some .stopping) (hhandle : s.handle = none) :
      Goes setup s (.proceed k) (s.enterClosing k [] (Closing.start setup.sources)).1
        (s.enterClosing k [] (Closing.start setup.sources)).2
  | joined {k i : Nat} (hcall : s.calls[k]? = some (.joining i))
      (hreturned : s.supervisors[i]? = some .returned) :
      Goes setup s (.proceed k) (s.enterClosing k [] (Closing.start setup.sources)).1
        (s.enterClosing k [] (Closing.start setup.sources)).2
  | sourceClosed {k : Nat} {c : Closing} (r : Except TopologyError Unit)
      (hcall : s.calls[k]? = some (.closing c)) :
      Goes setup s (.sourceClosed k r) (s.enterClosing k (c.answer r).events (c.answer r).value).1
        (s.enterClosing k (c.answer r).events (c.answer r).value).2
  | supervise {i : Nat} {m : SupervisorMove} {v : Supervisor} {t : Turn Supervisor}
      (hv : s.supervisors[i]? = some v) (h : Supervisor.Goes setup s.shared m v t) :
      Goes setup s (.supervise i m) (s.adopt i t).1 t.effects
  | stray {j : Nat} {m : WorkerMove} {w : Worker} {t : Turn Worker}
      (hw : s.strays[j]? = some w) (h : Worker.Goes setup s.shared m w t) :
      Goes setup s (.stray j m) { s with shared := t.shared, strays := s.strays.set j t.task }
        t.effects
  | discard {j : Nat} (h : j < s.strays.length) :
      Goes setup s (.discard j) { s with strays := s.strays.eraseIdx j } []
  | read {i : Nat} {b : Box} (hb : s.shared.registry.box? i = some b) :
      Goes setup s (.read i)
        { s with shared := { s.shared with registry := s.shared.registry.set i b.look } }
        [.received i b.unread]
  | giveUp {i : Nat} {b : Box} (hb : s.shared.registry.box? i = some b) :
      Goes setup s (.giveUp i)
        { s with shared := { s.shared with registry := s.shared.registry.giveUp i } } []

theorem goes_of_proceed {setup : Setup} {s s' : State} {k : Nat} {es : List Effect}
    (h : s.proceed setup k = some (s', es)) : Goes setup s (.proceed k) s' es := by
  rcases hcall : s.calls[k]? with _ | call
  · simp [proceed, hcall] at h
  · cases call with
    | subscribing i =>
      simp only [proceed, hcall, Option.some.injEq] at h
      cases h
      exact .subscribed hcall
    | starting =>
      simp only [proceed, hcall, Option.some.injEq] at h
      cases h
      exact .spawned hcall
    | leaving i =>
      simp only [proceed, hcall, Option.some.injEq] at h
      cases h
      exact .left hcall
    | stopping =>
      rcases hhandle : s.handle with _ | i
      · simp only [proceed, hcall, hhandle, Option.some.injEq] at h
        obtain ⟨rfl, rfl⟩ := Prod.ext_iff.mp h
        exact .unsupervised hcall hhandle
      · simp only [proceed, hcall, hhandle, Option.some.injEq] at h
        cases h
        exact .taken hcall hhandle
    | joining i =>
      by_cases hreturned : s.supervisors[i]? = some .returned
      · simp only [proceed, hcall, if_pos hreturned, Option.some.injEq] at h
        obtain ⟨rfl, rfl⟩ := Prod.ext_iff.mp h
        exact .joined hcall hreturned
      · simp [proceed, hcall, hreturned] at h
    | closing c => simp [proceed, hcall] at h

/-- **Every step is one of the rules.** -/
theorem goes_of_step {setup : Setup} {s s' : State} {a : Action} {es : List Effect}
    (h : s.step setup a = some (s', es)) : Goes setup s a s' es := by
  cases a with
  | elapse d =>
    cases h
    exact .elapse d
  | subscribe =>
    by_cases hheld : s.held = true
    · simp only [step, if_pos hheld, Option.some.injEq] at h
      cases h
      exact .subscribe hheld
    · simp [step, hheld] at h
  | start =>
    by_cases hheld : s.held = true
    · by_cases hstarted : s.started = true
      · simp only [step, if_pos hheld, if_pos hstarted, Option.some.injEq] at h
        cases h
        exact .startAgain hheld hstarted
      · simp only [step, if_pos hheld, if_neg hstarted, Option.some.injEq] at h
        cases h
        exact .start hheld (Bool.eq_false_iff.mpr hstarted)
    · simp [step, hheld] at h
  | close =>
    by_cases hheld : s.held = true
    · simp only [step, if_pos hheld, Option.some.injEq] at h
      cases h
      exact .close hheld
    · simp [step, hheld] at h
  | drop =>
    by_cases hdrop : (s.held && s.calls.isEmpty) = true
    · simp only [step, if_pos hdrop, Option.some.injEq] at h
      cases h
      simp only [Bool.and_eq_true, List.isEmpty_iff] at hdrop
      exact .drop hdrop.1 hdrop.2
    · simp [step, hdrop] at h
  | proceed k => exact goes_of_proceed h
  | sourceClosed k r =>
    rcases hcall : s.calls[k]? with _ | call
    · simp [step, hcall] at h
    · cases call with
      | closing c =>
        simp only [step, hcall, Option.some.injEq] at h
        obtain ⟨rfl, rfl⟩ := Prod.ext_iff.mp h
        exact .sourceClosed r hcall
      | _ => simp [step, hcall] at h
  | supervise i m =>
    simp only [step, Option.bind_eq_bind, Option.bind_eq_some_iff] at h
    obtain ⟨v, hv, t, ht, hadopt⟩ := h
    cases hadopt
    exact .supervise hv (Supervisor.goes_of_move ht)
  | stray j m =>
    simp only [step, Option.bind_eq_bind, Option.bind_eq_some_iff] at h
    obtain ⟨w, hw, t, ht, hset⟩ := h
    cases hset
    exact .stray hw (Worker.goes_of_move ht)
  | discard j =>
    by_cases hj : j < s.strays.length
    · simp only [step, if_pos hj, Option.some.injEq] at h
      cases h
      exact .discard hj
    · simp [step, hj] at h
  | read i =>
    simp only [step, Registry.tryReceive?, Option.bind_eq_bind, Option.bind_eq_some_iff] at h
    obtain ⟨⟨found, registry⟩, ⟨b, hb, hlook⟩, hread⟩ := h
    cases hlook
    cases hread
    exact .read hb
  | giveUp i =>
    simp only [step, Option.bind_eq_bind, Option.bind_eq_some_iff] at h
    obtain ⟨b, hb, hgiven⟩ := h
    cases hgiven
    exact .giveUp hb

end State

/-! ### What the steps of tasks leave alone -/

variable {setup : Setup}

/-- A worker changes nothing that tasks share but the current snapshot, ends no call and takes up no
request. -/
theorem Worker.Goes.frame {sh : Shared} {m : WorkerMove} {w : Worker} {t : Turn Worker}
    (hgoes : Goes setup sh m w t) :
    (∃ current, t.shared = { sh with current }) ∧ (∀ r, .returned r ∉ t.effects) ∧
      .event .refreshRequested ∉ t.effects := by
  cases hgoes with
  | overflow _ => exact ⟨⟨_, rfl⟩, by simp [Turn.quiet], by simp [Turn.quiet]⟩
  | begin _ =>
    refine ⟨⟨_, rfl⟩, fun r => ?_, ?_⟩ <;>
      cases setup.sources <;> simp [enter, Aggregation.start, Aggregation.ask]
  | answer a o =>
    refine ⟨⟨_, rfl⟩, ?_⟩
    cases o with
    | loaded s =>
      rcases hrest : a.rest with _ | ⟨name, rest⟩ <;>
        simp [enter, Aggregation.answer, Aggregation.ask, Effect.ofEvents, hrest]
    | failed e => simp [enter, Aggregation.answer, Effect.ofEvents]
    | panicked p => simp [enter, Aggregation.answer, Effect.ofEvents]
  | store s => exact ⟨⟨_, rfl⟩, by simp, by simp⟩

theorem Turn.not_returned_reporting {τ : Type} (task : τ) (sh : Shared) (events : List Event)
    (r : Return) : .returned r ∉ (Turn.reporting task sh events).effects := by
  simp [Turn.reporting, Effect.ofEvents]

/-- No step of a supervisor adds mailboxes, closes the discoverer or ends a call. -/
theorem Supervisor.Goes.frame {sh : Shared} {m : SupervisorMove} {v : Supervisor}
    {t : Turn Supervisor} (hgoes : Goes setup sh m v t) :
    t.shared.registry.size = sh.registry.size ∧ t.shared.closed = sh.closed ∧
      ∀ r, .returned r ∉ t.effects := by
  cases hgoes with
  | spawn => exact ⟨rfl, rfl, by simp [Turn.quiet]⟩
  | control hgoes =>
    cases hgoes with
    | work ticker hgoes =>
      obtain ⟨⟨current, hshared⟩, heffects, -⟩ := hgoes.frame
      exact ⟨by simp [Turn.map, hshared], by simp [Turn.map, hshared], heffects⟩
    | abandon ticker w _ => exact ⟨rfl, rfl, by cases ticker <;> simp [Turn.map]⟩
    | deposit ticker f _ => exact ⟨by simp [Turn.map], rfl, by simp [Turn.map]⟩
    | launch => exact ⟨rfl, rfl, by simp [Turn.quiet, Turn.map]⟩
    | tick _ _ => exact ⟨rfl, rfl, by simp [Turn.quiet, Turn.map]⟩
    | park _ _ _ _ => exact ⟨rfl, rfl, by simp [Turn.quiet, Turn.map]⟩
    | crash _ _ => exact ⟨rfl, rfl, by simp [Turn.quiet, Turn.map]⟩
    | join _ _ => exact ⟨rfl, rfl, Turn.not_returned_reporting _ _ _⟩
    | report _ _ => exact ⟨rfl, rfl, Turn.not_returned_reporting _ _ _⟩
    | reportOverflow _ _ => exact ⟨rfl, rfl, Turn.not_returned_reporting _ _ _⟩
    | stop _ _ => exact ⟨rfl, rfl, Turn.not_returned_reporting _ _ _⟩
    | refreshStored _ _ => exact ⟨rfl, rfl, Turn.not_returned_reporting _ _ _⟩
    | refreshWoken _ => exact ⟨rfl, rfl, Turn.not_returned_reporting _ _ _⟩
  | finish => exact ⟨rfl, rfl, by simp [Turn.quiet]⟩
  | pause p => exact ⟨rfl, rfl, Turn.not_returned_reporting _ _ _⟩
  | wake _ => exact ⟨rfl, rfl, by simp [Turn.quiet]⟩
  | leave _ _ => exact ⟨rfl, rfl, by simp [Turn.quiet]⟩

/-! ### Whose an effect is -/

def isOfWorker : Effect → Bool
  | .event _ | .queried _ _ _ | .stored _ => true
  | _ => false

/-- Whether an effect is one of the tasks of a discoverer.  Looks into mailboxes, the release of sources
and what comes back to a client are not. -/
def isOfTask : Effect → Bool
  | .deposited _ _ => true
  | e => isOfWorker e

theorem isOfTask_of_isOfWorker {e : Effect} (he : isOfWorker e = true) : isOfTask e = true := by
  cases e with
  | deposited i s => rfl
  | _ => exact he

theorem isOfWorker_of_mem_ofEvents {events : List Event} {e : Effect}
    (he : e ∈ Effect.ofEvents events) : isOfWorker e = true := by
  obtain ⟨event, -, rfl⟩ := List.mem_map.mp he
  rfl

theorem Worker.isOfWorker_of_mem_enter {now : Instant} {stage : Aggregation.Stage} {e : Effect}
    (he : e ∈ (enter now stage).2) : isOfWorker e = true := by
  match stage with
  | .asking a =>
    rw [List.mem_singleton.mp he]
    rfl
  | .ended (.loaded s) => cases he
  | .ended (.failed error) => cases he
  | .ended (.panicked p) => cases he

theorem Worker.Goes.isOfWorker_of_mem {sh : Shared} {m : WorkerMove} {w : Worker} {t : Turn Worker}
    (hgoes : Goes setup sh m w t) {e : Effect} (he : e ∈ t.effects) : isOfWorker e = true := by
  cases hgoes with
  | overflow _ => cases he
  | begin _ => exact isOfWorker_of_mem_enter he
  | answer a o =>
    rcases List.mem_append.mp he with hevent | henter
    · exact isOfWorker_of_mem_ofEvents hevent
    · exact isOfWorker_of_mem_enter henter
  | store s =>
    rw [List.mem_singleton.mp he]
    rfl

theorem Supervisor.Goes.isOfTask_of_mem {sh : Shared} {m : SupervisorMove} {v : Supervisor}
    {t : Turn Supervisor} (hgoes : Goes setup sh m v t) {e : Effect} (he : e ∈ t.effects) :
    isOfTask e = true := by
  have hevents {events : List Event} (he : e ∈ Effect.ofEvents events) : isOfTask e = true :=
    isOfTask_of_isOfWorker (isOfWorker_of_mem_ofEvents he)
  cases hgoes with
  | control hgoes =>
    cases hgoes with
    | work ticker hgoes => exact isOfTask_of_isOfWorker (hgoes.isOfWorker_of_mem he)
    | abandon ticker w _ =>
      cases ticker with
      | none => cases he
      | some due =>
        rw [List.mem_singleton.mp he]
        rfl
    | deposit ticker f _ =>
      rw [List.mem_singleton.mp he]
      rfl
    | join _ _ => exact hevents he
    | report _ _ => exact hevents he
    | reportOverflow _ _ => exact hevents he
    | stop _ _ => exact hevents he
    | refreshStored _ _ => exact hevents he
    | refreshWoken _ => exact hevents he
    | _ => cases he
  | pause p => exact hevents he
  | _ => cases he

end ClusterTopology.Discoverer
