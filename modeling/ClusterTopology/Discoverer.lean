import ClusterTopology.Aggregation
/-!
A discoverer: its tasks, what they share, and what they do one step at a time.

Four kinds of tasks work side by side.  A *supervisor* keeps a *control loop* alive.  The loop runs one cycle
after the other, each on a *worker* of its own, and publishes what the worker leaves behind.  *Calls* of
clients subscribe, start and close.  A task is a value that says where it is.

A step is chosen by an `Action`: which task moves, and how.  An action that is not possible in a state gives
`none`.  More than one action is possible in most states, and nothing says which comes first: tasks interleave
at will, a task that waits for several things may go on with any that is there, and time passes whenever it
likes.  The answers of sources come with the actions, so sources may answer anything.

Nothing here keeps two supervisors, or a supervisor after it has ended, from being in a state: that there is
at most one is a fact about the states that can be reached.

The state has the supervisors, the workers that were left behind, the calls under way, and what they all
share: the current snapshot, the mailboxes, the request that is stored, and whether the discoverer is
closed.  A step gives the effects that the world sees of it.  `run` is a list of actions, and `Reaches` the
states and effects that some run leads to; the theorems of the modules under `Proofs.Discoverer` are about these two.
-/

namespace ClusterTopology.Discoverer

/-! ## Tasks and what they share -/

/-! ### What a discoverer is built from -/

/-- The names of the sources, in the order in which they are asked, and the period of the cycles,
which is also the time that a cycle may take. -/
structure Setup where
  sources : List String
  interval : Duration
  interval_pos : 0 < interval

/-- A setup; the period must not be zero. -/
def Setup.make (sources : List String) (interval : Duration) : Except TopologyError Setup :=
  if h : 0 < interval then .ok ⟨sources, interval, h⟩
  else .error (.config "topology refresh interval must be greater than 0")

/-! ### Tasks -/

inductive Worker where
  /-- It has not done anything yet. -/
  | spawned
  /-- It waits for the answer of a source. -/
  | asking (a : Aggregation)
  /-- It has the answers of all sources and has not stored them yet. -/
  | gathered (s : Snapshot)
  | ended (o : Outcome)
deriving DecidableEq, Repr

/-- A publication under way: what a cycle came to, the snapshot that goes out, the number of mailboxes
when it began, and how many of them have been written. -/
structure Fanout where
  outcome : Outcome
  snapshot : Snapshot
  count : Nat
  done : Nat
deriving DecidableEq, Repr

/-- The control loop.  It has a ticker as soon as the first cycle has been published; the ticker is
known by the time at which it is due. -/
inductive Loop where
  /-- It has not done anything yet. -/
  | launched
  /-- It waits for its worker. -/
  | cycling (ticker : Option Instant) (w : Worker)
  | publishing (ticker : Option Instant) (f : Fanout)
  /-- It has come to its wait and not yet looked at anything. -/
  | choosing (due : Instant)
  /-- It waits for a tick or a request, one of which may have been made. -/
  | parked (due : Instant) (notified : Bool)
  | ended
  | panicked (panic : Panic)
deriving DecidableEq, Repr

inductive Supervisor where
  /-- It is about to spawn a control loop. -/
  | spawning
  /-- It waits for a control loop, or has not yet seen that it has ended. -/
  | watching (l : Loop)
  /-- It pauses after a panic of the control loop. -/
  | pausing (wake : Instant)
  | returned
deriving DecidableEq, Repr

/-- A call of a client that has not come back yet. -/
inductive Call where
  /-- A subscription whose mailbox is registered. -/
  | subscribing (mailbox : Nat)
  /-- A start that will spawn the supervisor. -/
  | starting
  /-- A start that has yet to leave the handle of the supervisor. -/
  | leaving (supervisor : Nat)
  /-- A close that has stopped the cycles and has yet to take the handle of the supervisor. -/
  | stopping
  /-- A close that waits for the supervisor. -/
  | joining (supervisor : Nat)
  /-- A close that waits for a source. -/
  | closing (c : Closing)
deriving DecidableEq, Repr

/-! ### What tasks share -/

/-- The memory that all tasks share, and the clock. -/
structure Shared where
  now : Instant
  /-- The components as the last cycle that loaded found them. -/
  current : Snapshot
  registry : Registry
  /-- A refresh that has been asked for while no loop was waiting. -/
  permit : Bool
  closed : Bool
deriving DecidableEq, Repr

structure State where
  shared : Shared
  started : Bool
  /-- Whether a client still holds the discoverer. -/
  held : Bool
  /-- The supervisor whose handle has been left for a close. -/
  handle : Option Nat
  supervisors : List Supervisor
  /-- Workers that a close has left behind. -/
  strays : List Worker
  calls : List Call
deriving DecidableEq, Repr

def State.new (now : Instant) : State where
  shared := ⟨now, [], .empty, false, false⟩
  started := false
  held := true
  handle := none
  supervisors := []
  strays := []
  calls := []

/-- Whether anyone is left who could write the mailboxes: a client with the discoverer, or a task. -/
def State.isWritable (s : State) : Bool :=
  s.held || s.supervisors.any (· != .returned) || !s.strays.isEmpty

/-! ## Steps -/

/-- A task after a step of its own: with the shared memory, with what the step did, and with the
workers that it left behind. -/
structure Turn (τ : Type) where
  task : τ
  shared : Shared
  effects : List Effect
  strays : List Worker

namespace Turn

def quiet {τ : Type} (task : τ) (shared : Shared) : Turn τ := ⟨task, shared, [], []⟩

def reporting {τ : Type} (task : τ) (shared : Shared) (events : List Event) : Turn τ :=
  ⟨task, shared, Effect.ofEvents events, []⟩

/-- The step of a task as a step of the task that holds it. -/
def map {σ τ : Type} (f : σ → τ) (t : Turn σ) : Turn τ := ⟨f t.task, t.shared, t.effects, t.strays⟩

end Turn

/-! ### Workers -/

inductive WorkerMove where
  /-- It sets the deadline and asks the first source. -/
  | begin
  /-- The source that it has asked answers. -/
  | answer (o : Outcome)
  /-- It stores what it has gathered. -/
  | store
deriving DecidableEq, Repr

namespace Worker

/-- A worker whose aggregation has come to a stage, and the query that it begins there. -/
def enter (now : Instant) : Aggregation.Stage → Worker × List Effect
  | .asking a => (.asking a, [.queried a.position now a.deadline])
  | .ended (.loaded s) => (.gathered s, [])
  | .ended o => (.ended o, [])

def move (setup : Setup) (sh : Shared) : WorkerMove → Worker → Option (Turn Worker)
  | .begin, .spawned =>
    match Instant.add? sh.now setup.interval with
    | none => some (.quiet (.ended (.panicked .clockOverflow)) sh)
    | some deadline =>
      let (w, effects) := enter sh.now (Aggregation.start deadline setup.sources)
      some ⟨w, sh, effects, []⟩
  | .answer o, .asking a =>
    let r := a.answer o
    let (w, effects) := enter sh.now r.value
    some ⟨w, sh, Effect.ofEvents r.events ++ effects, []⟩
  | .store, .gathered s =>
    some ⟨.ended (.loaded s), { sh with current := s }, [.stored s], []⟩
  | _, _ => none

end Worker

/-! ### The control loop -/

inductive LoopMove where
  /-- It begins its first cycle. -/
  | launch
  /-- Its worker moves. -/
  | work (m : WorkerMove)
  /-- It takes over what its worker left behind, and begins to publish. -/
  | join
  /-- It leaves its worker behind, because the discoverer is closed. -/
  | abandon
  /-- It writes one mailbox. -/
  | deposit
  /-- It has written all mailboxes, and tells how the cycle went. -/
  | report
  /-- It ends, because the discoverer is closed. -/
  | stop
  /-- It begins a cycle, because the ticker is due. -/
  | tick
  /-- It begins a cycle, because a refresh has been asked for. -/
  | refresh
  /-- It goes to sleep, because nothing is there to go on with. -/
  | park
  /-- It panics at its wait: where the ticker adds up times, or for whatever other reason. -/
  | crash (panic : Panic)
deriving DecidableEq, Repr

namespace Loop

/-- A tick that is taken later than this after it was due moves the ones after it: five milliseconds. -/
def tolerance : Duration := Duration.ofMillis 5

/-- When the tick after one is due that was due at `due` and is taken at `now`. -/
def nextDue (interval : Duration) (due now : Instant) : Instant :=
  if due + tolerance < now then now + interval else due + interval

/-- What is reported of a cycle, the first one or a later one. -/
def cycleEvents (isFirst : Bool) : Outcome → List Event
  | .loaded _ => [if isFirst then .firstCycleLoaded else .cycleLoaded]
  | .failed e => [if isFirst then .firstCycleFailed e else .cycleFailed e]
  | .panicked _ => []

def workerEvents : Outcome → List Event
  | .panicked p => [.cyclePanicked p.message]
  | _ => []

def move (setup : Setup) (sh : Shared) : LoopMove → Loop → Option (Turn Loop)
  | .launch, .launched => some (.quiet (.cycling none .spawned) sh)
  | .work m, .cycling ticker w => (w.move setup sh m).map (Turn.map (.cycling ticker))
  | .join, .cycling ticker (.ended o) =>
    some (.reporting (.publishing ticker ⟨o, sh.current, sh.registry.size, 0⟩) sh (workerEvents o))
  | .abandon, .cycling ticker w =>
    if sh.closed then
      some ⟨.ended, sh, if ticker.isSome then [.event .loopStopped] else [], [w]⟩
    else none
  | .deposit, .publishing ticker f =>
    if f.done < f.count then
      some ⟨.publishing ticker { f with done := f.done + 1 },
        { sh with registry := sh.registry.deposit f.done f.snapshot },
        [.deposited f.done f.snapshot], []⟩
    else none
  | .report, .publishing ticker f =>
    if f.done < f.count then none
    else
      let events := .published f.count f.snapshot.length :: cycleEvents ticker.isNone f.outcome
      match ticker with
      | some due => some (.reporting (.choosing due) sh events)
      | none =>
        match Instant.add? sh.now setup.interval with
        | some due => some (.reporting (.choosing due) sh events)
        | none => some (.reporting (.panicked .clockOverflow) sh events)
  | .stop, .choosing _ =>
    if sh.closed then some (.reporting .ended sh [.loopStopped]) else none
  | .stop, .parked _ notified =>
    if sh.closed then
      some (.reporting .ended { sh with permit := sh.permit || notified } [.loopStopped])
    else none
  | .tick, .choosing due =>
    if due ≤ sh.now then
      some (.quiet (.cycling (some (nextDue setup.interval due sh.now)) .spawned) sh)
    else none
  | .tick, .parked due notified =>
    if due ≤ sh.now then
      some (.quiet (.cycling (some (nextDue setup.interval due sh.now)) .spawned)
        { sh with permit := sh.permit || notified })
    else none
  | .refresh, .choosing due =>
    if sh.permit then
      some (.reporting (.cycling (some due) .spawned) { sh with permit := false } [.refreshRequested])
    else none
  | .refresh, .parked due true =>
    some (.reporting (.cycling (some due) .spawned) sh [.refreshRequested])
  | .park, .choosing due =>
    if sh.closed || decide (due ≤ sh.now) || sh.permit then none
    else some (.quiet (.parked due false) sh)
  | .crash p, .choosing _ => some (.quiet (.panicked p) sh)
  | .crash p, .parked _ notified =>
    some (.quiet (.panicked p) { sh with permit := sh.permit || notified })
  | _, _ => none

end Loop

/-! ### Supervisors -/

inductive SupervisorMove where
  /-- It spawns a control loop. -/
  | spawn
  /-- Its control loop moves. -/
  | control (m : LoopMove)
  /-- It sees that its control loop has ended. -/
  | observe
  /-- Its pause is over. -/
  | wake
  /-- It ends its pause, because the discoverer is closed. -/
  | leave
deriving DecidableEq, Repr

namespace Supervisor

/-- How long a supervisor pauses after a panic of the control loop: a second. -/
def backoff : Duration := Duration.ofSecs 1

def move (setup : Setup) (sh : Shared) : SupervisorMove → Supervisor → Option (Turn Supervisor)
  | .spawn, .spawning => some (.quiet (.watching .launched) sh)
  | .control m, .watching l => (l.move setup sh m).map (Turn.map .watching)
  | .observe, .watching .ended => some (.quiet .returned sh)
  | .observe, .watching (.panicked p) =>
    some (.reporting (.pausing (sh.now + backoff)) sh [.loopPanicked p.message])
  | .wake, .pausing t => if t ≤ sh.now then some (.quiet .spawning sh) else none
  | .leave, .pausing _ => if sh.closed then some (.quiet .returned sh) else none
  | _, _ => none

/-- A supervisor with its control loop woken, if that sleeps and has not been woken before. -/
def woken? : Supervisor → Option Supervisor
  | .watching (.parked due false) => some (.watching (.parked due true))
  | _ => none

/-- The first of a list of supervisors whose control loop can be woken is woken. -/
def wakeFirst? : List Supervisor → Option (List Supervisor)
  | [] => none
  | s :: r =>
    match s.woken? with
    | some s' => some (s' :: r)
    | none => (wakeFirst? r).map (s :: ·)

end Supervisor

/-! ### The whole -/

inductive Action where
  /-- Time passes. -/
  | elapse (d : Duration)
  /-- A client subscribes: its mailbox is registered. -/
  | subscribe
  /-- A client starts the discoverer, unless one did before. -/
  | start
  /-- A client closes the discoverer. -/
  | close
  /-- The client gives the discoverer up. -/
  | drop
  /-- A call goes on. -/
  | proceed (call : Nat)
  /-- The source that a close waits for answers. -/
  | sourceClosed (call : Nat) (r : Except TopologyError Unit)
  | supervise (supervisor : Nat) (m : SupervisorMove)
  /-- A worker that was left behind goes on for a while. -/
  | stray (worker : Nat) (m : WorkerMove)
  /-- A worker that was left behind is gone. -/
  | discard (worker : Nat)
  /-- A reader takes what is in its mailbox. -/
  | read (mailbox : Nat)
  /-- A reader gives its mailbox up. -/
  | giveUp (mailbox : Nat)

namespace State

/-- A refresh is asked for: a sleeping control loop is woken, or else the request is stored, once. -/
def notify (s : State) : State :=
  match Supervisor.wakeFirst? s.supervisors with
  | some supervisors => { s with supervisors }
  | none => { s with shared := { s.shared with permit := true } }

def finish (s : State) (k : Nat) (r : Return) (events : List Event) : State × List Effect :=
  ({ s with calls := s.calls.eraseIdx k }, Effect.ofEvents events ++ [.returned r])

/-- Call `k`, a close, has come to a stage of the closing of the sources. -/
def enterClosing (s : State) (k : Nat) (events : List Event) : Closing.Stage → State × List Effect
  | .closing c =>
    ({ s with calls := s.calls.set k (.closing c) },
      Effect.ofEvents events ++ [.closed c.position])
  | .ended none => s.finish k (.closed none) (events ++ [.discovererClosed])
  | .ended (some e) => s.finish k (.closed (some e)) events

def proceed (setup : Setup) (s : State) (k : Nat) : Option (State × List Effect) :=
  match s.calls[k]? with
  | some (.subscribing i) => some (s.notify.finish k (.mailbox i) [])
  | some .starting =>
    let i := s.supervisors.length
    some ({ s with supervisors := s.supervisors ++ [.spawning], calls := s.calls.set k (.leaving i) },
      [])
  | some (.leaving i) => some ({ s with handle := some i }.finish k .started [])
  | some .stopping =>
    match s.handle with
    | some i => some ({ s with handle := none, calls := s.calls.set k (.joining i) }, [])
    | none => some (s.enterClosing k [] (Closing.start setup.sources))
  | some (.joining i) =>
    if s.supervisors[i]? = some .returned then
      some (s.enterClosing k [] (Closing.start setup.sources))
    else none
  | _ => none

def adopt (s : State) (i : Nat) (t : Turn Supervisor) : State × List Effect :=
  ({ s with
      shared := t.shared
      supervisors := s.supervisors.set i t.task
      strays := s.strays ++ t.strays }, t.effects)

/-- The step that an action stands for, if it is possible. -/
def step (setup : Setup) (s : State) : Action → Option (State × List Effect)
  | .elapse d => some ({ s with shared := { s.shared with now := s.shared.now + d } }, [])
  | .subscribe =>
    if s.held then
      some ({ s with
        shared := { s.shared with registry := s.shared.registry.register }
        calls := s.calls ++ [.subscribing s.shared.registry.size] }, [])
    else none
  | .start =>
    if s.held then
      if s.started then some (s, [.returned .alreadyStarted])
      else some ({ s with started := true, calls := s.calls ++ [.starting] }, [])
    else none
  | .close =>
    if s.held then
      some ({ s with
        shared := { s.shared with closed := true }
        calls := s.calls ++ [.stopping] }, [])
    else none
  | .drop => if s.held && s.calls.isEmpty then some ({ s with held := false }, []) else none
  | .proceed k => s.proceed setup k
  | .sourceClosed k r =>
    match s.calls[k]? with
    | some (.closing c) =>
      let after := c.answer r
      some (s.enterClosing k after.events after.value)
    | _ => none
  | .supervise i m => do
    let v ← s.supervisors[i]?
    let t ← v.move setup s.shared m
    return s.adopt i t
  | .stray j m => do
    let w ← s.strays[j]?
    let t ← w.move setup s.shared m
    return ({ s with shared := t.shared, strays := s.strays.set j t.task }, t.effects)
  | .discard j =>
    if j < s.strays.length then some ({ s with strays := s.strays.eraseIdx j }, []) else none
  | .read i => do
    let (found, registry) ← s.shared.registry.tryReceive? i
    return ({ s with shared := { s.shared with registry } }, [.received i found])
  | .giveUp i => do
    let _ ← s.shared.registry.box? i
    return ({ s with shared := { s.shared with registry := s.shared.registry.giveUp i } }, [])

end State

/-! ### Runs -/

/-- The steps of a list of actions, with everything they do; none when one of them is not possible. -/
def run (setup : Setup) : State → List Action → Option (State × List Effect)
  | s, [] => some (s, [])
  | s, a :: as => do
    let (s, effects) ← s.step setup a
    let (s, more) ← run setup s as
    return (s, effects ++ more)

/-- Whether a state can be reached by a discoverer built at some time, and what has been done on the
way. -/
def Reaches (setup : Setup) (s : State) (effects : List Effect) : Prop :=
  ∃ now as, run setup (State.new now) as = some (s, effects)

end ClusterTopology.Discoverer
