import ClusterTopology.Aggregation
import ClusterTopology.Conversation
import ClusterTopology.Discoverer
/-!
A discoverer with its sources in virtual time, under a schedule that is always the same.

Time stands still while any task can move.  Of several tasks the schedule lets stray workers go first, then
the supervisor with its control loop and worker, then the calls; a loop that may stop does so before anything
else.  The clock moves only when all tasks wait, and then to the next time for which one of them waits.

The sources are scripted: a script says what a source answers, how long it takes over it, and how it takes
being closed.

A `World` is the state of a discoverer with the memory of its sources, the query that is under way and what
has been done so far.  `nextAction` chooses the action and `Discoverer.step` carries it out, so a run of the
world is a run of the discoverer, and nothing is decided twice.  `settle` goes on until all tasks wait, and
`passUntil` moves the clock; with these the operations of a client are defined as far as they wait for
anything.
-/

namespace ClusterTopology.Simulation

/-! ## Scripted sources

A script says what a source answers, how long it takes over it, and how it takes being closed.
Scripts may be changed between steps; how long a query takes is settled when it begins, and what it
answers when it ends. -/

/-- Panics that a source is still to have. -/
structure Mine where
  panic : Panic
  times : Nat
deriving DecidableEq, Repr

structure Script where
  name : String
  components : Snapshot
  /-- It fails with this instead of answering. -/
  failure : Option TopologyError
  /-- It panics instead of answering or failing. -/
  mine : Option Mine
  delay : Duration
  /-- Whether it keeps to its deadline. -/
  isBounded : Bool
  /-- Whether it cannot be asked any more once it is closed. -/
  holdsConnection : Bool
  closeFailure : Option TopologyError
  /-- Whether being closed means nothing to it. -/
  ignoresClose : Bool
  isClosed : Bool
deriving DecidableEq, Repr

structure Query where
  source : Nat
  ready : Instant
  /-- The error of a query that will be cut off. -/
  timeout : Option TopologyError
deriving Repr

namespace Script

/-- A script of which nothing is known but the name: it answers at once that there is nothing. -/
def named (name : String) : Script := ⟨name, [], none, none, 0, false, false, none, false, false⟩

def query (s : Script) (i : Nat) (now deadline : Instant) : Query :=
  let ready := now + s.delay
  if s.isBounded && !Deadline.allows deadline now ready then
    ⟨i, Deadline.limit deadline now, some (Deadline.expired deadline now ("query " ++ s.name))⟩
  else ⟨i, ready, none⟩

def answer (s : Script) : Outcome × Script :=
  if s.holdsConnection && s.isClosed then (.failed (.closed s.name), s)
  else
    match s.mine with
    | some ⟨panic, times + 1⟩ => (.panicked panic, { s with mine := some ⟨panic, times⟩ })
    | _ =>
      match s.failure with
      | some e => (.failed e, s)
      | none => (.loaded s.components, s)

def close (s : Script) : Except TopologyError Unit × Script :=
  if s.ignoresClose then (.ok (), s)
  else
    (match s.closeFailure with
      | some e => .error e
      | none => .ok (),
      { s with isClosed := true })

end Script

def scripted : Sources (List Script) Query where
  names ss := ss.map (·.name)
  begin ss i now deadline := ((ss[i]?).getD (.named "")).query i now deadline
  ready q := q.ready
  finish ss q :=
    match q.timeout, ss[q.source]? with
    | some e, _ => (pure (.failed e), ss)
    | none, some s => (pure s.answer.1, ss.set q.source s.answer.2)
    | none, none => (pure (.loaded []), ss)
  close ss i :=
    match ss[i]? with
    | some s => (pure s.close.1, ss.set i s.close.2)
    | none => (pure (.ok ()), ss)

/-! ## Runs -/

open ClusterTopology.Discoverer

/-- A discoverer, its sources, the query under way, and what has been done since that was last asked,
the latest first. -/
structure World (ω κ : Type) where
  state : State
  memory : ω
  query : Option κ
  past : List Effect

variable {ω κ : Type}

/-! ### The schedule -/

/-- The move of a worker, given the outcome of its query if that has ended. -/
def workerMove (answered : Option Outcome) : Worker → Option WorkerMove
  | .spawned => some .begin
  | .asking _ => answered.map .answer
  | .gathered _ => some .store
  | .ended _ => none

def loopMove (sh : Shared) (answered : Option Outcome) : Loop → Option LoopMove
  | .launched => some .launch
  | .cycling _ w =>
    if sh.closed then some .abandon
    else
      match w with
      | .ended _ => some .join
      | w => (workerMove answered w).map .work
  | .publishing _ f => some (if f.done < f.count then .deposit else .report)
  | .choosing due =>
    some (if sh.closed then .stop else if due ≤ sh.now then .tick else if sh.permit then .refresh
      else .park)
  | .parked due notified =>
    if sh.closed then some .stop
    else if due ≤ sh.now then some .tick
    else if notified then some .refresh
    else none
  | .ended | .panicked _ => none

def supervisorMove (sh : Shared) (answered : Option Outcome) : Supervisor → Option SupervisorMove
  | .spawning => some .spawn
  | .watching .ended | .watching (.panicked _) => some .observe
  | .watching l => (loopMove sh answered l).map .control
  | .pausing t => if sh.closed then some .leave else if t ≤ sh.now then some .wake else none
  | .returned => none

/-- The first supervisor of a list that can move, and its move. -/
def firstMove (sh : Shared) (answered : Option Outcome) :
    List Supervisor → Nat → Option (Nat × SupervisorMove)
  | [], _ => none
  | v :: vs, i =>
    match supervisorMove sh answered v with
    | some m => some (i, m)
    | none => firstMove sh answered vs (i + 1)

/-- What happens next of its own accord, given the outcome of the query if that has ended. -/
def nextAction (s : State) (answered : Option Outcome) : Option Action :=
  if s.strays ≠ [] then some (.discard 0)
  else (firstMove s.shared answered s.supervisors 0).map fun (i, m) => .supervise i m

/-! ### Steps of the world -/

namespace World

/-- A discoverer that has just been built, at a time. -/
def new (memory : ω) (now : Instant) : World ω κ := ⟨State.new now, memory, none, []⟩

def effects (w : World ω κ) : List Effect := w.past.reverse

def forget (w : World ω κ) : World ω κ := { w with past := [] }

def tell (w : World ω κ) (es : List Event) : World ω κ :=
  { w with past := (Effect.ofEvents es).reverse ++ w.past }

/-- The world after an action, if the discoverer can take it; the query that the action begins is
begun with the sources. -/
def act (S : Sources ω κ) (setup : Setup) (w : World ω κ) (a : Action) : Option (World ω κ) := do
  let (state, effects) ← w.state.step setup a
  let query := effects.foldl (fun q e =>
    match e with
    | .queried i now deadline => some (S.begin w.memory i now deadline)
    | _ => q) w.query
  return { w with state, query, past := effects.reverse ++ w.past }

/-- `act`, where an action that is not possible changes nothing. -/
def perform (S : Sources ω κ) (setup : Setup) (w : World ω κ) (a : Action) : World ω κ :=
  (w.act S setup a).getD w

/-- The outcome of the query under way, if it has ended, and what the sources remember then. -/
def answered (S : Sources ω κ) (w : World ω κ) : Option (Logged Outcome × ω) :=
  match w.query with
  | some q => if S.ready q ≤ w.state.shared.now then some (S.finish w.memory q) else none
  | none => none

def stepOnce (S : Sources ω κ) (setup : Setup) (w : World ω κ) : Option (World ω κ) := do
  let answer := w.answered S
  match nextAction w.state (answer.map (·.1.value)) with
  | some (.supervise i (.control (.work (.answer o)))) =>
    let memory := (answer.map (·.2)).getD w.memory
    let told := (answer.map (·.1.events)).getD []
    ({ w with memory, query := none }.tell told).act S setup
      (.supervise i (.control (.work (.answer o))))
  | some a => w.act S setup a
  | none => none

/-- What happens of its own accord, at most `fuel` steps. -/
def settleFor (S : Sources ω κ) (setup : Setup) : Nat → World ω κ → World ω κ
  | 0, w => w
  | fuel + 1, w =>
    match w.stepOnce S setup with
    | some w => settleFor S setup fuel w
    | none => w

/-- A bound for the steps that happen at one time.  Between two ticks or requests lie one cycle, which
asks every source and writes every mailbox; at one time two requests can be met, and as many ticks as
lie within the tolerance. -/
def patience (setup : Setup) (w : World ω κ) : Nat :=
  (Loop.tolerance / setup.interval + 8)
    * (2 * setup.sources.length + w.state.shared.registry.size + 16) + w.state.strays.length

/-- Everything that can happen at this time happens. -/
def settle (S : Sources ω κ) (setup : Setup) (w : World ω κ) : World ω κ :=
  settleFor S setup (patience setup w) w

/-! ### Time -/

/-- The time for which a control loop waits, if it waits for one. -/
def loopWaits (query : Option Instant) : Loop → Option Instant
  | .cycling _ (.asking _) => query
  | .parked due _ => some due
  | _ => none

def wakeups (S : Sources ω κ) (w : World ω κ) : List Instant :=
  w.state.supervisors.filterMap fun
    | .watching l => loopWaits (w.query.map S.ready) l
    | .pausing t => some t
    | _ => none

def moveTo (S : Sources ω κ) (setup : Setup) (w : World ω κ) (t : Instant) : World ω κ :=
  w.perform S setup (.elapse (t - w.state.shared.now))

/-- The first time after the present and not after a limit for which a task waits; else the limit. -/
def nextTime (S : Sources ω κ) (w : World ω κ) (limit : Instant) : Instant :=
  (w.wakeups S).foldl (fun t u => if w.state.shared.now < u ∧ u < t then u else t) limit

/-- Time passes until a limit, with everything that happens until then, unless what is asked for is
there before.  `fuel` bounds the number of times at which something happens. -/
def passUntil {α : Type} (S : Sources ω κ) (setup : Setup) (limit : Instant)
    (look : World ω κ → Option (α × World ω κ)) : Nat → World ω κ → Option α × World ω κ
  | 0, w => (none, w)
  | fuel + 1, w =>
    let w := w.settle S setup
    match look w with
    | some (a, w) => (some a, w)
    | none =>
      if limit ≤ w.state.shared.now then (none, w)
      else passUntil S setup limit look fuel (w.moveTo S setup (w.nextTime S limit))

/-- `passUntil` with as much fuel as there are nanoseconds: at every time but the last the clock moves
on. -/
def waitFor {α : Type} (S : Sources ω κ) (setup : Setup) (d : Duration)
    (look : World ω κ → Option (α × World ω κ)) (w : World ω κ) : Option α × World ω κ :=
  passUntil S setup (w.state.shared.now + d) look (d + 1) w

def advance (S : Sources ω κ) (setup : Setup) (d : Duration) (w : World ω κ) : World ω κ :=
  (w.waitFor S setup d fun _ => (none : Option (Unit × World ω κ))).2

/-! ### What clients do -/

/-- A client subscribes: the number of mailboxes then, if the discoverer is still there. -/
def subscribe (S : Sources ω κ) (setup : Setup) (w : World ω κ) : Option (Nat × World ω κ) := do
  let w ← w.act S setup .subscribe
  let w ← w.act S setup (.proceed 0)
  return (w.state.shared.registry.size, w)

def start (S : Sources ω κ) (setup : Setup) (w : World ω κ) :
    Option (Except TopologyError Unit × World ω κ) := do
  if w.state.started then
    let w ← w.act S setup .start
    return (.error .alreadyStarted, w)
  else
    let w ← w.act S setup .start
    let w ← w.act S setup (.proceed 0)
    let w ← w.act S setup (.proceed 0)
    return (.ok (), w)

/-- The source that a close waits for is closed, and then the ones after it, at most `fuel`. -/
def closeSources (S : Sources ω κ) (setup : Setup) : Nat → World ω κ → World ω κ
  | 0, w => w
  | fuel + 1, w =>
    match w.state.calls with
    | .closing c :: _ =>
      let (r, memory) := S.close w.memory c.position
      let w := { w with memory }.tell r.events
      closeSources S setup fuel (w.perform S setup (.sourceClosed 0 r.value))
    | _ => w

/-- What the last close that has come back came back with. -/
def closeResult (effects : List Effect) : Option TopologyError :=
  effects.foldl (fun r e =>
    match e with
    | .returned (.closed failure) => failure
    | _ => r) none

def close (S : Sources ω κ) (setup : Setup) (w : World ω κ) :
    Option (Option TopologyError × World ω κ) := do
  let w ← w.act S setup .close
  let w ← w.act S setup (.proceed 0)
  let w := match w.state.calls with
    | .joining _ :: _ => (w.settle S setup).perform S setup (.proceed 0)
    | _ => w
  let w := closeSources S setup (setup.sources.length + 1) w
  return (closeResult w.effects, w)

/-- A reader waits for a snapshot, at most for a span of time: nothing when its mailbox is gone,
`pending` when nothing came in time. -/
def receive (S : Sources ω κ) (setup : Setup) (i : Nat) (d : Duration) (w : World ω κ) :
    Option (Receipt × World ω κ) := do
  let look (w : World ω κ) : Option (Receipt × World ω κ) :=
    match w.state.shared.registry.receive? i w.state.isWritable with
    | none | some (.pending, _) => none
    | some (r, registry) =>
      some (r, { w with state := { w.state with shared := { w.state.shared with registry } } })
  let _ ← w.state.shared.registry.box? i
  match look w with
  | some found => some found
  | none =>
    let (found, w) := w.waitFor S setup d look
    return (found.getD .pending, w)

end World

end ClusterTopology.Simulation
