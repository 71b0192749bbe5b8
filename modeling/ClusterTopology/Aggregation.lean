import ClusterTopology.Component
import ClusterTopology.Event
import ClusterTopology.Mailbox
/-!
Asking all sources, and closing all of them.

An aggregation asks the sources one after the other, all under one deadline, and joins what they answer.  The
first source that fails ends it, so it never comes to a part of the topology.  Closing is the other way
round: every source is closed whatever the others do, and the first failure is told at the end.

Both are machines that take one answer at a time, so that whoever drives them decides when and what a source
answers.  A discoverer drives them from its tasks, step by step, and what the world sees of that is a list of
`Effect`s.  Where the sources are known by how they behave in virtual time, `Sources.aggregate` and
`Sources.closeAll` drive them to the end in one go.

`Aggregation.Stage` and `Closing.Stage` are what such a machine is waiting for, and `answer` is its one
step.  The aggregation keeps what has been found so far and the sources that are left, and the closing keeps
the first failure.  A panic of a source is an outcome like the others here, because the worker that asks
ends with it.
-/

namespace ClusterTopology

/-! ## Machines

A machine waits for one source at a time and goes on with its answer. -/

/-! ### What a query comes to -/

inductive Panic where
  | text (s : String)
  /-- Something that is no text. -/
  | other
deriving DecidableEq, Repr

def Panic.message : Panic → String
  | text s => s
  | other => "unknown panic payload"

/-- The panic of a sum of a clock reading and a span that the clock cannot show. -/
def Panic.clockOverflow : Panic := .text "overflow when adding duration to instant"

/-- What asking ends with: one source, or all of them. -/
inductive Outcome where
  | loaded (s : Snapshot)
  | failed (error : TopologyError)
  | panicked (panic : Panic)
deriving DecidableEq, Repr

/-! ### Asking -/

structure Aggregation where
  deadline : Instant
  /-- What the sources before have answered. -/
  found : Snapshot
  /-- The place of the source that is being asked. -/
  position : Nat
  /-- Its name. -/
  name : String
  /-- The names of the sources after it. -/
  rest : List String
deriving DecidableEq, Repr

namespace Aggregation

inductive Stage where
  | asking (a : Aggregation)
  | ended (o : Outcome)
deriving DecidableEq, Repr

/-- The next source of those that are left is asked; when none is left, all has been found. -/
def ask (deadline : Instant) (found : Snapshot) (position : Nat) : List String → Stage
  | [] => .ended (.loaded found)
  | name :: rest => .asking ⟨deadline, found, position, name, rest⟩

def start (deadline : Instant) (names : List String) : Stage :=
  ask deadline [] 0 names

/-- What follows an answer of the source that is being asked. -/
def answer (a : Aggregation) : Outcome → Logged Stage
  | .loaded s =>
    ⟨ask a.deadline (a.found ++ s) (a.position + 1) a.rest, [.sourceQueried a.name s.length]⟩
  | .failed e => ⟨.ended (.failed e), [.sourceFailed a.name e]⟩
  | .panicked p => ⟨.ended (.panicked p), []⟩

end Aggregation

def Aggregation.describe (names : List String) : String :=
  "Aggregator \x7b sources: " ++ Text.quotedList names ++ " \x7d"

/-! ### Closing -/

structure Closing where
  /-- The failure of the first source that failed. -/
  failure : Option TopologyError
  /-- The place of the source that is being closed. -/
  position : Nat
  /-- Its name. -/
  name : String
  /-- The names of the sources after it. -/
  rest : List String
deriving DecidableEq, Repr

namespace Closing

inductive Stage where
  | closing (c : Closing)
  | ended (failure : Option TopologyError)
deriving DecidableEq, Repr

def next (failure : Option TopologyError) (position : Nat) : List String → Stage
  | [] => .ended failure
  | name :: rest => .closing ⟨failure, position, name, rest⟩

def start (names : List String) : Stage :=
  next none 0 names

/-- What follows when the source that is being closed has answered. -/
def answer (c : Closing) : Except TopologyError Unit → Logged Stage
  | .ok () => ⟨next c.failure (c.position + 1) c.rest, []⟩
  | .error e =>
    ⟨next (c.failure <|> some e) (c.position + 1) c.rest, [.sourceCloseFailed c.name e]⟩

end Closing

/-! ## Effects -/

inductive Return where
  | mailbox (index : Nat)
  | started
  | alreadyStarted
  | closed (failure : Option TopologyError)
deriving DecidableEq, Repr

inductive Effect where
  | event (e : Event)
  /-- The query of a source begins. -/
  | queried (source : Nat) (time deadline : Instant)
  /-- A source is told to release what it holds. -/
  | closed (source : Nat)
  /-- The current snapshot is replaced. -/
  | stored (s : Snapshot)
  /-- A mailbox is written. -/
  | deposited (mailbox : Nat) (s : Snapshot)
  /-- A mailbox is read without waiting. -/
  | received (mailbox : Nat) (s : Option Snapshot)
  | returned (r : Return)
deriving DecidableEq, Repr

namespace Effect

def events (es : List Effect) : List Event :=
  es.filterMap fun
    | .event e => some e
    | _ => none

def ofEvents (es : List Event) : List Effect := es.map .event

end Effect

/-! ## Sources

`Sources` says how sources behave in virtual time, whatever they are: a query begins, it is known when
it will end, and at that time it has an outcome.  They may remember what has been done with them: what
they are at the moment is a value that every operation takes and gives back. -/

/-- The behaviour of a list of sources.  `ω` is what they remember, `κ` a query under way. -/
structure Sources (ω κ : Type) where
  /-- The names of the sources, in the order in which they are asked. -/
  names : ω → List String
  /-- The query of a source begins at a time, under a deadline. -/
  begin : ω → (source : Nat) → (now deadline : Instant) → κ
  /-- When a query that has begun will end. -/
  ready : κ → Instant
  /-- What a query ends with, and what it reports. -/
  finish : ω → κ → Logged Outcome × ω
  /-- A source releases what it holds. -/
  close : ω → (source : Nat) → Logged (Except TopologyError Unit) × ω

namespace Sources

/-- What is left after sources have been asked or closed one after the other: when, with what, and what
has been done. -/
structure Pass (ω α : Type) where
  time : Instant
  value : α
  memory : ω
  effects : List Effect

variable {ω κ : Type}

/-- The sources that are left are asked, from the one at a place on. -/
def askFrom (S : Sources ω κ) (deadline : Instant) :
    List String → Nat → Snapshot → Instant → ω → Pass ω Outcome
  | [], _, found, now, w => ⟨now, .loaded found, w, []⟩
  | name :: rest, position, found, now, w =>
    let query := S.begin w position now deadline
    let (o, w) := S.finish w query
    let time := S.ready query
    let r := (Aggregation.mk deadline found position name rest).answer o.value
    let effects := .queried position now deadline :: Effect.ofEvents (o.events ++ r.events)
    match r.value with
    | .ended r => ⟨time, r, w, effects⟩
    | .asking a =>
      let p := askFrom S deadline rest a.position a.found time w
      { p with effects := effects ++ p.effects }

/-- All sources are asked under one deadline: what they have together, or the first failure. -/
def aggregate (S : Sources ω κ) (deadline now : Instant) (w : ω) : Pass ω Outcome :=
  S.askFrom deadline (S.names w) 0 [] now w

/-- The sources that are left are closed, from the one at a place on. -/
def closeFrom (S : Sources ω κ) : List String → Nat → Option TopologyError → ω →
    (Option TopologyError × ω × List Effect)
  | [], _, failure, w => (failure, w, [])
  | name :: rest, position, failure, w =>
    let (r, w) := S.close w position
    let after := (Closing.mk failure position name rest).answer r.value
    let failure := match after.value with
      | .closing c => c.failure
      | .ended failure => failure
    let (failure, w, effects) := closeFrom S rest (position + 1) failure w
    (failure, w, .closed position :: Effect.ofEvents (r.events ++ after.events) ++ effects)

/-- All sources are closed: the first failure, if there was one. -/
def closeAll (S : Sources ω κ) (w : ω) : Option TopologyError × ω × List Effect :=
  S.closeFrom (S.names w) 0 none w

end Sources

end ClusterTopology
