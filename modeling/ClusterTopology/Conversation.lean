import ClusterTopology.Event
import ClusterTopology.Aggregation
/-!
Work under a deadline, and conversations with the registries, in virtual time.

Work is known by when it ends and with what; it may never end.  Under a deadline it is cut off there with a
timeout.  Work that ends exactly at the deadline is in time, and so is work that takes no time at all, however
late it is called for.

A conversation is a chain of calls.  Every call is made at some time under a deadline, and what it comes to
is known by how long its answer takes.  A call that fails ends the conversation, so a call is made only when
all calls before it have succeeded; which calls were made, and when, is part of what a conversation is.

The constructors of conversations are `refused`, `call`, `andThen` and `mapLogged`, and everything that is
said of the clients of the registries is said of these first: `Proofs.Cluster.Calls` about success, and
`Proofs.Cluster.Course` about time.
-/

namespace ClusterTopology

/-! ## Deadlines -/

namespace Deadline

/-- The time at which work called for at `now` is cut off: the deadline, or at once when that has
passed. -/
def limit (deadline now : Instant) : Instant := max deadline now

/-- Whether work that ends at `ready` is in time. -/
def allows (deadline now ready : Instant) : Bool :=
  decide (ready ≤ limit deadline now)

def expired (deadline now : Instant) (operation : String) : TopologyError :=
  .timeout (limit deadline now - now) operation

/-- Work called for at `now` with its outcome under a deadline.  `none` is work that never ends. -/
def within {α : Type} (deadline now : Instant) (operation : String) :
    Option (Timed (Except TopologyError α)) → Timed (Except TopologyError α)
  | some w =>
    if allows deadline now w.time then w
    else ⟨limit deadline now, .error (expired deadline now operation)⟩
  | none => ⟨limit deadline now, .error (expired deadline now operation)⟩

/-- The time left until a deadline; none when it has passed. -/
def remaining (deadline now : Instant) : Duration := deadline - now

end Deadline

/-! ## Calls -/

namespace Pd

inductive Listing where
  | members
  | health
  | stores
deriving DecidableEq, Repr

def Listing.path : Listing → String
  | members => "/members"
  | health => "/health"
  | stores => "/stores"

end Pd

inductive Call where
  /-- The entries that the servers of the SQL layer have left in etcd. -/
  | tidbEntries
  | listing (l : Pd.Listing)
deriving DecidableEq, Repr

def Call.operation : Call → String
  | tidbEntries => "etcd get /topology/tidb/"
  | listing l => "GET " ++ l.path

/-! ## Conversations -/

/-- What a conversation has come to, and when; the calls that were made, each with the time when it
was, and what was reported. -/
structure Conversation (α : Type) where
  time : Instant
  value : Except TopologyError α
  calls : List (Call × Instant)
  events : List Event
deriving Repr

namespace Conversation

variable {α β : Type}

def refused (now : Instant) (e : TopologyError) : Conversation α := ⟨now, .error e, [], []⟩

def call (deadline now : Instant) (c : Call) (answer : Coming (Except TopologyError α)) :
    Conversation α :=
  let r := Deadline.within deadline now c.operation (answer.since now)
  ⟨r.time, r.value, [(c, now)], []⟩

def andThen (c : Conversation α) (next : α → Instant → Conversation β) : Conversation β :=
  match c.value with
  | .error e => { c with value := .error e }
  | .ok a =>
    let d := next a c.time
    ⟨d.time, d.value, c.calls ++ d.calls, c.events ++ d.events⟩

def mapLogged (c : Conversation α) (f : α → Logged β) : Conversation β :=
  match c.value with
  | .error e => { c with value := .error e }
  | .ok a => { c with value := .ok (f a).value, events := c.events ++ (f a).events }

/-- What a conversation about components has come to, as an outcome with its reports. -/
def outcome (c : Conversation Snapshot) : Logged Outcome :=
  match c.value with
  | .ok s => ⟨.loaded s, c.events⟩
  | .error e => ⟨.failed e, c.events⟩

/-- A conversation that has failed goes no further. -/
theorem andThen_of_error {c : Conversation α} {e : TopologyError} (h : c.value = .error e)
    (next : α → Instant → Conversation β) :
    c.andThen next = { c with value := .error e } := by
  simp only [andThen, h]

/-- A conversation that has succeeded goes on from where it is. -/
theorem andThen_of_ok {c : Conversation α} {a : α} (h : c.value = .ok a)
    (next : α → Instant → Conversation β) :
    c.andThen next = ⟨(next a c.time).time, (next a c.time).value,
      c.calls ++ (next a c.time).calls, c.events ++ (next a c.time).events⟩ := by
  simp only [andThen, h]

end Conversation

end ClusterTopology
