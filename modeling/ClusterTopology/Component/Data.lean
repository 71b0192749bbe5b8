import ClusterTopology.Text.Basic
import ClusterTopology.Component
import ClusterTopology.Data.Reader
import ClusterTopology.Json.Document
/-!
The liveness of instances, and components and statuses as data.

A registry says of each instance how it is, and only those that are up come into a topology.  Statuses and
components are written as JSON values and taken back by typed readers: a status by its name, a component as
a record of its four parts, a snapshot as a list of components.

A status has two words: its `name` is what stands in data, and its `text` is what is shown and what the word of
a placement driver is compared with.  A word that means nothing is that of an instance that cannot be reached.

The keys of a component are `name` for its role, `ip`, `port` and `status_port`, and reading needs all four.
What is written and read again is the same snapshot, which is shown in `Proofs.Component.Persistence`.
-/

namespace ClusterTopology

/-! ## Statuses -/

/-- What a registry says about an instance; without word from it an instance is unreachable. -/
inductive Status where
  | unreachable
  | up
  | tombstone
  | offline
  | down
deriving DecidableEq, Repr

namespace Status

instance : Inhabited Status := ⟨unreachable⟩

def text : Status → String
  | unreachable => "unreachable"
  | up => "up"
  | tombstone => "tombstone"
  | offline => "offline"
  | down => "down"

/-- The name of a status in data: its word with a capital. -/
def name : Status → String
  | unreachable => "Unreachable"
  | up => "Up"
  | tombstone => "Tombstone"
  | offline => "Offline"
  | down => "Down"

def all : List Status := [unreachable, up, tombstone, offline, down]

def ofName? (s : String) : Option Status :=
  all.find? fun v => v.name == s

theorem ofName?_name (v : Status) : ofName? v.name = some v := by
  cases v <;> decide

def isUp (v : Status) : Bool :=
  v == up

/-- The status that a placement driver's word for the state of a store stands for.  White space
around it and the case of ASCII letters do not matter, and a word without a meaning of its own says
that the store is unreachable. -/
def ofStoreState (state : String) : Status :=
  let word := String.ofList ((Text.trim state.toList).map Char.toLower)
  (all.find? fun v => v.text == word).getD unreachable

theorem ofStoreState_text (v : Status) : ofStoreState v.text = v := by
  cases v <;> decide +kernel

end Status

open ClusterTopology.Data

/-! ## Writing -/

def Component.value (c : Component) : Json.Value :=
  .obj [("name", .str c.role.text), ("ip", .str c.ip), ("port", .int c.port.toNat),
    ("status_port", .int c.statusPort.toNat)]

def Component.json (c : Component) : String :=
  c.value.text

def Snapshot.value (s : Snapshot) : Json.Value :=
  .arr (s.map Component.value)

def Snapshot.json (s : Snapshot) : String :=
  (Snapshot.value s).text

def Status.json (v : Status) : String :=
  (Json.Value.str v.name).text

/-! ## Reading -/

def Role.reader : Reader Role :=
  Reader.variant (Role.all.map Role.text) Role.ofText?

def Status.reader : Reader Status :=
  Reader.variant (Status.all.map Status.name) Status.ofName?

def Component.fields : Fields Component :=
  Component.mk <$> .required "name" Role.reader <*> .required "ip" Reader.text
    <*> .required "port" Reader.uint16 <*> .required "status_port" Reader.uint16

def Component.reader : Reader Component :=
  Component.fields.reader "Component" .refused

def Snapshot.reader : Reader Snapshot :=
  Reader.list Component.reader

end ClusterTopology
