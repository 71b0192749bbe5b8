import ClusterTopology.Pd.Record
import ClusterTopology.Component.Data
import ClusterTopology.Event
import ClusterTopology.Url.Basic
/-!
The members of the placement driver and the stores, as instances with an address and a status.

What cannot be reached by an address is passed over with a report, and never keeps the others out.

A member is taken at its first URL, and it is up when the list of health says so at least once.  A store is
taken at its own address, with the port of its status address, and its status is what the word for its state
stands for.  Its labels say whether it is a row store or a column store.

Both lists go through `partition`: each entry comes to an instance or to a report of what is wrong with it,
the instances keep the order of the list, and the reports are the events.  Only an instance that is up becomes
a component of a topology.
-/

namespace ClusterTopology.Pd

/-! ### Members -/

structure Instance where
  name : String
  host : HostPort
  version : String
  status : Status
deriving DecidableEq, Repr

/-- A member is up when the health list says so at least once. -/
def memberStatus (health : List MemberHealth) (id : UInt64) : Status :=
  if health.any fun h => h.health && h.memberId == id then .up else .unreachable

/-- The instance that a member is, by its first client URL. -/
def Member.instance? (health : List MemberHealth) (m : Member) : Except Event Instance :=
  match m.clientUrls with
  | [] => .error (.memberWithoutUrl m.name)
  | url :: _ =>
    match Url.hostPort? url with
    | none => .error (.memberUrlInvalid m.name url)
    | some host => .ok ⟨m.name, host, m.binaryVersion, memberStatus health m.memberId⟩

/-- The values and the reports of a list of outcomes, both in order. -/
def partition {α : Type} : List (Except Event α) → Logged (List α)
  | [] => ⟨[], []⟩
  | .ok a :: r => { partition r with value := a :: (partition r).value }
  | .error e :: r => { partition r with events := e :: (partition r).events }

theorem partition_value {α : Type} (l : List (Except Event α)) :
    (partition l).value = l.filterMap Except.toOption := by
  induction l with
  | nil => rfl
  | cons x l ih => cases x <;> simp [partition, ih, Except.toOption, List.filterMap_cons]

/-- What is only reported leaves no trace among the values. -/
theorem partition_value_insert {α : Type} (before after : List (Except Event α)) (e : Event) :
    (partition (before ++ .error e :: after)).value = (partition (before ++ after)).value := by
  simp [partition_value, List.filterMap_cons, Except.toOption]

def instances (members : List Member) (health : List MemberHealth) : Logged (List Instance) :=
  partition (members.map (Member.instance? health))

/-- The components that members are.  The placement driver reports its status where it serves. -/
def components (is : List Instance) : Snapshot :=
  (is.filter fun i => i.status.isUp).map fun i => ⟨.pd, i.host.host, i.host.port, i.host.port⟩

/-! ### Stores -/

structure StoreInstance where
  id : UInt64
  host : HostPort
  statusPort : UInt16
  version : String
  status : Status
deriving DecidableEq, Repr

/-- The instance that a store is, and whether it is a column store. -/
def Store.instance? (s : Store) : Except Event (Bool × StoreInstance) :=
  match HostPort.ofText? s.address with
  | none => .error (.storeAddressInvalid s.id.toNat s.address)
  | some host =>
    match HostPort.ofText? s.statusAddress with
    | none => .error (.storeStatusAddressInvalid s.id.toNat s.statusAddress)
    | some status =>
      .ok (s.isTiflash, ⟨s.id, host, status.port, s.version, Status.ofStoreState s.stateName⟩)

structure StoreInstances where
  tikv : List StoreInstance
  tiflash : List StoreInstance
deriving DecidableEq, Repr

/-- The stores as instances: row stores and column stores, each kind in its order. -/
def storeInstances (stores : List Store) : Logged StoreInstances :=
  let found := partition (stores.map Store.instance?)
  ⟨⟨(found.value.filter fun p => !p.1).map (·.2), (found.value.filter fun p => p.1).map (·.2)⟩,
    found.events⟩

def storeComponentsOf (role : Role) (is : List StoreInstance) : Snapshot :=
  (is.filter fun i => i.status.isUp).map fun i => ⟨role, i.host.host, i.host.port, i.statusPort⟩

/-- The components that stores are: the row stores, then the column stores. -/
def storeComponents (s : StoreInstances) : Snapshot :=
  storeComponentsOf .tikv s.tikv ++ storeComponentsOf .tiflash s.tiflash

end ClusterTopology.Pd
