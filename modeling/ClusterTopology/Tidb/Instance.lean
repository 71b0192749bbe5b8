import ClusterTopology.Json.Document
import ClusterTopology.Component
import ClusterTopology.Component.Data
import ClusterTopology.Event
/-!
The servers of the SQL layer, from what they register in etcd.

A server keeps two entries under `/topology/tidb/<address>/`: under `info` a record that describes it,
and under `ttl` the time of its last heartbeat.  The entries come as a list in any order.  Of every
address with a valid description the last valid one counts, and its server is up when some heartbeat
under the same address is recent.

`KeyParts.ofKey?` takes a key apart into the address and the kind of the entry, without the slashes at its end;
a key of any other shape says nothing.  A description that cannot be read is reported and skipped, and a
heartbeat that is no number is as good as none.

The entries are gone through once.  `Gathered` holds what is known so far, the descriptions sorted by the text
of the address and the addresses that are alive.  Then the servers are sorted, stably, by host and port, so
that addresses which are the same host and port in other words keep the order of their texts.
-/

namespace ClusterTopology.Tidb

open ClusterTopology.Data
open ClusterTopology.Data.Fields (required withDefault)

/-! ### Entries -/

def keyStart : String := "/topology/tidb/"

structure Entry where
  key : String
  value : List UInt8
deriving DecidableEq, Repr

structure KeyParts where
  address : String
  kind : String
deriving DecidableEq, Repr

/-- The parts of a key: behind the start, and without the slashes at the end, an address and a kind
divided by one slash. -/
def KeyParts.ofKey? (key : String) : Option KeyParts := do
  let rest ← keyStart.toList.isPrefixOf? key.toList
  match (rest.reverse.dropWhile (· == '/')).reverse.splitOn '/' with
  | [address, kind] => some ⟨String.ofList address, String.ofList kind⟩
  | _ => none

/-! ### Descriptions -/

structure Info where
  version : String
  gitHash : String
  statusPort : UInt16
  deployPath : String
  startTimestamp : Int
deriving DecidableEq, Repr

/-- The reader of a description; the status port has to be there. -/
def Info.reader : Reader Info :=
  (Info.mk <$> withDefault "version" Reader.text "" <*> withDefault "git_hash" Reader.text ""
    <*> required "status_port" Reader.uint16 <*> withDefault "deploy_path" Reader.text ""
    <*> withDefault "start_timestamp" Reader.int64 0).reader "TidbTopologyInfo" .refused

structure Instance where
  host : HostPort
  info : Info
  status : Status
deriving DecidableEq, Repr

/-- The host and the description of a server, from the address in a key and the value under it. -/
def describe (address : String) (value : List UInt8) : Except TopologyError (HostPort × Info) :=
  match HostPort.ofText? address with
  | none => .error (.decode "etcd" ("invalid TiDB address '" ++ address ++ "'"))
  | some host =>
    match Json.decode Info.reader value with
    | .ok info => .ok (host, info)
    | .error e => .error (.decode "json" e.message)

/-! ### Heartbeats -/

/-- A heartbeat older than this leaves its server unreachable: 45 seconds, in nanoseconds. -/
def freshness : Int := 45000000000

/-- A number brought into the range of a signed word of 64 bits. -/
def clampInt64 (n : Int) : Int :=
  max (-9223372036854775808) (min 9223372036854775807 n)

/-- The time that a heartbeat tells, in nanoseconds: an integer numeral of a signed word of 64 bits,
perhaps between white space. -/
def heartbeat? (value : List UInt8) : Option Int := do
  let s ← Json.utf8Text? value
  Text.readInt64? (Text.trim s.toList)

/-- Whether a heartbeat is recent at `now`; one from the future is.  The difference saturates. -/
def isFresh (value : List UInt8) (now : Int) : Bool :=
  match heartbeat? value with
  | some t => clampInt64 (now - t) ≤ freshness
  | none => false

/-! ### The list of entries -/

/-- What has been gathered from the entries so far: descriptions by address, in the order of the
addresses, and the addresses with a recent heartbeat. -/
structure Gathered where
  infos : List (String × HostPort × Info)
  alive : List String
deriving Repr

/-- A list sorted by keys with a value put under a key, in place of the one that was there. -/
def putSorted {α : Type} (k : String) (v : α) : List (String × α) → List (String × α)
  | [] => [(k, v)]
  | (k', v') :: r =>
    if k = k' then (k, v) :: r
    else if k < k' then (k, v) :: (k', v') :: r
    else (k', v') :: putSorted k v r

def Gathered.add (now : Int) (g : Gathered) (e : Entry) : Logged Gathered :=
  match KeyParts.ofKey? e.key with
  | none => pure g
  | some ⟨address, kind⟩ =>
    if kind = "info" then
      match describe address e.value with
      | .ok d => pure { g with infos := putSorted address d g.infos }
      | .error error => ⟨g, [.tidbInfoSkipped address error]⟩
    else if kind = "ttl" then
      if isFresh e.value now then pure { g with alive := address :: g.alive } else pure g
    else pure g

def Gathered.ofEntries (now : Int) : Gathered → List Entry → Logged Gathered
  | g, [] => pure g
  | g, e :: es => do
    let g ← g.add now e
    ofEntries now g es

/-- The order of servers in a topology: by host, then by port. -/
def Instance.le (a b : Instance) : Bool :=
  decide (a.host.host < b.host.host) ||
    (a.host.host == b.host.host && decide (a.host.port ≤ b.host.port))

def Gathered.instances (g : Gathered) : List Instance :=
  (g.infos.map fun (address, host, info) =>
    ⟨host, info, if address ∈ g.alive then .up else .unreachable⟩).mergeSort Instance.le

/-- The servers that entries describe at `now`, and a report for each description that is skipped. -/
def instances (now : Int) (entries : List Entry) : Logged (List Instance) :=
  let g := Gathered.ofEntries now ⟨[], []⟩ entries
  ⟨g.value.instances, g.events⟩

def components (is : List Instance) : Snapshot :=
  (is.filter fun i => i.status.isUp).map fun i => ⟨.tidb, i.host.host, i.host.port, i.info.statusPort⟩

end ClusterTopology.Tidb
