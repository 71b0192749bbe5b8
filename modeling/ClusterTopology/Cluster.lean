import ClusterTopology.Discoverer
import ClusterTopology.Pd.Client
import ClusterTopology.Aggregation
import ClusterTopology.Tidb.Client
/-!
A cluster as its registries tell of it: the three sources that a discoverer asks.

The servers of the SQL layer come first, from etcd; then the members of the placement driver, and then
the stores, both from its own interface.  What the registries answer is a function of the time of the
request, so that everything about a cycle can be said in virtual time.

`connect` loads the material and builds the two clients, and stops at the first thing that cannot be had;
`build` adds what the discoverer itself is made from.  The three sources share the clients.  A cycle makes four
calls: one to etcd, then two for the members and their health, then one for the stores.

`sources` puts this into the form that `Aggregation` takes, where a query is a conversation that is held
already and ready at its end.  Only the client of etcd holds anything that a close could release.
-/

namespace ClusterTopology.Cluster

/-! ### Clients -/

structure Clients where
  etcd : Tidb.Client
  pd : Pd.Client
deriving DecidableEq, Repr

def sourceNames : List String := ["etcd", "pd", "stores"]

def connect (files : Files) (c : Config) : Logged (Except TopologyError Clients) :=
  match c.pd.endpoints with
  | [] => ⟨.error (.config Config.Invalid.noEndpoints.message), []⟩
  | first :: _ => do
    let scheme := c.security.httpScheme
    match ← Tls.Material.load files c.security with
    | .error e => return .error e
    | .ok tls =>
      match ← Pd.Client.create first scheme tls with
      | .error e => return .error e
      | .ok pd =>
        match ← Tidb.Client.connect c.pd.endpoints scheme tls with
        | .error e => return .error e
        | .ok etcd =>
          .report (.discovererCreated scheme c.discovery.refreshInterval.toNat)
          return .ok ⟨etcd, pd⟩

/-- A discoverer over the clients that a configuration asks for: what it is built from, and the
clients. -/
def build (files : Files) (c : Config) :
    Logged (Except TopologyError (Discoverer.Setup × Clients)) := do
  match ← connect files c with
  | .error e => return .error e
  | .ok clients =>
    return (Discoverer.Setup.make sourceNames c.discovery.interval).map fun setup => (setup, clients)

/-! ### Sources -/

/-- What the registries answer, and the time of day, for any reading of the clock. -/
structure Peers where
  etcd : Tidb.Peer
  pd : Pd.Peer
  unixNanos : Instant → Int

/-- The query of a source: the servers of the SQL layer, the members, or the stores. -/
def query (peers : Peers) (c : Clients) (source : Nat) (now deadline : Instant) :
    Conversation Snapshot :=
  match source with
  | 0 => c.etcd.components peers.etcd peers.unixNanos deadline now
  | 1 => c.pd.components peers.pd deadline now
  | _ => c.pd.storeComponents peers.pd deadline now

/-- A source closed; only the client of etcd holds anything. -/
def close (c : Clients) (source : Nat) : Logged (Except TopologyError Unit) × Clients :=
  match source with
  | 0 => (⟨.ok (), c.etcd.close.events⟩, { c with etcd := c.etcd.close.value })
  | _ => (⟨.ok (), []⟩, c)

def sources (peers : Peers) : Sources Clients (Conversation Snapshot) where
  names _ := sourceNames
  begin := query peers
  ready q := q.time
  finish c q := (q.outcome, c)
  close := close

end ClusterTopology.Cluster
