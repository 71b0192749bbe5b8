import ClusterTopology.Proofs.Cluster.Blocks
import ClusterTopology.Proofs.Cluster.Calls
import ClusterTopology.Proofs.Cluster.AllOrNothing
/-!
What a snapshot of a cluster consists of.

The three sources of a cluster make four calls, one after the other.  When all of them succeed the
snapshot is four blocks of records, one for each role in the order of the roles, and each record is that
of an instance that is up.  When one of them does not, there is no snapshot.

`Listed` holds what the four calls have given, and `Lists` says that they have given it, each at the time
when the one before has ended.  The blocks are defined from `Listed` and nothing else.  A query succeeds
exactly when its part of `Lists` holds, and an aggregation loads exactly when its queries succeed one after
the other (`loads_cons_iff`), so the main result is the chain of three such equivalences.  The order of the
blocks and the multiplicities of records are lemmas about `Listed.snapshot`.
-/

namespace ClusterTopology.Cluster

/-- What the registries have answered to the four calls, and what the time of day was when the entries of
etcd were there. -/
structure Listed where
  entries : List Tidb.Entry
  unixNanos : Int
  members : List Pd.Member
  health : List Pd.MemberHealth
  stores : List Pd.Store

namespace Listed

def servers (l : Listed) : List Tidb.Instance := (Tidb.instances l.unixNanos l.entries).value

def tidb (l : Listed) : Snapshot := l.servers.filterMap Tidb.Instance.record?

def pd (l : Listed) : Snapshot := l.members.filterMap (Pd.Member.record? l.health)

def tikv (l : Listed) : Snapshot := (l.stores.filter fun s => !s.isTiflash).filterMap Pd.Store.record?

def tiflash (l : Listed) : Snapshot :=
  (l.stores.filter fun s => s.isTiflash).filterMap Pd.Store.record?

def snapshot (l : Listed) : Snapshot := l.tidb ++ l.pd ++ l.tikv ++ l.tiflash

theorem role_of_mem_tidb {l : Listed} {r : Component} (h : r ∈ l.tidb) : r.role = .tidb := by
  obtain ⟨i, -, hi⟩ := List.mem_filterMap.mp h
  exact (Tidb.Instance.eq_of_record? hi).1

theorem role_of_mem_pd {l : Listed} {r : Component} (h : r ∈ l.pd) :
    r.role = .pd ∧ r.statusPort = r.port := by
  obtain ⟨m, -, hm⟩ := List.mem_filterMap.mp h
  exact Pd.Member.role_of_record? hm

theorem role_of_mem_tikv {l : Listed} {r : Component} (h : r ∈ l.tikv) : r.role = .tikv := by
  obtain ⟨s, hs, hrecord⟩ := List.mem_filterMap.mp h
  have hkind : s.isTiflash = false := by simpa using (List.mem_filter.mp hs).2
  rw [Pd.Store.role_of_record? hrecord, Pd.Store.role, hkind]
  rfl

theorem role_of_mem_tiflash {l : Listed} {r : Component} (h : r ∈ l.tiflash) : r.role = .tiflash := by
  obtain ⟨s, hs, hrecord⟩ := List.mem_filterMap.mp h
  have hkind : s.isTiflash = true := (List.mem_filter.mp hs).2
  rw [Pd.Store.role_of_record? hrecord, Pd.Store.role, hkind]
  rfl

/-- The roles of a snapshot never go back. -/
theorem pairwise_rank (l : Listed) :
    l.snapshot.Pairwise fun a b => a.role.rank ≤ b.role.rank := by
  have hsame {block : Snapshot} {role : Role} (h : ∀ r ∈ block, r.role = role) :
      block.Pairwise fun a b => a.role.rank ≤ b.role.rank := by
    apply List.pairwise_of_forall_mem_list
    intro a ha b hb
    rw [h a ha, h b hb]
  have htidb := hsame fun r (hr : r ∈ l.tidb) => role_of_mem_tidb hr
  have hpd := hsame fun r (hr : r ∈ l.pd) => (role_of_mem_pd hr).1
  have htikv := hsame fun r (hr : r ∈ l.tikv) => role_of_mem_tikv hr
  have htiflash := hsame fun r (hr : r ∈ l.tiflash) => role_of_mem_tiflash hr
  refine List.pairwise_append.mpr
    ⟨List.pairwise_append.mpr ⟨List.pairwise_append.mpr ⟨htidb, hpd, ?_⟩, htikv, ?_⟩, htiflash, ?_⟩
  · intro a ha b hb
    rw [role_of_mem_tidb ha]
    exact Nat.zero_le _
  · intro a ha b hb
    rw [role_of_mem_tikv hb]
    rcases List.mem_append.mp ha with ha | ha
    · rw [role_of_mem_tidb ha]
      decide
    · rw [(role_of_mem_pd ha).1]
      decide
  · intro a ha b hb
    rw [role_of_mem_tiflash hb]
    cases a.role <;> decide

/-- A record occurs as often as there are instances that it is the record of. -/
theorem count_snapshot (l : Listed) (r : Component) :
    l.snapshot.count r = l.servers.countP (·.record? == some r) +
      l.members.countP (·.record? l.health == some r) + l.stores.countP (·.record? == some r) := by
  have hstores := List.countP_eq_countP_filter_add l.stores
    (fun s : Pd.Store => s.record? == some r) (fun s => s.isTiflash)
  rw [hstores, snapshot, tidb, pd, tikv, tiflash]
  simp only [List.count_append, List.count_filterMap]
  omega

end Listed

/-- The four calls of a cycle have succeeded, one after the other. -/
inductive Lists (peers : Peers) (c : Clients) (deadline now : Instant) : Listed → Prop where
  | mk {pairs : List (List UInt8 × List UInt8)} {members : List Pd.Member}
      {health : List Pd.MemberHealth} {stores : List Pd.Store} {t₁ t₂ t₃ t₄ : Instant}
      (hentries : c.etcd.Serves peers.etcd deadline now pairs t₁)
      (hmembers : c.pd.Serves peers.pd .members Pd.membersReader deadline t₁ members t₂)
      (hhealth : c.pd.Serves peers.pd .health Pd.healthReader deadline t₂ health t₃)
      (hstores : c.pd.Serves peers.pd .stores Pd.storesReader deadline t₃ stores t₄) :
      Lists peers c deadline now
        ⟨Tidb.readableEntries pairs, peers.unixNanos t₁, members, health, stores⟩

theorem loads_cons_iff {peers : Peers} {c : Clients} {deadline now : Instant} {name : String}
    {rest : List String} {position : Nat} {parts : List Snapshot} :
    (sources peers).Loads deadline (name :: rest) position now c parts ↔ ∃ part t more,
      (query peers c position now deadline).Succeeds part t ∧
      (sources peers).Loads deadline rest (position + 1) t c more ∧ parts = part :: more := by
  constructor
  · intro h
    cases h with
    | cons hpart hrest =>
      exact ⟨_, _, _, Conversation.outcome_eq_loaded_iff.mp hpart, hrest, rfl⟩
  · rintro ⟨part, t, more, ⟨hvalue, rfl⟩, hrest, rfl⟩
    exact .cons (Conversation.outcome_eq_loaded_iff.mpr ⟨hvalue, rfl⟩) hrest

theorem loads_nil_iff {peers : Peers} {c : Clients} {deadline now : Instant} {position : Nat}
    {parts : List Snapshot} :
    (sources peers).Loads deadline [] position now c parts ↔ parts = [] := by
  constructor
  · rintro ⟨⟩
    rfl
  · rintro rfl
    exact .nil position now c

theorem servers_succeed_iff {peers : Peers} {c : Clients} {deadline now : Instant} {part : Snapshot}
    {t : Instant} :
    (query peers c 0 now deadline).Succeeds part t ↔ ∃ pairs,
      c.etcd.Serves peers.etcd deadline now pairs t ∧
      part = (Tidb.instances (peers.unixNanos t) (Tidb.readableEntries pairs)).value.filterMap
        Tidb.Instance.record? := by
  simp only [← Tidb.components_eq]
  exact Tidb.Client.components_succeeds_iff

theorem members_succeed_iff {peers : Peers} {c : Clients} {deadline now : Instant} {part : Snapshot}
    {t : Instant} :
    (query peers c 1 now deadline).Succeeds part t ↔ ∃ members health t',
      c.pd.Serves peers.pd .members Pd.membersReader deadline now members t' ∧
      c.pd.Serves peers.pd .health Pd.healthReader deadline t' health t ∧
      part = members.filterMap (Pd.Member.record? health) := by
  simp only [← Pd.components_instances]
  exact Pd.Client.components_succeeds_iff

theorem stores_succeed_iff {peers : Peers} {c : Clients} {deadline now : Instant} {part : Snapshot}
    {t : Instant} :
    (query peers c 2 now deadline).Succeeds part t ↔ ∃ stores,
      c.pd.Serves peers.pd .stores Pd.storesReader deadline now stores t ∧
      part = (stores.filter fun s => !s.isTiflash).filterMap Pd.Store.record? ++
        (stores.filter fun s => s.isTiflash).filterMap Pd.Store.record? := by
  simp only [← Pd.storeComponents_storeInstances]
  exact Pd.Client.storeComponents_succeeds_iff

/-- The sources of a cluster load when the four calls succeed. -/
theorem loads_iff {peers : Peers} {c : Clients} {deadline now : Instant} {parts : List Snapshot} :
    (sources peers).Loads deadline sourceNames 0 now c parts ↔
      ∃ l, Lists peers c deadline now l ∧ parts = [l.tidb, l.pd, l.tikv ++ l.tiflash] := by
  simp only [sourceNames, loads_cons_iff, loads_nil_iff, Nat.reduceAdd, servers_succeed_iff,
    members_succeed_iff, stores_succeed_iff]
  constructor
  · rintro ⟨_, t₁, _, ⟨pairs, hentries, rfl⟩, ⟨_, t₃, _, ⟨members, health, t₂, hmembers, hhealth, rfl⟩,
      ⟨_, t₄, _, ⟨stores, hstores, rfl⟩, rfl, rfl⟩, rfl⟩, rfl⟩
    exact ⟨_, .mk hentries hmembers hhealth hstores, rfl⟩
  · rintro ⟨_, ⟨hentries, hmembers, hhealth, hstores⟩, rfl⟩
    exact ⟨_, _, _, ⟨_, hentries, rfl⟩, ⟨_, _, _, ⟨_, _, _, hmembers, hhealth, rfl⟩,
      ⟨_, _, _, ⟨_, hstores, rfl⟩, rfl, rfl⟩, rfl⟩, rfl⟩

/-- **A snapshot of a cluster is four blocks.**  There is one when all four calls succeed, each made
where the one before has ended, and when one of them fails its error is all there is.  The blocks are
the records of the servers, the members, the row stores and the column stores that are up and can be
reached: the servers in the order of host and port, all others in the order of their list.  The roles
never go back, and a record occurs as often as there are instances that it is the record of. -/
theorem snapshot_is_four_blocks (peers : Peers) (c : Clients) (deadline now : Instant) :
    (∀ s, ((sources peers).aggregate deadline now c).value = .loaded s ↔
      ∃ l, Lists peers c deadline now l ∧ s = l.tidb ++ l.pd ++ l.tikv ++ l.tiflash) ∧
    ((∀ l, ¬ Lists peers c deadline now l) →
      ∃ e, ((sources peers).aggregate deadline now c).value = .failed e) ∧
    ∀ l : Listed, l.tidb.Pairwise Component.Before ∧ (∀ r ∈ l.pd, r.statusPort = r.port) ∧
      (l.snapshot.Pairwise fun a b => a.role.rank ≤ b.role.rank) ∧
      ∀ r, l.snapshot.count r = l.servers.countP (·.record? == some r) +
        l.members.countP (·.record? l.health == some r) + l.stores.countP (·.record? == some r) := by
  have hloaded (s : Snapshot) : ((sources peers).aggregate deadline now c).value = .loaded s ↔
      ∃ l, Lists peers c deadline now l ∧ s = l.tidb ++ l.pd ++ l.tikv ++ l.tiflash := by
    unfold Sources.aggregate
    rw [Sources.askFrom_eq_loaded_iff]
    constructor
    · rintro ⟨parts, hloads, rfl⟩
      obtain ⟨l, hlists, rfl⟩ := loads_iff.mp hloads
      exact ⟨l, hlists, by simp⟩
    · rintro ⟨l, hlists, rfl⟩
      exact ⟨_, loads_iff.mpr ⟨l, hlists, rfl⟩, by simp⟩
  refine ⟨hloaded, ?_, ?_⟩
  · intro hnone
    cases hvalue : ((sources peers).aggregate deadline now c).value with
    | loaded s =>
      obtain ⟨l, hlists, -⟩ := (hloaded s).mp hvalue
      exact absurd hlists (hnone l)
    | failed e => exact ⟨e, rfl⟩
    | panicked p =>
      refine absurd hvalue (Sources.askFrom_ne_panicked _ ?_)
      intro w q p
      exact Conversation.outcome_ne_panicked q p
  · intro l
    refine ⟨Tidb.pairwise_records _ _, ?_, l.pairwise_rank, l.count_snapshot⟩
    intro r hr
    exact (Listed.role_of_mem_pd hr).2

/-! ### A small cluster -/

def smallPairs : List (List UInt8 × List UInt8) :=
  [("/topology/tidb/10.0.0.2:4000/info", "\x7b\"status_port\":10082\x7d"),
    ("/topology/tidb/10.0.0.2:4000/ttl", "7"),
    ("/topology/tidb/10.0.0.1:4000/ttl", "7"),
    ("/topology/tidb/10.0.0.1:4000/info", "\x7b\"status_port\":10081\x7d"),
    ("/topology/tidb/10.0.0.3:4000/info", "\x7b\"status_port\":10083\x7d")].map
      fun (key, value) => (Text.asciiBytes key, Text.asciiBytes value)

/-- Two members, of which one is healthy, and three stores, of which two are alike. -/
def smallLists : Pd.Listing → String
  | .members => "\x7b\"members\":[\x7b\"member_id\":1,\"client_urls\":[\"http://[::1]:2379\"]\x7d," ++
      "\x7b\"member_id\":2,\"client_urls\":[\"http://[::2]:2379\"]\x7d]\x7d"
  | .health => "[\x7b\"member_id\":2,\"health\":true\x7d]"
  | .stores =>
    let store (host : String) (labels : String) : String :=
      "\x7b\"store\":\x7b\"address\":\"" ++ host ++ ":1\",\"status_address\":\"" ++ host ++
        ":2\",\"state_name\":\"Up\"" ++ labels ++ "\x7d\x7d"
    "\x7b\"stores\":[" ++
      store "c" ",\"labels\":[\x7b\"key\":\"engine\",\"value\":\"tiflash\"\x7d]" ++ "," ++
      store "r" "" ++ "," ++ store "r" "" ++ "]\x7d"

/-- Registries that answer after a nanosecond. -/
def smallPeers : Peers where
  etcd _ := some ⟨1, .entries smallPairs⟩
  pd l _ := some ⟨1, .answered 200 (.whole (Text.asciiBytes (smallLists l)))⟩
  unixNanos _ := 10

def smallClients : Clients := ⟨⟨false⟩, ⟨"http://[::1]:2379/pd/api/v1"⟩⟩

def smallListed : Listed where
  entries := Tidb.readableEntries smallPairs
  unixNanos := 10
  members :=
    [⟨"", 1, ["http://[::1]:2379"], "", "", ""⟩, ⟨"", 2, ["http://[::2]:2379"], "", "", ""⟩]
  health := [⟨"", 2, true⟩]
  stores :=
    [⟨0, "c:1", "Up", "", "c:2", some [⟨"engine", "tiflash"⟩], 0⟩,
      ⟨0, "r:1", "Up", "", "r:2", none, 0⟩, ⟨0, "r:1", "Up", "", "r:2", none, 0⟩]

def smallSnapshot : Snapshot :=
  [⟨.tidb, "10.0.0.1", 4000, 10081⟩, ⟨.tidb, "10.0.0.2", 4000, 10082⟩, ⟨.pd, "::2", 2379, 2379⟩,
    ⟨.tikv, "r", 1, 2⟩, ⟨.tikv, "r", 1, 2⟩, ⟨.tiflash, "c", 1, 2⟩]

theorem smallListed_lists : Lists smallPeers smallClients 4 0 smallListed := by
  refine .mk ⟨rfl, 1, rfl, rfl, by decide⟩
    ⟨"http://[::1]:2379/pd/api/v1/members", 1, 200, _, ?_, rfl, rfl, ?_, rfl, by decide⟩
    ⟨"http://[::1]:2379/pd/api/v1/health", 1, 200, _, ?_, rfl, rfl, ?_, rfl, by decide⟩
    ⟨"http://[::1]:2379/pd/api/v1/stores", 1, 200, _, ?_, rfl, rfl, ?_, rfl, by decide⟩
  all_goals decide +kernel

theorem smallListed_servers : smallListed.servers =
    [⟨⟨"10.0.0.1", 4000⟩, ⟨"", "", 10081, "", 0⟩, .up⟩,
      ⟨⟨"10.0.0.2", 4000⟩, ⟨"", "", 10082, "", 0⟩, .up⟩,
      ⟨⟨"10.0.0.3", 4000⟩, ⟨"", "", 10083, "", 0⟩, .unreachable⟩] := by
  -- The texts of these addresses are in the order of the servers, so that nothing is left to sort.
  refine Eq.trans (List.mergeSort_of_pairwise ?_) ?_
  all_goals decide +kernel

theorem smallListed_snapshot : smallListed.snapshot = smallSnapshot := by
  rw [Listed.snapshot, Listed.tidb, smallListed_servers]
  decide +kernel

theorem smallCluster_snapshot :
    ((sources smallPeers).aggregate 4 0 smallClients).value = .loaded smallSnapshot :=
  ((snapshot_is_four_blocks _ _ _ _).1 _).mpr
    ⟨smallListed, smallListed_lists, smallListed_snapshot.symm⟩

end ClusterTopology.Cluster
