import Mathlib.Data.List.Perm.Basic
import ClusterTopology.Text.Basic
import ClusterTopology.Proofs.Data.Records
import ClusterTopology.Proofs.Tidb.Entries
/-!
The servers that a list of entries describes.

Every address with a valid description is one server, as the last of its valid descriptions has it and up
by any recent heartbeat under it; no other entry has a part in the servers.  A description is valid when
its value is a record with a status port, and what else it does not hold is left at a default.

`Info.IsGivenBy` says member by member what a description has to be given, and `Idle` lists the ways in
which an entry can have no part in the servers: a description that is skipped, a heartbeat that is old or
stands under an address without a valid description, a key of another kind, and a key of no known shape.
One lemma covers them all, `instances_congr`: lists of entries in which the same addresses are described
last by the same, with the same addresses alive, have the same servers.
-/

namespace ClusterTopology.Tidb

open ClusterTopology.Data (Datum Ending Fields Key Reader ReadOr bind_eq_ok_iff valueOf)
open ClusterTopology.Data.Fields (Tidy required withDefault)

/-! ### Values of descriptions -/

def Info.fields : Fields Info :=
  Info.mk <$> withDefault "version" Reader.text "" <*> withDefault "git_hash" Reader.text ""
    <*> required "status_port" Reader.uint16 <*> withDefault "deploy_path" Reader.text ""
    <*> withDefault "start_timestamp" Reader.int64 0

/-- A description says what the members of a record do, with a status port among them. -/
structure Info.IsGivenBy (members : List (Key × Datum)) (i : Info) : Prop where
  version : ReadOr members "version" Reader.text "" i.version
  gitHash : ReadOr members "git_hash" Reader.text "" i.gitHash
  statusPort : ∃ d, valueOf members "status_port" = some d ∧ Reader.uint16 d = .ok i.statusPort
  deployPath : ReadOr members "deploy_path" Reader.text "" i.deployPath
  startTimestamp : ReadOr members "start_timestamp" Reader.int64 0 i.startTimestamp

theorem Info.build_eq_ok_iff {members : List (Key × Datum)} {get : String → Option Datum} {i : Info}
    (hget : ∀ e ∈ Info.fields.entries, get e.name = valueOf members e.name) :
    Info.fields.build get = .ok i ↔ i.IsGivenBy members := by
  have hversion : get "version" = valueOf members "version" := hget _ (.head _)
  have hgit : get "git_hash" = valueOf members "git_hash" := hget _ (.tail _ (.head _))
  have hport : get "status_port" = valueOf members "status_port" :=
    hget _ (.tail _ (.tail _ (.head _)))
  have hpath : get "deploy_path" = valueOf members "deploy_path" :=
    hget _ (.tail _ (.tail _ (.tail _ (.head _))))
  have hstart : get "start_timestamp" = valueOf members "start_timestamp" :=
    hget _ (.tail _ (.tail _ (.tail _ (.tail _ (.head _)))))
  simp only [Info.fields, Fields.build_seq_eq_ok_iff, Fields.build_map_eq_ok_iff,
    Fields.build_withDefault_eq_ok_iff, Fields.build_required_eq_ok_iff, hversion, hgit, hport, hpath,
    hstart]
  constructor
  · rintro ⟨_, _, ⟨_, _, ⟨_, _, ⟨_, _, ⟨_, hv, rfl⟩, hg, rfl⟩, hp, rfl⟩, hd, rfl⟩, hs, rfl⟩
    exact ⟨hv, hg, hp, hd, hs⟩
  · intro h
    exact ⟨_, _, ⟨_, _, ⟨_, _, ⟨_, _, ⟨_, h.version, rfl⟩, h.gitHash, rfl⟩, h.statusPort, rfl⟩,
      h.deployPath, rfl⟩, h.startTimestamp, rfl⟩

theorem Info.check_of_isGivenBy {members : List (Key × Datum)} {i : Info} (h : i.IsGivenBy members) :
    ∀ e ∈ Info.fields.entries, ∀ d, valueOf members e.name = some d → e.check d = .ok () := by
  have hcheck {α : Type} {r : Reader α} {d : Datum} {v : α} (hread : r d = .ok v) :
      ((r d).map fun _ => ()) = .ok () := by
    rw [hread]
    rfl
  intro e he d hd
  simp only [Info.fields, Functor.map, Seq.seq, Fields.apply, withDefault, required, List.cons_append,
    List.nil_append, List.mem_cons, List.not_mem_nil, or_false] at he
  rcases he with rfl | rfl | rfl | rfl | rfl
  · exact hcheck (h.version.read_of_valueOf hd)
  · exact hcheck (h.gitHash.read_of_valueOf hd)
  · obtain ⟨d', hd', hread⟩ := h.statusPort
    cases hd.symm.trans hd'
    exact hcheck hread
  · exact hcheck (h.deployPath.read_of_valueOf hd)
  · exact hcheck (h.startTimestamp.read_of_valueOf hd)

/-- **A record is a valid description when its members are in order and give one.** -/
theorem Info.decode_eq_ok_iff {value : List UInt8} {members : List (Key × Datum)} {ending : Ending}
    (hroot : (Json.Document.ofBytes value).root = .record members ending) {i : Info} :
    Json.decode Info.reader value = .ok i ↔
      ending = .closed ∧ (Json.Document.ofBytes value).trailing = false ∧
        Tidy Info.fields.entries members ∧ i.IsGivenBy members := by
  have hreader : Info.reader = Info.fields.reader "TidbTopologyInfo" .refused := rfl
  simp only [Json.decode, hroot, hreader, bind_eq_ok_iff]
  constructor
  · rintro ⟨i', hread, hend⟩
    obtain ⟨hclosed, htidy, get, hbuild, hget⟩ := Fields.build_of_reader hread
    split at hend
    · cases hend
    · next htrailing =>
      cases hend
      exact ⟨hclosed, by simpa using htrailing, htidy, (Info.build_eq_ok_iff hget).mp hbuild⟩
  · rintro ⟨rfl, htrailing, htidy, hgiven⟩
    refine ⟨i, Fields.reader_of_build (by decide) htidy (Info.check_of_isGivenBy hgiven) ?_, ?_⟩
    · intro get hget
      exact (Info.build_eq_ok_iff hget).mpr hgiven
    · rw [htrailing]
      rfl

/-! ### What has no part in the servers -/

/-- An entry among others that are no description of a server. -/
inductive Entry.Idle (now : Int) (e : Entry) (others : List Entry) : Prop where
  | skipped {address : String} {error : TopologyError} (h : e.Misdescribes address error)
  | stale {address : String} (hnames : Names e.key address "ttl") (hstale : isFresh e.value now = false)
  | alone {address : String} (hnames : Names e.key address "ttl")
      (hnone : ∀ e' ∈ others, ∀ host info, ¬ e'.Describes address host info)
  | another {address kind : String} (hnames : Names e.key address kind) (hinfo : kind ≠ "info")
      (httl : kind ≠ "ttl")
  | unnamed (h : ∀ address kind, ¬ Names e.key address kind)

theorem Entry.Idle.not_describes {now : Int} {e : Entry} {others : List Entry} (h : e.Idle now others)
    (address : String) (host : HostPort) (info : Info) : ¬ e.Describes address host info := by
  intro hdescribes
  cases h with
  | skipped hskipped => exact hdescribes.not_misdescribes hskipped
  | stale hnames hstale => exact hdescribes.names.not_ttl hnames
  | alone hnames hnone => exact hdescribes.names.not_ttl hnames
  | another hnames hinfo httl => exact hinfo (hnames.unique hdescribes.names).2
  | unnamed hunnamed => exact hunnamed _ _ hdescribes.names

theorem Entry.Idle.not_beats {now : Int} {e : Entry} {others : List Entry} (h : e.Idle now others)
    {address : String} (hbeats : e.Beats now address) :
    ∀ e' ∈ others, ∀ host info, ¬ e'.Describes address host info := by
  cases h with
  | skipped hskipped => exact absurd hbeats.names (Entry.misdescribes_iff.mp hskipped).1.not_ttl
  | stale hnames hstale => exact absurd hbeats.fresh (by simp [hstale])
  | alone hnames hnone =>
    obtain ⟨rfl, -⟩ := hbeats.names.unique hnames
    exact hnone
  | another hnames hinfo httl => exact absurd (hnames.unique hbeats.names).2 httl
  | unnamed hunnamed => exact absurd hbeats.names (hunnamed _ _)

theorem lastDescribes_insert_iff {before after : List Entry} {e : Entry}
    (hnone : ∀ address host info, ¬ e.Describes address host info) {address : String} {host : HostPort}
    {info : Info} : LastDescribes (before ++ e :: after) address host info ↔
      LastDescribes (before ++ after) address host info := by
  induction after using List.reverseRecOn with
  | nil => simp [lastDescribes_concat_iff, hnone]
  | append_singleton after e' ih =>
    rw [← List.cons_append, ← List.append_assoc, ← List.append_assoc, lastDescribes_concat_iff,
      lastDescribes_concat_iff, ih]

theorem eq_of_pairwise_of_mem_iff {α : Type} {l l' : List (String × α)}
    (hl : l.Pairwise fun p q => p.1 < q.1) (hl' : l'.Pairwise fun p q => p.1 < q.1)
    (h : ∀ p, p ∈ l ↔ p ∈ l') : l = l' := by
  have hnodup {l : List (String × α)} (hl : l.Pairwise fun p q => p.1 < q.1) : l.Nodup :=
    hl.imp fun hlt heq => hlt.ne (congrArg _ heq)
  refine List.Perm.eq_of_pairwise ?_ hl hl' ((List.perm_ext_iff_of_nodup (hnodup hl) (hnodup hl')).mpr h)
  intro p q _ _ hpq hqp
  exact absurd hpq (lt_asymm hqp)

/-- The servers come from the last valid descriptions and the recent heartbeats that go with them. -/
theorem instances_congr {now : Int} {entries entries' : List Entry}
    (hlast : ∀ address host info,
      LastDescribes entries address host info ↔ LastDescribes entries' address host info)
    (hbeats : ∀ address host info, LastDescribes entries address host info →
      ((∃ e ∈ entries, e.Beats now address) ↔ ∃ e ∈ entries', e.Beats now address)) :
    (instances now entries).value = (instances now entries').value := by
  have hgathers (entries : List Entry) :
      Gathers now entries (Gathered.ofEntries now ⟨[], []⟩ entries).value :=
    Gathers.nil.ofEntries entries
  have h := hgathers entries
  have h' := hgathers entries'
  simp only [instances]
  generalize (Gathered.ofEntries now ⟨[], []⟩ entries).value = g at h ⊢
  generalize (Gathered.ofEntries now ⟨[], []⟩ entries').value = g' at h' ⊢
  -- both lists are sorted, so it is enough that they describe the same addresses
  have hinfos : g.infos = g'.infos := by
    refine eq_of_pairwise_of_mem_iff h.sorted h'.sorted ?_
    rintro ⟨address, host, info⟩
    rw [h.infos, h'.infos, hlast]
  unfold Gathered.instances
  rw [← hinfos]
  refine congrArg (List.mergeSort · Instance.le) (List.map_congr_left ?_)
  rintro ⟨address, host, info⟩ hmem
  have halive : address ∈ g.alive ↔ address ∈ g'.alive := by
    rw [h.alive, h'.alive]
    exact hbeats address host info ((h.infos _ _ _).mp hmem)
  simp only [halive]

theorem Entry.Idle.instances_eq {now : Int} {before after : List Entry} {e : Entry}
    (h : e.Idle now (before ++ after)) :
    (instances now (before ++ e :: after)).value = (instances now (before ++ after)).value := by
  refine instances_congr (fun _ _ _ => lastDescribes_insert_iff h.not_describes) ?_
  intro address host info hlast
  obtain ⟨e', he', host', info', hdescribes⟩ := exists_lastDescribes_iff.mp
    ⟨host, info, (lastDescribes_insert_iff h.not_describes).mp hlast⟩
  have hnone : ¬ e.Beats now address :=
    fun hbeats => h.not_beats hbeats e' he' host' info' hdescribes
  simp [or_and_right, exists_or, hnone]

/-! ### The servers -/

/-- **Every address that is validly described is one server.**  The server is what the last valid
description says, and is up just when some heartbeat under the same address is recent.  Whether a record
is a valid description shows in its members.  Each description that is skipped is reported once, and no
entry apart from valid descriptions and recent heartbeats under their addresses has a part in the
servers. -/
theorem described_addresses_are_servers (now : Int) (entries : List Entry) :
    (∃ named : List (String × Instance), named.map (·.2) = (instances now entries).value ∧
        (named.map (·.1)).Nodup ∧
        (∀ address, address ∈ named.map (·.1) ↔
          ∃ e ∈ entries, ∃ host info, e.Describes address host info) ∧
        ∀ p ∈ named, Serves now entries p.1 p.2) ∧
      (∀ value members ending, (Json.Document.ofBytes value).root = .record members ending →
        ∀ info, Json.decode Info.reader value = .ok info ↔
          ending = .closed ∧ (Json.Document.ofBytes value).trailing = false ∧
            Tidy Info.fields.entries members ∧ info.IsGivenBy members) ∧
      Reports entries (instances now entries).events ∧
      ∀ before e after, entries = before ++ e :: after → e.Idle now (before ++ after) →
        (instances now (before ++ after)).value = (instances now entries).value := by
  have hgathers : Gathers now entries (Gathered.ofEntries now ⟨[], []⟩ entries).value :=
    Gathers.nil.ofEntries entries
  refine ⟨⟨_, Gathered.map_named _, hgathers.nodup_named, ?_, ?_⟩, ?_, reports_ofEntries _ _ _, ?_⟩
  · intro address
    rw [← exists_lastDescribes_iff]
    simp only [List.mem_map, Prod.exists, exists_and_right, exists_eq_right, hgathers.mem_named]
    constructor
    · rintro ⟨i, hserves⟩
      exact ⟨i.host, i.info, hserves.described⟩
    · rintro ⟨host, info, hlast⟩
      by_cases hbeats : ∃ e ∈ entries, e.Beats now address
      · exact ⟨⟨host, info, .up⟩, hlast, .inl ⟨rfl, hbeats⟩⟩
      · exact ⟨⟨host, info, .unreachable⟩, hlast, .inr ⟨rfl, by simpa using hbeats⟩⟩
  · intro p hp
    exact hgathers.mem_named.mp hp
  · intro value members ending hroot info
    exact Info.decode_eq_ok_iff hroot
  · rintro before e after rfl hidle
    exact hidle.instances_eq.symm

/-- Entries with a description that is replaced, one that is skipped, a heartbeat before its description
and one without any. -/
def mixedEntries : List Entry :=
  [⟨"/topology/tidb/[::1]:4000/ttl", Text.asciiBytes " 5\n"⟩,
    ⟨"/topology/tidb/10.0.0.1:4000/info/", Text.asciiBytes "\x7b\"status_port\":1\x7d"⟩,
    ⟨"/topology/tidb/[::1]:4000/info",
      Text.asciiBytes "\x7b\"version\":\"v8\",\"status_port\":2,\"other\":[]\x7d"⟩,
    ⟨"/topology/tidb/10.0.0.1:4000/info", Text.asciiBytes "\x7b\"status_port\":3\x7d"⟩,
    ⟨"/topology/tidb/[::1]:4000/info", Text.asciiBytes "\x7b\"version\":\"v9\"\x7d"⟩,
    ⟨"/topology/tidb/10.0.0.2:4000/ttl", Text.asciiBytes "5"⟩]

theorem instances_mixedEntries : (instances 10 mixedEntries).value =
    [⟨⟨"10.0.0.1", 4000⟩, ⟨"", "", 3, "", 0⟩, .unreachable⟩,
      ⟨⟨"::1", 4000⟩, ⟨"v8", "", 2, "", 0⟩, .up⟩] := by
  -- the servers come in the order of their addresses, which leaves nothing to sort
  refine Eq.trans (List.mergeSort_of_pairwise ?_) ?_
  all_goals decide +kernel

theorem mixedEntries_without_skipped :
    (instances 10 (mixedEntries.take 4 ++ mixedEntries.drop 5)).value =
      [⟨⟨"10.0.0.1", 4000⟩, ⟨"", "", 3, "", 0⟩, .unreachable⟩,
        ⟨⟨"::1", 4000⟩, ⟨"v8", "", 2, "", 0⟩, .up⟩] := by
  have hnames : Names mixedEntries[4].key "[::1]:4000" "info" :=
    ofKey?_eq_some_iff.mp (by decide +kernel)
  have hhost : HostPort.ofText? "[::1]:4000" = some ⟨"::1", 4000⟩ := by decide +kernel
  have hvalue : Json.decode Info.reader mixedEntries[4].value =
      .error (.mismatch (.missing "status_port")) := by decide +kernel
  obtain ⟨-, -, -, hidle⟩ := described_addresses_are_servers 10 mixedEntries
  rw [hidle _ _ _ rfl (.skipped (.value hnames hhost hvalue)), instances_mixedEntries]

end ClusterTopology.Tidb
