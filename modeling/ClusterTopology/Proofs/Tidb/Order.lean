import Mathlib.Data.List.Perm.Basic
import ClusterTopology.Proofs.Cluster.Blocks
import ClusterTopology.Proofs.Text.Basic
import ClusterTopology.Proofs.Tidb.Servers
/-!
The order of the servers.

The servers are gathered in the order of their addresses and then sorted, stably, by host and port.  So
addresses that differ only in how they are written keep the order of their texts, and nothing is left of
the order of the entries, as long as no address has two valid descriptions.

Sorting is stable in the sense that a pair in order is not turned around: `pairwise_mergeSort_stable` says
of a sorted list that any two of its items are strictly in order or stand as they did before.  With the
order of the addresses before it that comes to `Precedes`, host and port first and the address second.

`SinglyDescribed` is the condition on the entries.  Under it the last valid description of an address is its
only one, so that a rearrangement of the entries gathers the same.
-/

namespace ClusterTopology.Tidb

/-! ### Stable sorting -/

theorem pair_sublist_or {α : Type} {l : List α} {a b : α} (ha : a ∈ l) (hb : b ∈ l) (hne : a ≠ b) :
    [a, b].Sublist l ∨ [b, a].Sublist l := by
  induction l with
  | nil => cases ha
  | cons c l ih =>
    rcases List.mem_cons.mp ha with rfl | ha'
    · have hb' : b ∈ l := (List.mem_cons.mp hb).resolve_left (Ne.symm hne)
      exact .inl (.cons_cons _ (List.singleton_sublist.mpr hb'))
    · rcases List.mem_cons.mp hb with rfl | hb'
      · exact .inr (.cons_cons _ (List.singleton_sublist.mpr ha'))
      · exact (ih ha' hb').imp (.cons _) (.cons _)

theorem not_pair_sublist {α : Type} {l : List α} (hl : l.Nodup) {a b : α} (h : [a, b].Sublist l) :
    ¬ [b, a].Sublist l := by
  induction l with
  | nil => cases h
  | cons c l ih =>
    obtain ⟨hc, hl⟩ := List.nodup_cons.mp hl
    intro h'
    cases h with
    | cons _ h =>
      cases h' with
      | cons _ h' => exact ih hl h h'
      | cons_cons _ h' => exact hc (h.subset (by simp))
    | cons_cons _ h =>
      cases h' with
      | cons _ h' => exact hc (h'.subset (by simp))
      | cons_cons _ h' => exact hc (List.singleton_sublist.mp h)

/-- Where sorting does not tell two members apart, they keep the order that they had. -/
theorem pairwise_mergeSort_stable {α : Type} (le : α → α → Bool) {R : α → α → Prop}
    (htrans : ∀ a b c, le a b = true → le b c = true → le a c = true)
    (htotal : ∀ a b, (le a b || le b a) = true) {l : List α} (hl : l.Pairwise R) (hnodup : l.Nodup) :
    (l.mergeSort le).Pairwise fun a b => le b a = false ∨ le a b = true ∧ R a b := by
  have hsorted := List.pairwise_mergeSort htrans htotal l
  have hperm := List.mergeSort_perm l le
  rw [List.pairwise_iff_forall_sublist] at hl hsorted ⊢
  intro a b hab
  cases hback : le b a with
  | false => exact .inl rfl
  | true =>
    refine .inr ⟨hsorted hab, ?_⟩
    have hnodup' : (l.mergeSort le).Nodup := hperm.nodup_iff.mpr hnodup
    have hne : a ≠ b := by simpa using hnodup'.sublist hab
    have ha : a ∈ l := hperm.mem_iff.mp (hab.subset (by simp))
    have hb : b ∈ l := hperm.mem_iff.mp (hab.subset (by simp))
    rcases pair_sublist_or ha hb hne with hsame | hswapped
    · exact hl hsame
    · exact absurd (List.pair_sublist_mergeSort htrans htotal hback hswapped)
        (not_pair_sublist hnodup' hab)

/-! ### The order of the servers -/

/-- The order of servers with their addresses: by the bytes of the host, by the port, and by the bytes
of the address. -/
def Precedes (p q : String × Instance) : Prop :=
  Text.utf8Bytes p.2.host.host < Text.utf8Bytes q.2.host.host ∨
    Text.utf8Bytes p.2.host.host = Text.utf8Bytes q.2.host.host ∧
      (p.2.host.port < q.2.host.port ∨
        p.2.host.port = q.2.host.port ∧ Text.utf8Bytes p.1 < Text.utf8Bytes q.1)

theorem Gathers.pairwise_named {now : Int} {past : List Entry} {g : Gathered}
    (h : Gathers now past g) : g.named.Pairwise Precedes := by
  have hsorted : g.byAddress.Pairwise fun p q => p.1 < q.1 := by
    have hkeys : (g.byAddress.map (·.1)).Pairwise (· < ·) := by
      rw [g.map_byAddress]
      exact List.pairwise_map.mpr h.sorted
    exact List.pairwise_map.mp hkeys
  have hnodup : g.byAddress.Nodup := hsorted.imp fun hlt heq => hlt.ne (congrArg Prod.fst heq)
  have hstable : g.named.Pairwise fun p q =>
      q.2.le p.2 = false ∨ p.2.le q.2 = true ∧ p.1 < q.1 :=
    pairwise_mergeSort_stable (fun p q => p.2.le q.2) (fun _ _ _ => Instance.le_trans)
      (fun p q => Instance.le_total p.2 q.2) hsorted hnodup
  refine hstable.imp ?_
  rintro ⟨address, i⟩ ⟨address', i'⟩ hordered
  rw [Precedes, Text.utf8Bytes_lt_iff, Text.utf8Bytes_lt_iff]
  rcases hordered with hback | ⟨hle, hlt⟩
  · have hnot : ¬ i'.le i = true := by simp [hback]
    rw [Instance.le_iff] at hnot
    rcases lt_trichotomy i.host.host i'.host.host with hhost | hhost | hhost
    · exact .inl hhost
    · refine .inr ⟨congrArg Text.utf8Bytes hhost, .inl ?_⟩
      exact UInt16.not_le.mp fun hport => hnot (.inr ⟨hhost.symm, hport⟩)
    · exact absurd (.inl hhost) hnot
  · rcases Instance.le_iff.mp hle with hhost | ⟨hhost, hport⟩
    · exact .inl hhost
    · refine .inr ⟨congrArg Text.utf8Bytes hhost, ?_⟩
      rcases UInt16.lt_or_eq_of_le hport with hport | hport
      · exact .inl hport
      · exact .inr ⟨hport, hlt⟩

/-! ### The order of the entries -/

/-- No address has two valid descriptions. -/
def SinglyDescribed (entries : List Entry) : Prop :=
  entries.Pairwise fun e e' =>
    ∀ address host info, e.Describes address host info →
      ∀ host' info', ¬ e'.Describes address host' info'

theorem SinglyDescribed.lastDescribes_iff {entries : List Entry} (h : SinglyDescribed entries)
    {address : String} {host : HostPort} {info : Info} : LastDescribes entries address host info ↔
      ∃ e ∈ entries, e.Describes address host info := by
  constructor
  · rintro ⟨before, e, after, rfl, hdescribes, -⟩
    exact ⟨e, by simp, hdescribes⟩
  · rintro ⟨e, he, hdescribes⟩
    obtain ⟨before, after, rfl⟩ := List.append_of_mem he
    refine ⟨before, e, after, rfl, hdescribes, ?_⟩
    intro e' he'
    have hafter := (List.pairwise_cons.mp (List.pairwise_append.mp h).2.1).1
    exact hafter e' he' address host info hdescribes

theorem SinglyDescribed.perm {entries entries' : List Entry} (h : SinglyDescribed entries)
    (hperm : entries.Perm entries') : SinglyDescribed entries' := by
  refine (hperm.pairwise_iff ?_).mp h
  intro e e' hapart address host' info' hdescribes' host info hdescribes
  exact hapart address host info hdescribes host' info' hdescribes'

theorem instances_eq_of_perm (now : Int) {entries entries' : List Entry}
    (hperm : entries.Perm entries') (h : SinglyDescribed entries) :
    (instances now entries).value = (instances now entries').value := by
  refine instances_congr ?_ ?_
  · intro address host info
    rw [h.lastDescribes_iff, (h.perm hperm).lastDescribes_iff]
    simp [hperm.mem_iff]
  · intro address _ _ _
    simp [hperm.mem_iff]

/-- Entries of which no two have keys of one meaning describe no address twice. -/
theorem singlyDescribed_of_keys {entries : List Entry} (h : entries.Pairwise fun e e' =>
    KeyParts.ofKey? e.key = KeyParts.ofKey? e'.key → KeyParts.ofKey? e.key = none) :
    SinglyDescribed entries := by
  refine h.imp ?_
  intro e e' hkeys address host info hdescribes host' info' hdescribes'
  have hkey := ofKey?_eq_some_iff.mpr hdescribes.names
  have hkey' := ofKey?_eq_some_iff.mpr hdescribes'.names
  rw [hkey, hkey'] at hkeys
  exact absurd (hkeys rfl) (Option.some_ne_none _)

/-- **The order of the entries does not show in the servers.**  The servers stand in the order of their
hosts, their ports and the texts of their addresses; and unless an address has two valid descriptions,
the same entries in another order make the same servers, and the same components. -/
theorem servers_are_ordered (now : Int) (entries : List Entry) :
    (∃ named : List (String × Instance), named.map (·.2) = (instances now entries).value ∧
        (∀ p, p ∈ named ↔ Serves now entries p.1 p.2) ∧ named.Pairwise Precedes) ∧
      ∀ entries', entries.Perm entries' → SinglyDescribed entries →
        (instances now entries).value = (instances now entries').value ∧
          components (instances now entries).value = components (instances now entries').value := by
  have hgathers : Gathers now entries (Gathered.ofEntries now ⟨[], []⟩ entries).value :=
    Gathers.nil.ofEntries entries
  refine ⟨⟨_, Gathered.map_named _, fun _ => hgathers.mem_named, hgathers.pairwise_named⟩, ?_⟩
  intro entries' hperm hsingle
  have hsame := instances_eq_of_perm now hperm hsingle
  exact ⟨hsame, congrArg _ hsame⟩

/-- Servers whose addresses are one host and port, written in different ways. -/
def tiedEntries : List Entry :=
  [⟨"/topology/tidb/[::1]:4000/info", Text.asciiBytes "\x7b\"status_port\":1\x7d"⟩,
    ⟨"/topology/tidb/::1:4000/info", Text.asciiBytes "\x7b\"status_port\":2\x7d"⟩,
    ⟨"/topology/tidb/[::1]:4000/ttl", Text.asciiBytes "5"⟩,
    ⟨"/topology/tidb/[::1]:04000/info", Text.asciiBytes "\x7b\"status_port\":3\x7d"⟩]

theorem instances_tiedEntries : (instances 10 tiedEntries).value =
    [⟨⟨"::1", 4000⟩, ⟨"", "", 2, "", 0⟩, .unreachable⟩,
      ⟨⟨"::1", 4000⟩, ⟨"", "", 3, "", 0⟩, .unreachable⟩,
      ⟨⟨"::1", 4000⟩, ⟨"", "", 1, "", 0⟩, .up⟩] := by
  refine Eq.trans (List.mergeSort_of_pairwise ?_) ?_
  all_goals decide +kernel

theorem reversed_tiedEntries : tiedEntries.Perm tiedEntries.reverse ∧ SinglyDescribed tiedEntries ∧
    (instances 10 tiedEntries.reverse).value =
      [⟨⟨"::1", 4000⟩, ⟨"", "", 2, "", 0⟩, .unreachable⟩,
        ⟨⟨"::1", 4000⟩, ⟨"", "", 3, "", 0⟩, .unreachable⟩,
        ⟨⟨"::1", 4000⟩, ⟨"", "", 1, "", 0⟩, .up⟩] := by
  have hperm : tiedEntries.Perm tiedEntries.reverse := (List.reverse_perm _).symm
  have hsingle : SinglyDescribed tiedEntries := singlyDescribed_of_keys (by decide +kernel)
  refine ⟨hperm, hsingle, ?_⟩
  rw [← ((servers_are_ordered 10 tiedEntries).2 _ hperm hsingle).1, instances_tiedEntries]

end ClusterTopology.Tidb
