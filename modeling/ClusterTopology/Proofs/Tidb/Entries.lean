import Mathlib.Data.List.Induction
import Mathlib.Data.String.Basic
import ClusterTopology.Proofs.Tidb.Heartbeats
/-!
What a list of entries comes to.

An entry describes a server, tells of a heartbeat, is a description that has to be skipped, or says
nothing.  Of the descriptions under one address the last one that is valid counts, wherever it stands,
and a recent heartbeat under an address counts wherever it stands.  `Gathers` ties that to what has been
gathered from the entries so far, and each entry keeps it; so nothing else about a list matters.

The four sorts of entries are relations, `Describes`, `Beats`, `Misdescribes` and none of these, and `Adds`
has one rule for each, so that nothing later opens `Gathered.add`.  `LastDescribes` says of all entries
together what counts for an address, and `Reports` what is told.

The invariant is an induction along the list, with the entries seen so far as its past.  At its end `Serves`
says of an address and an instance what the two have to do with the entries, and `mem_named` that the
servers are exactly the pairs of which that holds.
-/

namespace ClusterTopology.Tidb

/-! ### What one entry says -/

/-- An entry is a valid description of a server under an address. -/
structure Entry.Describes (e : Entry) (address : String) (host : HostPort) (info : Info) : Prop where
  names : Names e.key address "info"
  host : HostPort.ofText? address = some host
  info : Json.decode Info.reader e.value = .ok info

/-- An entry is a description under an address that has to be skipped, for a reason. -/
inductive Entry.Misdescribes (e : Entry) (address : String) : TopologyError → Prop where
  | address (hnames : Names e.key address "info") (hhost : HostPort.ofText? address = none) :
      Misdescribes e address (.decode "etcd" ("invalid TiDB address '" ++ address ++ "'"))
  | value {host : HostPort} {error : Data.ReadError} (hnames : Names e.key address "info")
      (hhost : HostPort.ofText? address = some host)
      (hvalue : Json.decode Info.reader e.value = .error error) :
      Misdescribes e address (.decode "json" error.message)

/-- An entry is a heartbeat under an address that is recent at `now`. -/
structure Entry.Beats (now : Int) (e : Entry) (address : String) : Prop where
  names : Names e.key address "ttl"
  fresh : isFresh e.value now = true

theorem Names.unique {key address address' kind kind' : String} (h : Names key address kind)
    (h' : Names key address' kind') : address = address' ∧ kind = kind' := by
  have hparts := (ofKey?_eq_some_iff.mpr h).symm.trans (ofKey?_eq_some_iff.mpr h')
  cases hparts
  exact ⟨rfl, rfl⟩

theorem describe_eq_ok_iff {address : String} {value : List UInt8} {host : HostPort} {info : Info} :
    describe address value = .ok (host, info) ↔
      HostPort.ofText? address = some host ∧ Json.decode Info.reader value = .ok info := by
  unfold describe
  split
  · next hhost => simp [hhost]
  · next hhost =>
    split
    · next hvalue => simp [hhost, hvalue]
    · next hvalue => simp [hhost, hvalue]

theorem Entry.misdescribes_iff {e : Entry} {address : String} {error : TopologyError} :
    e.Misdescribes address error ↔
      Names e.key address "info" ∧ describe address e.value = .error error := by
  constructor
  · rintro (⟨hnames, hhost⟩ | ⟨hnames, hhost, hvalue⟩)
    · exact ⟨hnames, by simp [describe, hhost]⟩
    · exact ⟨hnames, by simp [describe, hhost, hvalue]⟩
  · rintro ⟨hnames, hdescribe⟩
    unfold describe at hdescribe
    split at hdescribe
    · next hhost =>
      cases hdescribe
      exact .address hnames hhost
    · next hhost =>
      split at hdescribe
      · cases hdescribe
      · next hvalue =>
        cases hdescribe
        exact .value hnames hhost hvalue

theorem Names.not_ttl {key address address' : String} (h : Names key address "info") :
    ¬ Names key address' "ttl" :=
  fun h' => absurd (h.unique h').2 (by decide)

theorem Entry.Describes.unique {e : Entry} {address address' : String} {host host' : HostPort}
    {info info' : Info} (h : e.Describes address host info) (h' : e.Describes address' host' info') :
    address = address' ∧ host = host' ∧ info = info' := by
  obtain ⟨rfl, -⟩ := h.names.unique h'.names
  have hhost := h.host.symm.trans h'.host
  have hinfo := h.info.symm.trans h'.info
  cases hhost
  cases hinfo
  exact ⟨rfl, rfl, rfl⟩

theorem Entry.Describes.not_misdescribes {e : Entry} {address address' : String} {host : HostPort}
    {info : Info} {error : TopologyError} (h : e.Describes address host info) :
    ¬ e.Misdescribes address' error := by
  intro hskipped
  obtain ⟨hnames, herror⟩ := misdescribes_iff.mp hskipped
  obtain ⟨rfl, -⟩ := hnames.unique h.names
  rw [describe_eq_ok_iff.mpr ⟨h.host, h.info⟩] at herror
  cases herror

/-- What an entry adds to what has been gathered, by what it says. -/
inductive Gathered.Adds (now : Int) (g : Gathered) (e : Entry) : Logged Gathered → Prop where
  | described {address : String} {host : HostPort} {info : Info} (h : e.Describes address host info) :
      Adds now g e ⟨{ g with infos := putSorted address (host, info) g.infos }, []⟩
  | skipped {address : String} {error : TopologyError} (h : e.Misdescribes address error) :
      Adds now g e ⟨g, [.tidbInfoSkipped address error]⟩
  | beat {address : String} (h : e.Beats now address) :
      Adds now g e ⟨{ g with alive := address :: g.alive }, []⟩
  | nothing (hdescribes : ∀ address host info, ¬ e.Describes address host info)
      (hskipped : ∀ address error, ¬ e.Misdescribes address error)
      (hbeats : ∀ address, ¬ e.Beats now address) : Adds now g e ⟨g, []⟩

theorem Gathered.adds_add (now : Int) (g : Gathered) (e : Entry) : g.Adds now e (g.add now e) := by
  have hnone (hinfo : ∀ address, ¬ Names e.key address "info")
      (hbeats : ∀ address, ¬ e.Beats now address) : g.Adds now e (pure g) :=
    .nothing (fun address _ _ h => hinfo address h.names)
      (fun address _ h => hinfo address (Entry.misdescribes_iff.mp h).1) hbeats
  unfold add
  split
  · next hkey =>
    have hunnamed (address kind : String) : ¬ Names e.key address kind := by
      rw [← ofKey?_eq_some_iff, hkey]
      exact Option.some_ne_none _ ∘ Eq.symm
    exact hnone (fun address => hunnamed address _) fun address h => hunnamed address _ h.names
  · next address kind hkey =>
    have hnames := ofKey?_eq_some_iff.mp hkey
    split_ifs with hinfo httl hfresh
    · subst hinfo
      split
      · next d hdescribe =>
        obtain ⟨hhost, hvalue⟩ := describe_eq_ok_iff.mp hdescribe
        exact .described ⟨hnames, hhost, hvalue⟩
      · next error hdescribe => exact .skipped (Entry.misdescribes_iff.mpr ⟨hnames, hdescribe⟩)
    · subst httl
      exact .beat ⟨hnames, hfresh⟩
    · subst httl
      refine hnone (fun address' h => absurd (hnames.unique h).2 (by decide)) fun address' h => ?_
      exact hfresh h.fresh
    · exact hnone (fun address' h => hinfo (hnames.unique h).2) fun address' h =>
        httl (hnames.unique h.names).2

/-! ### Sorted lists of pairs -/

theorem mem_putSorted {α : Type} {k a : String} {v w : α} {l : List (String × α)}
    (hl : l.Pairwise fun p q => p.1 < q.1) :
    (a, w) ∈ putSorted k v l ↔ a = k ∧ w = v ∨ a ≠ k ∧ (a, w) ∈ l := by
  induction l with
  | nil => simp [putSorted]
  | cons p l ih =>
    obtain ⟨k', v'⟩ := p
    obtain ⟨hlater, hrest⟩ := List.pairwise_cons.mp hl
    have hne {k : String} (hk : k ≤ k') (hmem : (a, w) ∈ l) : a ≠ k :=
      (lt_of_le_of_lt hk (hlater _ hmem)).ne'
    rw [putSorted]
    split_ifs with heq hlt
    · subst heq
      have := hne (le_refl k)
      grind
    · have := hne hlt.le
      have := hlt.ne
      grind
    · have := ih hrest
      grind

theorem pairwise_putSorted {α : Type} (k : String) (v : α) {l : List (String × α)}
    (hl : l.Pairwise fun p q => p.1 < q.1) : (putSorted k v l).Pairwise fun p q => p.1 < q.1 := by
  induction l with
  | nil => simp [putSorted]
  | cons p l ih =>
    obtain ⟨k', v'⟩ := p
    obtain ⟨hlater, hrest⟩ := List.pairwise_cons.mp hl
    rw [putSorted]
    split_ifs with heq hlt
    · subst heq
      exact List.pairwise_cons.mpr ⟨hlater, hrest⟩
    · refine List.pairwise_cons.mpr ⟨?_, hl⟩
      intro p hp
      rcases List.mem_cons.mp hp with rfl | hp
      · exact hlt
      · exact lt_trans hlt (hlater p hp)
    · refine List.pairwise_cons.mpr ⟨?_, ih hrest⟩
      rintro ⟨a, w⟩ hp
      rcases (mem_putSorted hrest).mp hp with ⟨rfl, -⟩ | ⟨-, hp⟩
      · exact lt_of_le_of_ne (not_lt.mp hlt) (Ne.symm heq)
      · exact hlater _ hp

/-! ### What entries say together -/

/-- Of the valid descriptions under an address the last one says this. -/
def LastDescribes (entries : List Entry) (address : String) (host : HostPort) (info : Info) : Prop :=
  ∃ before e after, entries = before ++ e :: after ∧ e.Describes address host info ∧
    ∀ e' ∈ after, ∀ host' info', ¬ e'.Describes address host' info'

theorem lastDescribes_concat_iff {past : List Entry} {e : Entry} {address : String} {host : HostPort}
    {info : Info} : LastDescribes (past ++ [e]) address host info ↔
      e.Describes address host info ∨
        (∀ host' info', ¬ e.Describes address host' info') ∧ LastDescribes past address host info := by
  constructor
  · rintro ⟨before, e', after, hentries, hdescribes, hlast⟩
    rcases List.eq_nil_or_concat after with rfl | ⟨after, e'', rfl⟩
    · obtain ⟨rfl, hsame⟩ := List.append_inj' hentries rfl
      cases hsame
      exact .inl hdescribes
    · rw [List.concat_eq_append, ← List.cons_append, ← List.append_assoc] at hentries
      obtain ⟨rfl, hsame⟩ := List.append_inj' hentries rfl
      cases hsame
      refine .inr ⟨hlast e (by simp), before, e', after, rfl, hdescribes, ?_⟩
      intro e'' he''
      exact hlast e'' (by simp [he''])
  · rintro (hdescribes | ⟨hnone, before, e', after, rfl, hdescribes, hlast⟩)
    · exact ⟨past, e, [], rfl, hdescribes, by simp⟩
    · refine ⟨before, e', after ++ [e], by simp, hdescribes, ?_⟩
      intro e'' he''
      rcases List.mem_append.mp he'' with he'' | he''
      · exact hlast e'' he''
      · rw [List.mem_singleton.mp he'']
        exact hnone

theorem exists_lastDescribes_iff {entries : List Entry} {address : String} :
    (∃ host info, LastDescribes entries address host info) ↔
      ∃ e ∈ entries, ∃ host info, e.Describes address host info := by
  constructor
  · rintro ⟨host, info, before, e, after, rfl, hdescribes, -⟩
    exact ⟨e, by simp, host, info, hdescribes⟩
  · rintro ⟨e, he, hdescribes⟩
    induction entries using List.reverseRecOn with
    | nil => cases he
    | append_singleton past e' ih =>
      by_cases hlast : ∃ host info, e'.Describes address host info
      · obtain ⟨host, info, hlast⟩ := hlast
        exact ⟨host, info, lastDescribes_concat_iff.mpr (.inl hlast)⟩
      · simp only [not_exists] at hlast
        have hpast : e ∈ past := by
          rcases List.mem_append.mp he with hpast | hnow
          · exact hpast
          · obtain ⟨host, info, hdescribes⟩ := hdescribes
            rw [List.mem_singleton.mp hnow] at hdescribes
            exact absurd hdescribes (hlast host info)
        obtain ⟨host, info, hbefore⟩ := ih hpast
        exact ⟨host, info, lastDescribes_concat_iff.mpr (.inr ⟨hlast, hbefore⟩)⟩

/-- The reports of the descriptions that have to be skipped: one for each, in order. -/
inductive Reports : List Entry → List Event → Prop where
  | nil : Reports [] []
  | skipped {e : Entry} {address : String} {error : TopologyError} {es : List Entry}
      {events : List Event} (h : e.Misdescribes address error) (hrest : Reports es events) :
      Reports (e :: es) (.tidbInfoSkipped address error :: events)
  | quiet {e : Entry} {es : List Entry} {events : List Event}
      (h : ∀ address error, ¬ e.Misdescribes address error) (hrest : Reports es events) :
      Reports (e :: es) events

/-! ### What is gathered -/

structure Gathers (now : Int) (past : List Entry) (g : Gathered) : Prop where
  sorted : g.infos.Pairwise fun p q => p.1 < q.1
  infos : ∀ address host info,
    (address, host, info) ∈ g.infos ↔ LastDescribes past address host info
  alive : ∀ address, address ∈ g.alive ↔ ∃ e ∈ past, e.Beats now address

namespace Gathers

variable {now : Int} {past : List Entry} {g : Gathered}

theorem nil : Gathers now [] ⟨[], []⟩ := by
  refine ⟨List.Pairwise.nil, ?_, by simp⟩
  intro address host info
  constructor
  · intro h
    cases h
  · rintro ⟨before, e, after, hentries, -⟩
    simp at hentries

theorem infos_concat (h : Gathers now past g) {e : Entry}
    (hnone : ∀ address host info, ¬ e.Describes address host info) (address : String)
    (host : HostPort) (info : Info) :
    (address, host, info) ∈ g.infos ↔ LastDescribes (past ++ [e]) address host info := by
  rw [h.infos, lastDescribes_concat_iff]
  simp [hnone]

theorem alive_concat (h : Gathers now past g) {e : Entry} (hnone : ∀ address, ¬ e.Beats now address)
    (address : String) : address ∈ g.alive ↔ ∃ e' ∈ past ++ [e], e'.Beats now address := by
  rw [h.alive]
  simp [hnone]

/-- **Every entry is gathered.** -/
theorem add (h : Gathers now past g) (e : Entry) : Gathers now (past ++ [e]) (g.add now e).value := by
  have hadds := g.adds_add now e
  generalize g.add now e = added at hadds ⊢
  cases hadds with
  | @described address host info hdescribes =>
    refine ⟨pairwise_putSorted _ _ h.sorted, ?_, ?_⟩
    · intro address' host' info'
      rw [mem_putSorted h.sorted, lastDescribes_concat_iff, h.infos]
      constructor
      · rintro (⟨rfl, hsame⟩ | ⟨hne, hbefore⟩)
        · cases hsame
          exact .inl hdescribes
        · refine .inr ⟨?_, hbefore⟩
          intro host'' info'' hother
          exact hne (hother.unique hdescribes).1
      · rintro (hsame | ⟨hnone, hbefore⟩)
        · obtain ⟨rfl, rfl, rfl⟩ := hsame.unique hdescribes
          exact .inl ⟨rfl, rfl⟩
        · refine .inr ⟨?_, hbefore⟩
          rintro rfl
          exact hnone host info hdescribes
    · exact h.alive_concat fun _ hbeats => hdescribes.names.not_ttl hbeats.names
  | skipped hskipped =>
    refine ⟨h.sorted, h.infos_concat ?_, h.alive_concat ?_⟩
    · intro _ _ _ hdescribes
      exact hdescribes.not_misdescribes hskipped
    · intro _ hbeats
      exact (Entry.misdescribes_iff.mp hskipped).1.not_ttl hbeats.names
  | @beat address hbeats =>
    refine ⟨h.sorted, h.infos_concat ?_, ?_⟩
    · intro _ _ _ hdescribes
      exact hdescribes.names.not_ttl hbeats.names
    · intro address'
      have hsame : e.Beats now address' ↔ address' = address := by
        constructor
        · intro hbeats'
          exact (hbeats'.names.unique hbeats.names).1
        · rintro rfl
          exact hbeats
      rw [List.mem_cons, h.alive]
      simp [hsame, or_comm, or_and_right, exists_or]
  | nothing hdescribes hskipped hbeats =>
    exact ⟨h.sorted, h.infos_concat hdescribes, h.alive_concat hbeats⟩

theorem ofEntries (h : Gathers now past g) (entries : List Entry) :
    Gathers now (past ++ entries) (Gathered.ofEntries now g entries).value := by
  induction entries generalizing past g with
  | nil =>
    rw [List.append_nil]
    exact h
  | cons e entries ih =>
    rw [List.append_cons]
    exact ih (h.add e)

end Gathers

theorem reports_ofEntries (now : Int) (g : Gathered) (entries : List Entry) :
    Reports entries (Gathered.ofEntries now g entries).events := by
  induction entries generalizing g with
  | nil => exact .nil
  | cons e entries ih =>
    change Reports (e :: entries) ((g.add now e).events ++ _)
    have hrest := ih (g.add now e).value
    have hadds := g.adds_add now e
    generalize g.add now e = added at hadds hrest
    cases hadds with
    | described hdescribes => exact .quiet (fun _ _ => hdescribes.not_misdescribes) hrest
    | skipped hskipped => exact .skipped hskipped hrest
    | beat hbeats =>
      refine .quiet ?_ hrest
      intro address error hskipped
      exact (Entry.misdescribes_iff.mp hskipped).1.not_ttl hbeats.names
    | nothing hdescribes hskipped hbeats => exact .quiet hskipped hrest

/-! ### The servers -/

/-- A server is what entries say about an address: as its last valid description has it, and up when
some recent heartbeat is under the same address. -/
structure Serves (now : Int) (entries : List Entry) (address : String) (i : Instance) : Prop where
  described : LastDescribes entries address i.host i.info
  status : i.status = .up ∧ (∃ e ∈ entries, e.Beats now address) ∨
    i.status = .unreachable ∧ ∀ e ∈ entries, ¬ e.Beats now address

/-- The servers gathered, each with its address, in the order of the addresses. -/
def Gathered.byAddress (g : Gathered) : List (String × Instance) :=
  g.infos.map fun (address, host, info) =>
    (address, ⟨host, info, if address ∈ g.alive then .up else .unreachable⟩)

/-- The servers gathered, each with its address, in the order of the topology. -/
def Gathered.named (g : Gathered) : List (String × Instance) :=
  g.byAddress.mergeSort fun p q => p.2.le q.2

theorem Gathered.map_byAddress (g : Gathered) : g.byAddress.map (·.1) = g.infos.map (·.1) := by
  rw [byAddress, List.map_map]
  rfl

theorem Gathered.map_named (g : Gathered) : g.named.map (·.2) = g.instances := by
  unfold named byAddress instances
  rw [List.map_mergeSort (s := Instance.le) (fun _ _ _ _ => rfl), List.map_map]
  rfl

namespace Gathers

variable {now : Int} {past : List Entry} {g : Gathered}

theorem nodup_named (h : Gathers now past g) : (g.named.map (·.1)).Nodup := by
  have hperm : (g.named.map (·.1)).Perm (g.byAddress.map (·.1)) := (List.mergeSort_perm _ _).map _
  rw [hperm.nodup_iff, g.map_byAddress]
  exact h.sorted.map _ fun _ _ hlt => hlt.ne

theorem mem_named (h : Gathers now past g) {address : String} {i : Instance} :
    (address, i) ∈ g.named ↔ Serves now past address i := by
  have hmem : (address, i) ∈ g.named ↔ (address, i.host, i.info) ∈ g.infos ∧
      i.status = if address ∈ g.alive then .up else .unreachable := by
    rw [Gathered.named, List.mem_mergeSort, Gathered.byAddress]
    constructor
    · rintro hi
      obtain ⟨⟨address', host, info⟩, hinfo, hsame⟩ := List.mem_map.mp hi
      cases hsame
      exact ⟨hinfo, rfl⟩
    · rintro ⟨hinfo, hstatus⟩
      obtain ⟨host, info, status⟩ := i
      cases hstatus
      exact List.mem_map.mpr ⟨_, hinfo, rfl⟩
  rw [hmem, h.infos]
  constructor
  · rintro ⟨hlast, hstatus⟩
    refine ⟨hlast, ?_⟩
    split_ifs at hstatus with halive
    · exact .inl ⟨hstatus, (h.alive _).mp halive⟩
    · refine .inr ⟨hstatus, ?_⟩
      intro e he hbeats
      exact halive ((h.alive _).mpr ⟨e, he, hbeats⟩)
  · rintro ⟨hlast, ⟨hup, hbeats⟩ | ⟨hdown, hnone⟩⟩
    · exact ⟨hlast, by rw [hup, if_pos ((h.alive _).mpr hbeats)]⟩
    · refine ⟨hlast, ?_⟩
      rw [hdown, if_neg]
      intro halive
      obtain ⟨e, he, hbeats⟩ := (h.alive _).mp halive
      exact hnone e he hbeats

end Gathers

end ClusterTopology.Tidb
