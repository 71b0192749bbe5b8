import Mathlib.Tactic.Common
import ClusterTopology.Pd.Client
/-!
How the list of stores is divided.

A store goes to the row stores or to the column stores when both its addresses can be read, and is passed
over with one report when one of them cannot.  Each store is looked at on its own, so the order of the list
is the order of both parts, and what is passed over has no effect on the others.

`IsColumn` and `IsUsable` say of a single store what its labels and its addresses amount to, and
`ofStoreState_eq_iff` which words stand for which status.  `Divides` describes the whole list by a rule for
each sort of store: a row store, a column store, and one with an address or a status address that cannot be
read.  It is total and has one outcome, and what is said of the client follows from it.
-/

namespace ClusterTopology

/-! ### The word for a store that is up -/

theorem Text.toNat_toLower (c : Char) :
    c.toLower.toNat = if 65 ≤ c.toNat ∧ c.toNat ≤ 90 then c.toNat + 32 else c.toNat := by
  have hle : (65 ≤ c.val ∧ c.val ≤ 90) ↔ (65 ≤ c.toNat ∧ c.toNat ≤ 90) := by
    simp [UInt32.le_iff_toNat_le]
  unfold Char.toLower
  split
  · next hupper =>
    have hrange := hle.mp hupper
    have hsum : (c.val + 32).toNat = c.toNat + 32 := by
      rw [UInt32.toNat_add]
      exact Nat.mod_eq_of_lt (by change c.toNat + 32 < _; omega)
    rw [if_pos hrange]
    exact hsum
  · next hother => rw [if_neg fun hrange => hother (hle.mpr hrange)]

/-- Two characters become a small letter in lower case: itself and its capital. -/
theorem Text.toLower_eq_iff {c small : Char} (hsmall : 97 ≤ small.toNat ∧ small.toNat ≤ 122) :
    c.toLower = small ↔ c = small ∨ c.toNat + 32 = small.toNat := by
  rw [← Char.toNat_inj, ← Char.toNat_inj (c := c), toNat_toLower]
  split <;> omega

namespace Status

theorem getD_find?_eq_iff (word : String) {v : Status} (hv : v ≠ .unreachable) :
    (all.find? fun u => u.text == word).getD unreachable = v ↔ word = v.text := by
  constructor
  · intro h
    cases hfind : all.find? fun u => u.text == word with
    | none =>
      rw [hfind] at h
      exact absurd h.symm hv
    | some u =>
      rw [hfind] at h
      obtain rfl : u = v := h
      have htext := List.find?_some hfind
      exact (beq_iff_eq.mp htext).symm
  · rintro rfl
    cases v <;> decide

/-- A status other than the one for unknown words is told by its own word. -/
theorem ofStoreState_eq_iff {state : String} {v : Status} (hv : v ≠ .unreachable) :
    ofStoreState state = v ↔ (Text.trim state.toList).map Char.toLower = v.text.toList := by
  have hword := getD_find?_eq_iff (String.ofList ((Text.trim state.toList).map Char.toLower)) hv
  rw [ofStoreState, hword]
  constructor
  · intro h
    rw [← h, String.toList_ofList]
  · intro h
    rw [h, String.ofList_toList]

/-- The word is `up`, in whatever case and with white space around it. -/
theorem ofStoreState_eq_up_iff {state : String} :
    ofStoreState state = .up ↔ ∃ u p, Text.trim state.toList = [u, p] ∧
      (u = 'u' ∨ u = 'U') ∧ (p = 'p' ∨ p = 'P') := by
  have hu (c : Char) : c.toLower = 'u' ↔ c = 'u' ∨ c = 'U' := by
    rw [Text.toLower_eq_iff (by decide), ← Char.toNat_inj (c := c) (d := 'U')]
    simp
  have hp (c : Char) : c.toLower = 'p' ↔ c = 'p' ∨ c = 'P' := by
    rw [Text.toLower_eq_iff (by decide), ← Char.toNat_inj (c := c) (d := 'P')]
    simp
  have htext : Status.up.text.toList = ['u', 'p'] := rfl
  rw [ofStoreState_eq_iff (by decide), htext]
  simp only [List.map_eq_cons_iff, List.map_eq_nil_iff]
  constructor
  · rintro ⟨u, _, hword, hfirst, p, _, rfl, hsecond, rfl⟩
    exact ⟨u, p, hword, (hu u).mp hfirst, (hp p).mp hsecond⟩
  · rintro ⟨u, p, hword, hfirst, hsecond⟩
    exact ⟨u, [p], hword, (hu u).mpr hfirst, p, [], rfl, (hp p).mpr hsecond, rfl⟩

end Status

namespace Pd

/-! ### One store -/

/-- A store carries the label of a column store. -/
def Store.IsColumn (s : Store) : Prop :=
  ∃ labels label, s.labels = some labels ∧ label ∈ labels ∧ label.key = "engine" ∧
    label.value = "tiflash"

theorem Store.isTiflash_iff {s : Store} : s.isTiflash = true ↔ s.IsColumn := by
  cases hlabels : s.labels with
  | none => simp [isTiflash, IsColumn, hlabels]
  | some labels => simp [isTiflash, IsColumn, hlabels]

/-- Both addresses of a store can be read. -/
def Store.IsUsable (s : Store) : Prop :=
  ∃ host status, HostPort.ofText? s.address = some host ∧ HostPort.ofText? s.statusAddress = some status

/-- The instance that a store is, at an address and with a port for its status. -/
def Store.found (s : Store) (host status : HostPort) : StoreInstance :=
  ⟨s.id, host, status.port, s.version, Status.ofStoreState s.stateName⟩

/-- A store that is found is up when its word is `up`, in whatever case and with white space around it. -/
theorem Store.status_found_eq_up_iff (s : Store) (host status : HostPort) :
    (s.found host status).status = .up ↔
      ∃ u p, Text.trim s.stateName.toList = [u, p] ∧ (u = 'u' ∨ u = 'U') ∧ (p = 'p' ∨ p = 'P') := by
  simp only [found, Status.ofStoreState_eq_up_iff]

/-! ### All of them -/

/-- A list of stores divided, with what is reported of those that are passed over. -/
inductive Divides : List Store → StoreInstances → List Event → Prop where
  | nil : Divides [] ⟨[], []⟩ []
  | row {s : Store} {host status : HostPort} {stores : List Store} {tikv tiflash : List StoreInstance}
      {events : List Event} (hhost : HostPort.ofText? s.address = some host)
      (hstatus : HostPort.ofText? s.statusAddress = some status) (hkind : ¬ s.IsColumn)
      (hrest : Divides stores ⟨tikv, tiflash⟩ events) :
      Divides (s :: stores) ⟨s.found host status :: tikv, tiflash⟩ events
  | column {s : Store} {host status : HostPort} {stores : List Store}
      {tikv tiflash : List StoreInstance} {events : List Event}
      (hhost : HostPort.ofText? s.address = some host)
      (hstatus : HostPort.ofText? s.statusAddress = some status) (hkind : s.IsColumn)
      (hrest : Divides stores ⟨tikv, tiflash⟩ events) :
      Divides (s :: stores) ⟨tikv, s.found host status :: tiflash⟩ events
  | noAddress {s : Store} {stores : List Store} {found : StoreInstances} {events : List Event}
      (hhost : HostPort.ofText? s.address = none) (hrest : Divides stores found events) :
      Divides (s :: stores) found (.storeAddressInvalid s.id.toNat s.address :: events)
  | noStatusAddress {s : Store} {host : HostPort} {stores : List Store} {found : StoreInstances}
      {events : List Event} (hhost : HostPort.ofText? s.address = some host)
      (hstatus : HostPort.ofText? s.statusAddress = none) (hrest : Divides stores found events) :
      Divides (s :: stores) found
        (.storeStatusAddressInvalid s.id.toNat s.statusAddress :: events)

theorem exists_divides (stores : List Store) : ∃ found events, Divides stores found events := by
  induction stores with
  | nil => exact ⟨_, _, .nil⟩
  | cons s stores ih =>
    obtain ⟨⟨tikv, tiflash⟩, events, hrest⟩ := ih
    cases hhost : HostPort.ofText? s.address with
    | none => exact ⟨_, _, .noAddress hhost hrest⟩
    | some host =>
      cases hstatus : HostPort.ofText? s.statusAddress with
      | none => exact ⟨_, _, .noStatusAddress hhost hstatus hrest⟩
      | some status =>
        by_cases hkind : s.IsColumn
        · exact ⟨_, _, .column hhost hstatus hkind hrest⟩
        · exact ⟨_, _, .row hhost hstatus hkind hrest⟩

/-- A store that can be read comes before what the others come to, among those of its kind. -/
theorem storeInstances_cons_ok {s : Store} {stores : List Store} {i : StoreInstance} {column : Bool}
    {tikv tiflash : List StoreInstance} {events : List Event} (h : s.instance? = .ok (column, i))
    (hrest : storeInstances stores = ⟨⟨tikv, tiflash⟩, events⟩) :
    storeInstances (s :: stores) =
      ⟨if column then ⟨tikv, i :: tiflash⟩ else ⟨i :: tikv, tiflash⟩, events⟩ := by
  cases hrest
  cases column <;> simp [storeInstances, partition, h]

/-- A store that cannot be read is reported before what is reported of the others. -/
theorem storeInstances_cons_error {s : Store} {stores : List Store} {e : Event}
    (h : s.instance? = .error e) :
    storeInstances (s :: stores) =
      { storeInstances stores with events := e :: (storeInstances stores).events } := by
  simp [storeInstances, partition, h]

theorem Store.instance?_of_usable {s : Store} {host status : HostPort}
    (hhost : HostPort.ofText? s.address = some host)
    (hstatus : HostPort.ofText? s.statusAddress = some status) :
    s.instance? = .ok (s.isTiflash, s.found host status) := by
  simp [instance?, hhost, hstatus, found]

theorem Store.instance?_of_noAddress {s : Store} (hhost : HostPort.ofText? s.address = none) :
    s.instance? = .error (.storeAddressInvalid s.id.toNat s.address) := by
  simp [instance?, hhost]

theorem Store.instance?_of_noStatusAddress {s : Store} {host : HostPort}
    (hhost : HostPort.ofText? s.address = some host)
    (hstatus : HostPort.ofText? s.statusAddress = none) :
    s.instance? = .error (.storeStatusAddressInvalid s.id.toNat s.statusAddress) := by
  simp [instance?, hhost, hstatus]

theorem storeInstances_of_divides {stores : List Store} {found : StoreInstances} {events : List Event}
    (h : Divides stores found events) : storeInstances stores = ⟨found, events⟩ := by
  induction h with
  | nil => rfl
  | row hhost hstatus hkind _ ih =>
    rw [storeInstances_cons_ok (Store.instance?_of_usable hhost hstatus) ih,
      if_neg (mt Store.isTiflash_iff.mp hkind)]
  | column hhost hstatus hkind _ ih =>
    rw [storeInstances_cons_ok (Store.instance?_of_usable hhost hstatus) ih,
      if_pos (Store.isTiflash_iff.mpr hkind)]
  | noAddress hhost _ ih =>
    rw [storeInstances_cons_error (Store.instance?_of_noAddress hhost), ih]
  | noStatusAddress hhost hstatus _ ih =>
    rw [storeInstances_cons_error (Store.instance?_of_noStatusAddress hhost hstatus), ih]

theorem Store.exists_error {s : Store} (h : ¬ s.IsUsable) : ∃ e, s.instance? = .error e := by
  cases hhost : HostPort.ofText? s.address with
  | none => exact ⟨_, Store.instance?_of_noAddress hhost⟩
  | some host =>
    cases hstatus : HostPort.ofText? s.statusAddress with
    | none => exact ⟨_, Store.instance?_of_noStatusAddress hhost hstatus⟩
    | some status => exact absurd ⟨host, status, hhost, hstatus⟩ h

/-- A store that is passed over leaves no trace in the two parts. -/
theorem storeInstances_insert {s : Store} (h : ¬ s.IsUsable) (before after : List Store) :
    (storeInstances (before ++ s :: after)).value = (storeInstances (before ++ after)).value := by
  obtain ⟨e, he⟩ := Store.exists_error h
  simp only [storeInstances, List.map_append, List.map_cons, he, partition_value_insert]

theorem Divides.level_eq_warn {stores : List Store} {found : StoreInstances} {events : List Event}
    (h : Divides stores found events) : ∀ e ∈ events, e.level = .warn := by
  induction h with
  | nil => simp
  | row _ _ _ _ ih => exact ih
  | column _ _ _ _ ih => exact ih
  | noAddress _ _ ih => exact List.forall_mem_cons.mpr ⟨rfl, ih⟩
  | noStatusAddress _ _ _ ih => exact List.forall_mem_cons.mpr ⟨rfl, ih⟩

/-- **The stores are divided, each by itself.**  What a list of stores comes to is that list divided, in its
order: every store with two addresses that can be read is one instance in the one part that its labels say,
up exactly when its word is `up`, and every other store is one warning.  What is passed over has no effect
on the parts, wherever it stands; and a client does with the stores that it gets just that. -/
theorem stores_are_divided (stores : List Store) :
    (∀ found events, storeInstances stores = ⟨found, events⟩ ↔ Divides stores found events) ∧
    (∀ (s : Store) (host status : HostPort), (s.found host status).status = .up ↔
      ∃ u p, Text.trim s.stateName.toList = [u, p] ∧ (u = 'u' ∨ u = 'U') ∧ (p = 'p' ∨ p = 'P')) ∧
    (∀ e ∈ (storeInstances stores).events, e.level = .warn) ∧
    (∀ before after s, stores = before ++ after → ¬ s.IsUsable →
      (storeInstances (before ++ s :: after)).value = (storeInstances stores).value) ∧
    ∀ (c : Client) (peer : Peer) (deadline now : Instant),
      (c.stores peer deadline now).value = .ok stores →
        (c.storeInstances peer deadline now).value = .ok (storeInstances stores).value ∧
        (c.storeInstances peer deadline now).events =
          (c.stores peer deadline now).events ++ (storeInstances stores).events := by
  obtain ⟨found, events, hdivides⟩ := exists_divides stores
  have hstores := storeInstances_of_divides hdivides
  refine ⟨fun found' events' => ⟨fun h => ?_, storeInstances_of_divides⟩,
    Store.status_found_eq_up_iff, ?_, ?_, ?_⟩
  · cases hstores.symm.trans h
    exact hdivides
  · rw [hstores]
    exact hdivides.level_eq_warn
  · rintro before after s rfl hunusable
    exact storeInstances_insert hunusable before after
  · intro c peer deadline now hvalue
    simp [Client.storeInstances, Conversation.mapLogged, hvalue]

/-- A column store, a store whose status cannot be asked for, a row store that is gone, and a store without
any address. -/
def mixedStores : List Store :=
  [⟨1, "[::1]:20160", " uP\n", "v8", "x:1", some [⟨"zone", "a"⟩, ⟨"engine", "tiflash"⟩], 0⟩,
    ⟨2, "r:1", "Up", "", "r", none, 0⟩,
    ⟨3, "r:1", "Tombstone", "v7", "other:2", some [⟨"engine", "tikv"⟩], 0⟩,
    ⟨4, "r", "Up", "", "r", none, 0⟩]

theorem mixedStores_are_divided :
    storeInstances mixedStores =
        ⟨⟨[⟨3, ⟨"r", 1⟩, 2, "v7", .tombstone⟩], [⟨1, ⟨"::1", 20160⟩, 1, "v8", .up⟩]⟩,
          [.storeStatusAddressInvalid 2 "r", .storeAddressInvalid 4 "r"]⟩ ∧
      (storeInstances (mixedStores.eraseIdx 1)).value = (storeInstances mixedStores).value := by
  have hcolumn : mixedStores[0].IsColumn := ⟨_, ⟨"engine", "tiflash"⟩, rfl, by decide, rfl, rfl⟩
  have hrow : ¬ mixedStores[2].IsColumn := by
    rw [← Store.isTiflash_iff]
    decide
  have hhost : HostPort.ofText? "r:1" = some ⟨"r", 1⟩ := by decide +kernel
  have hnone : HostPort.ofText? "r" = none := by decide +kernel
  have hdivides : Divides mixedStores
      ⟨[mixedStores[2].found ⟨"r", 1⟩ ⟨"other", 2⟩], [mixedStores[0].found ⟨"::1", 20160⟩ ⟨"x", 1⟩]⟩
      [.storeStatusAddressInvalid 2 "r", .storeAddressInvalid 4 "r"] :=
    .column (by decide +kernel) (by decide +kernel) hcolumn <| .noStatusAddress hhost hnone <|
      .row hhost (by decide +kernel) hrow <| .noAddress hnone .nil
  have hfound : (⟨[mixedStores[2].found ⟨"r", 1⟩ ⟨"other", 2⟩],
      [mixedStores[0].found ⟨"::1", 20160⟩ ⟨"x", 1⟩]⟩ : StoreInstances) =
      ⟨[⟨3, ⟨"r", 1⟩, 2, "v7", .tombstone⟩], [⟨1, ⟨"::1", 20160⟩, 1, "v8", .up⟩]⟩ := by decide +kernel
  have hunusable : ¬ mixedStores[1].IsUsable := by
    rintro ⟨_, _, -, hstatus⟩
    cases hnone.symm.trans hstatus
  obtain ⟨hdivided, -, -, -, -⟩ := stores_are_divided mixedStores
  obtain ⟨-, -, -, hinsert, -⟩ := stores_are_divided (mixedStores.eraseIdx 1)
  constructor
  · rw [← hfound]
    exact (hdivided _ _).mpr hdivides
  · exact (hinsert (mixedStores.take 1) (mixedStores.drop 2) mixedStores[1] rfl hunusable).symm

end Pd

end ClusterTopology
