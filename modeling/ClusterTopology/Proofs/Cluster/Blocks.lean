import Mathlib.Data.String.Basic
import ClusterTopology.Pd.Instance
import ClusterTopology.Tidb.Instance
/-!
What a list of a registry puts into a topology.

Every entry of a list stands for one record of a component, or for none: when it is not up, or cannot be
reached by an address.  The records keep the order of their list; only the servers of the SQL layer
come sorted.

`Member.record?`, `Store.record?` and `Instance.record?` say which record that is.  For each list there is
one lemma that its components are the records of its entries, in order, and one that a record has the role
of its list, from which it follows that the records of different lists cannot be mixed up.  The order of the
servers is a fact about sorting by `Instance.le`, which is transitive and total.
-/

namespace ClusterTopology

/-- The order of records by host, then by port. -/
def Component.Before (a b : Component) : Prop := a.ip < b.ip ∨ a.ip = b.ip ∧ a.port ≤ b.port

/-! ### Members and stores -/

namespace Pd

/-- The record of a member that is up and can be reached: its status is served where it serves. -/
def Member.record? (health : List MemberHealth) (m : Member) : Option Component :=
  match m.instance? health with
  | .ok i => if i.status = .up then some ⟨.pd, i.host.host, i.host.port, i.host.port⟩ else none
  | .error _ => none

theorem components_instances (members : List Member) (health : List MemberHealth) :
    components (instances members health).value = members.filterMap (Member.record? health) := by
  rw [instances, partition_value, components, List.filterMap_map]
  induction members with
  | nil => rfl
  | cons m members ih =>
    cases hinstance : m.instance? health with
    | error e => simpa [Member.record?, hinstance, Except.toOption] using ih
    | ok i =>
      by_cases hup : i.status = .up
      · simpa [Member.record?, hinstance, Except.toOption, Status.isUp, hup] using ih
      · simpa [Member.record?, hinstance, Except.toOption, Status.isUp, hup] using ih

theorem Member.role_of_record? {health : List MemberHealth} {m : Member} {r : Component}
    (h : m.record? health = some r) : r.role = .pd ∧ r.statusPort = r.port := by
  unfold record? at h
  split at h
  · split at h
    · cases h
      exact ⟨rfl, rfl⟩
    · cases h
  · cases h

/-- The role that a store has by its labels. -/
def Store.role (s : Store) : Role := if s.isTiflash then .tiflash else .tikv

/-- The record of a store that is up and can be reached. -/
def Store.record? (s : Store) : Option Component :=
  match s.instance? with
  | .ok (_, i) => if i.status = .up then some ⟨s.role, i.host.host, i.host.port, i.statusPort⟩ else none
  | .error _ => none

theorem Store.role_of_record? {s : Store} {r : Component} (h : s.record? = some r) :
    r.role = s.role := by
  unfold record? at h
  split at h
  · split at h
    · cases h
      rfl
    · cases h
  · cases h

theorem Store.isTiflash_of_instance? {s : Store} {column : Bool} {i : StoreInstance}
    (h : s.instance? = .ok (column, i)) : column = s.isTiflash := by
  unfold instance? at h
  split at h
  · cases h
  · split at h
    · cases h
    · cases h
      rfl

/-- The stores of one kind make the records of that kind. -/
theorem storeComponentsOf_partition (column : Bool) (stores : List Store) :
    storeComponentsOf (if column then .tiflash else .tikv)
        (((partition (stores.map Store.instance?)).value.filter fun p => p.1 == column).map (·.2)) =
      (stores.filter fun s => s.isTiflash == column).filterMap Store.record? := by
  rw [partition_value, storeComponentsOf, List.filterMap_map]
  induction stores with
  | nil => rfl
  | cons s stores ih =>
    cases hinstance : s.instance? with
    | error e =>
      have hnone : s.record? = none := by simp [Store.record?, hinstance]
      by_cases hkind : s.isTiflash = column
      · simpa [hinstance, hnone, hkind, Except.toOption] using ih
      · simpa [hinstance, hnone, hkind, Except.toOption] using ih
    | ok found =>
      obtain ⟨kind, i⟩ := found
      obtain rfl := Store.isTiflash_of_instance? hinstance
      by_cases hkind : s.isTiflash = column
      · have hrole : s.role = if column then .tiflash else .tikv := by simp [Store.role, hkind]
        by_cases hup : i.status = .up
        · simpa [hinstance, hkind, Except.toOption, Store.record?, Status.isUp, hup, hrole] using ih
        · simpa [hinstance, hkind, Except.toOption, Store.record?, Status.isUp, hup] using ih
      · simpa [hinstance, hkind, Except.toOption] using ih

theorem storeComponents_storeInstances (stores : List Store) :
    storeComponents (storeInstances stores).value =
      (stores.filter fun s => !s.isTiflash).filterMap Store.record? ++
        (stores.filter fun s => s.isTiflash).filterMap Store.record? := by
  have hrow := storeComponentsOf_partition false stores
  have hcolumn := storeComponentsOf_partition true stores
  simp only [beq_false, beq_true, if_true, Bool.false_eq_true, if_false] at hrow hcolumn
  rw [storeComponents, storeInstances, hrow, hcolumn]

end Pd

/-! ### Servers of the SQL layer -/

namespace Tidb

/-- The record of a server that is up, with the status port that it has registered. -/
def Instance.record? (i : Instance) : Option Component :=
  if i.status = .up then some ⟨.tidb, i.host.host, i.host.port, i.info.statusPort⟩ else none

theorem components_eq (is : List Instance) : components is = is.filterMap Instance.record? := by
  unfold components
  induction is with
  | nil => rfl
  | cons i is ih =>
    by_cases hup : i.status = .up
    · simpa [Instance.record?, Status.isUp, hup] using ih
    · simpa [Instance.record?, Status.isUp, hup] using ih

theorem Instance.eq_of_record? {i : Instance} {r : Component} (h : i.record? = some r) :
    r.role = .tidb ∧ r.ip = i.host.host ∧ r.port = i.host.port := by
  unfold record? at h
  split at h
  · cases h
    exact ⟨rfl, rfl, rfl⟩
  · cases h

theorem Instance.le_iff {a b : Instance} : a.le b = true ↔
    a.host.host < b.host.host ∨ a.host.host = b.host.host ∧ a.host.port ≤ b.host.port := by
  simp [le]

theorem Instance.le_trans {a b c : Instance} (hab : a.le b = true) (hbc : b.le c = true) :
    a.le c = true := by
  rw [le_iff] at hab hbc ⊢
  rcases hab with hlt | ⟨heq, hport⟩
  · rcases hbc with hlt' | ⟨heq', hport'⟩
    · exact .inl (lt_trans hlt hlt')
    · exact .inl (heq' ▸ hlt)
  · rcases hbc with hlt' | ⟨heq', hport'⟩
    · exact .inl (heq ▸ hlt')
    · exact .inr ⟨heq.trans heq', UInt16.le_trans hport hport'⟩

theorem Instance.le_total (a b : Instance) : (a.le b || b.le a) = true := by
  rw [Bool.or_eq_true, le_iff, le_iff]
  rcases lt_trichotomy a.host.host b.host.host with hlt | heq | hlt
  · exact .inl (.inl hlt)
  · rcases UInt16.le_total a.host.port b.host.port with hport | hport
    · exact .inl (.inr ⟨heq, hport⟩)
    · exact .inr (.inr ⟨heq.symm, hport⟩)
  · exact .inr (.inl hlt)

/-- **The servers come sorted by host and port.** -/
theorem pairwise_instances (now : Int) (entries : List Entry) :
    (instances now entries).value.Pairwise fun a b => a.le b = true := by
  simp only [instances, Gathered.instances]
  exact @List.pairwise_mergeSort _ Instance.le (fun _ _ _ => Instance.le_trans) Instance.le_total _

theorem pairwise_records (now : Int) (entries : List Entry) :
    ((instances now entries).value.filterMap Instance.record?).Pairwise Component.Before := by
  refine (pairwise_instances now entries).filterMap _ ?_
  intro i j hle a ha b hb
  obtain ⟨-, hip, hport⟩ := Instance.eq_of_record? ha
  obtain ⟨-, hip', hport'⟩ := Instance.eq_of_record? hb
  rw [Component.Before, hip, hip', hport, hport']
  exact Instance.le_iff.mp hle

end Tidb

end ClusterTopology
