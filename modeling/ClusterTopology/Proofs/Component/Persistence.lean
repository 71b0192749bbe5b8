import Mathlib.Tactic.Common
import ClusterTopology.Component.Data
import ClusterTopology.Proofs.Data.Readability
import ClusterTopology.Proofs.Json.Writing
/-!
Snapshots that are written down and read back.

The text of a snapshot is read as the snapshot.  What is read of a component depends on what stands under its
four keys, and on nothing else.

The fields of a component are `Sound` and have distinct names, so that everything about single components is
an instance of the general statements on records: which data are read as a component, and that the order of
the members and members without a meaning do not count.  `SameParts` is the relation between two data that
agree in this sense, of components first and then of snapshots, item by item.

With `Json.ofBytes_text` for the text itself, a snapshot that has been written is read back, and so no two
snapshots have the same text.
-/

namespace ClusterTopology

open ClusterTopology.Data

/-! ### One component -/

theorem Role.reader_text (role : Role) : Role.reader (.text role.text) = .ok role := by
  cases role <;> rfl

theorem Reader.uint16_datum (p : UInt16) : Reader.uint16 (Json.Value.int p.toNat).datum = .ok p := by
  have hlt := p.toNat_lt
  have hdatum : (Json.Value.int p.toNat).datum = .integer p.toNat := by
    rw [Json.Value.datum, Json.datum_intNumeral (Nat.lt_trans hlt (by decide))]
  have hrange : (0 : Int) ≤ p.toNat ∧ (p.toNat : Int) ≤ 65535 := by omega
  rw [hdatum, Reader.uint16, Reader.integer, if_pos hrange]
  change Except.ok (UInt16.ofNat p.toNat) = _
  rw [UInt16.ofNat_toNat]

namespace Component

theorem sound_fields : Fields.Sound Component.fields :=
  ((((Fields.sound_required _ _).map _).seq (Fields.sound_required _ _)).seq
    (Fields.sound_required _ _)).seq (Fields.sound_required _ _)

theorem names_fields :
    Component.fields.entries.map (·.name) = ["name", "ip", "port", "status_port"] := rfl

theorem nodup_names : (Component.fields.entries.map (·.name)).Nodup := by
  rw [names_fields]
  decide

/-- A component is built from what stands under its four keys. -/
theorem build_fields_iff {get : String → Option Datum} {c : Component} :
    Component.fields.build get = .ok c ↔
      (∃ d, get "name" = some d ∧ Role.reader d = .ok c.role) ∧
      (∃ d, get "ip" = some d ∧ Reader.text d = .ok c.ip) ∧
      (∃ d, get "port" = some d ∧ Reader.uint16 d = .ok c.port) ∧
      ∃ d, get "status_port" = some d ∧ Reader.uint16 d = .ok c.statusPort := by
  simp only [Component.fields, Fields.build_seq_eq_ok_iff, Fields.build_map_eq_ok_iff,
    Fields.build_required_eq_ok_iff]
  constructor
  · rintro ⟨_, statusPort, ⟨_, port, ⟨_, ip, ⟨role, hrole, rfl⟩, hip, rfl⟩, hport, rfl⟩, hstatus, rfl⟩
    exact ⟨hrole, hip, hport, hstatus⟩
  · rintro ⟨hrole, hip, hport, hstatus⟩
    exact ⟨_, _, ⟨_, _, ⟨_, _, ⟨_, hrole, rfl⟩, hip, rfl⟩, hport, rfl⟩, hstatus, rfl⟩

theorem reader_datum (c : Component) : Component.reader c.value.datum = .ok c := by
  have hdatum : c.value.datum = .record [(.text "name", .text c.role.text), (.text "ip", .text c.ip),
      (.text "port", (Json.Value.int c.port.toNat).datum),
      (.text "status_port", (Json.Value.int c.statusPort.toNat).datum)] .closed := rfl
  have hname {name : String} (h : name ∈ ["name", "ip", "port", "status_port"]) :
      name ∈ Component.fields.entries.map (·.name) := names_fields ▸ h
  rw [Component.reader, hdatum, Fields.reader_record_eq_ok_iff sound_fields nodup_names,
    build_fields_iff]
  refine ⟨rfl, ?_, ⟨_, rfl, Role.reader_text c.role⟩, ⟨_, rfl, rfl⟩, ⟨_, rfl, Reader.uint16_datum c.port⟩,
    ⟨_, rfl, Reader.uint16_datum c.statusPort⟩⟩
  exact .of_name (hname (by decide)) rfl <| .of_name (hname (by decide)) rfl <|
    .of_name (hname (by decide)) rfl <| .of_name (hname (by decide)) rfl .nil

/-! ### Arrangements -/

/-- Two data are the same, or records that differ in the order of their members and in those that no
component has. -/
inductive SameParts : Datum → Datum → Prop where
  | same (d : Datum) : SameParts d d
  | record {members others : List (Key × Datum)} {ending : Ending}
      (h : Fields.Rearranged fields.entries members others) :
      SameParts (.record members ending) (.record others ending)

theorem SameParts.reader_eq_ok_iff {d d' : Datum} (h : SameParts d d') {c : Component} :
    Component.reader d' = .ok c ↔ Component.reader d = .ok c := by
  cases h with
  | same d => exact Iff.rfl
  | record h => exact h.reader_eq_ok_iff sound_fields nodup_names

/-- Whether a member of a record belongs to a component. -/
def isPart (m : String × Json.Value) : Bool :=
  ["name", "ip", "port", "status_port"].contains m.1

/-- What no component has can be left out. -/
theorem rearranged_filter (members : List (String × Json.Value)) :
    Fields.Rearranged fields.entries (Json.membersData (members.filter isPart))
      (Json.membersData members) := by
  induction members with
  | nil => exact .order (.refl _)
  | cons m members ih =>
    obtain ⟨k, v⟩ := m
    by_cases hpart : isPart (k, v) = true
    · rw [List.filter_cons_of_pos hpart]
      exact ih.cons _
    · rw [List.filter_cons_of_neg hpart]
      refine .further ih (.added ?_ v.obstacle_datum)
      rintro e he rfl
      have hname : e.name ∈ fields.entries.map (·.name) := List.mem_map_of_mem he
      rw [names_fields] at hname
      exact hpart (List.contains_iff_mem.mpr hname)

theorem rearranged_of_perm {members others : List (String × Json.Value)}
    (h : (others.filter isPart).Perm (members.filter isPart)) :
    Fields.Rearranged fields.entries (Json.membersData members) (Json.membersData others) := by
  have hperm : (Json.membersData (members.filter isPart)).Perm (Json.membersData (others.filter isPart)) := by
    rw [Json.membersData_eq_map, Json.membersData_eq_map]
    exact (h.map _).symm
  exact .further (.back (rearranged_filter members)) (.further (.order hperm) (rearranged_filter others))

end Component

/-! ### Snapshots -/

namespace Snapshot

/-- Two data are the same, or lists that have the same components one by one. -/
inductive SameParts : Datum → Datum → Prop where
  | same (d : Datum) : SameParts d d
  | list {items others : List Datum} {ending : Ending} (h : List.Forall₂ Component.SameParts items others) :
      SameParts (.list items ending) (.list others ending)

theorem mapM_eq_ok_iff {items others : List Datum} (h : List.Forall₂ Component.SameParts items others)
    {s : Snapshot} : others.mapM Component.reader = .ok s ↔ items.mapM Component.reader = .ok s := by
  induction h generalizing s with
  | nil => exact Iff.rfl
  | cons h _ ih =>
    simp only [List.mapM_cons, bind_eq_ok_iff, h.reader_eq_ok_iff, ih]

theorem SameParts.reader_eq_ok_iff {d d' : Datum} (h : SameParts d d') {s : Snapshot} :
    Snapshot.reader d' = .ok s ↔ Snapshot.reader d = .ok s := by
  cases h with
  | same d => exact Iff.rfl
  | list h =>
    rw [Snapshot.reader, Reader.list, Reader.list, bind_eq_ok_iff, bind_eq_ok_iff]
    simp only [mapM_eq_ok_iff h]

theorem reader_datum (s : Snapshot) : Snapshot.reader (Snapshot.value s).datum = .ok s := by
  have hitems : (Json.itemsData (s.map Component.value)).mapM Component.reader = .ok s := by
    rw [Json.itemsData_eq_map, List.map_map]
    induction s with
    | nil => rfl
    | cons c s ih =>
      rw [List.map_cons, List.mapM_cons, Function.comp_apply, Component.reader_datum, bind_eq_ok_iff]
      exact ⟨c, rfl, bind_eq_ok_iff.mpr ⟨s, ih, rfl⟩⟩
  rw [Snapshot.value, Json.Value.datum, Snapshot.reader, Reader.list, bind_eq_ok_iff]
  exact ⟨s, hitems, rfl⟩

theorem decodeText_json (s : Snapshot) : Json.decodeText Snapshot.reader s.json = .ok s := by
  rw [Snapshot.json, Json.decodeText_text, reader_datum]

theorem SameParts.decode_eq_ok_iff {bytes others : List UInt8}
    (h : SameParts (Json.Document.ofBytes bytes).root (Json.Document.ofBytes others).root)
    (htrailing : (Json.Document.ofBytes others).trailing = (Json.Document.ofBytes bytes).trailing)
    {s : Snapshot} :
    Json.decode Snapshot.reader others = .ok s ↔ Json.decode Snapshot.reader bytes = .ok s := by
  rw [Json.decode_eq_ok_iff, Json.decode_eq_ok_iff, h.reader_eq_ok_iff, htrailing]

/-- Lists of records that differ in the order of members and in members that no component has. -/
theorem sameParts_datum {items others : List (List (String × Json.Value))}
    (h : List.Forall₂ (fun members members' =>
      (members'.filter Component.isPart).Perm (members.filter Component.isPart)) items others) :
    SameParts (Json.Value.arr (items.map .obj)).datum (Json.Value.arr (others.map .obj)).datum := by
  rw [Json.Value.datum, Json.Value.datum]
  apply SameParts.list
  induction h with
  | nil => exact .nil
  | cons h _ ih => exact .cons (.record (Component.rearranged_of_perm h)) ih

/-- **Snapshots survive being written down.**  The text of a snapshot is read as that snapshot, so that
different snapshots have different texts.  Of two texts that have the same components, each with its members
in any order and with any members that no component has, one is read as a snapshot exactly when the other is;
this is so in particular for the texts of lists of records that have the same parts of components. -/
theorem written_snapshots_are_read_back :
    (∀ s : Snapshot, Json.decodeText Snapshot.reader s.json = .ok s) ∧
    (∀ s t : Snapshot, s.json = t.json → s = t) ∧
    (∀ bytes others : List UInt8,
      SameParts (Json.Document.ofBytes bytes).root (Json.Document.ofBytes others).root →
      (Json.Document.ofBytes others).trailing = (Json.Document.ofBytes bytes).trailing →
      ∀ s, Json.decode Snapshot.reader others = .ok s ↔ Json.decode Snapshot.reader bytes = .ok s) ∧
    ∀ items others : List (List (String × Json.Value)),
      List.Forall₂ (fun members members' =>
        (members'.filter Component.isPart).Perm (members.filter Component.isPart)) items others →
      ∀ s, Json.decodeText Snapshot.reader (Json.Value.arr (others.map .obj)).text = .ok s ↔
        Json.decodeText Snapshot.reader (Json.Value.arr (items.map .obj)).text = .ok s := by
  refine ⟨decodeText_json, ?_, fun bytes others h htrailing s => h.decode_eq_ok_iff htrailing, ?_⟩
  · intro s t hsame
    have hread := decodeText_json s
    rw [hsame, decodeText_json t] at hread
    exact (Except.ok.inj hread).symm
  · intro items others h s
    rw [Json.decodeText_text, Json.decodeText_text]
    exact (sameParts_datum h).reader_eq_ok_iff

/-- Quotes, backslashes, controls and characters beyond ASCII, and the least and the greatest port. -/
def oddSnapshot : Snapshot :=
  [⟨.tikv, "\"\\/\n\x01\x7f", 0, 65535⟩, ⟨.pd, "é😀", 2379, 2379⟩]

/-- The same components, their members in another order and among others. -/
def oddItems : List (List (String × Json.Value)) :=
  [[("x", .arr [.null, .obj [("ip", .bool true)]]), ("status_port", .int 65535), ("port", .int 0),
      ("", .int (-1)), ("ip", .str "\"\\/\n\x01\x7f"), ("name", .str "tikv")],
    [("status_port", .int 2379), ("port", .int 2379), ("ip", .str "é😀"), ("name", .str "pd")]]

theorem oddSnapshot_is_read_back :
    Json.decodeText Snapshot.reader oddSnapshot.json = .ok oddSnapshot ∧
      Json.decodeText Snapshot.reader (Json.Value.arr (oddItems.map .obj)).text = .ok oddSnapshot ∧
      Json.decodeText Snapshot.reader " [ ]\n" = .ok [] ∧
      oddSnapshot.json ≠ Snapshot.json (oddSnapshot.take 1) := by
  have hfirst : Json.decodeText Snapshot.reader oddSnapshot.json = .ok oddSnapshot :=
    written_snapshots_are_read_back.1 oddSnapshot
  have hsame : List.Forall₂ (fun members members' =>
      (members'.filter Component.isPart).Perm (members.filter Component.isPart))
      [[("name", .str "tikv"), ("ip", .str "\"\\/\n\x01\x7f"), ("port", .int 0),
          ("status_port", .int 65535)],
        [("name", .str "pd"), ("ip", .str "é😀"), ("port", .int 2379), ("status_port", .int 2379)]]
      oddItems :=
    .cons (List.reverse_perm [_, _, _, _]) (.cons (List.reverse_perm [_, _, _, _]) .nil)
  have hempty : Json.Document.ofBytes (Snapshot.json []).toUTF8.toList = ⟨.list [] .closed, false⟩ :=
    Json.ofBytes_text (.arr [])
  have hblank : Json.Document.ofBytes " [ ]\n".toUTF8.toList = ⟨.list [] .closed, false⟩ := by
    rw [Json.toList_toUTF8]
    rfl
  refine ⟨hfirst, (written_snapshots_are_read_back.2.2.2 _ _ hsame oddSnapshot).mpr hfirst, ?_, ?_⟩
  · apply (written_snapshots_are_read_back.2.2.1 (Snapshot.json []).toUTF8.toList _ _ _ []).mpr
      (written_snapshots_are_read_back.1 [])
    · rw [hempty, hblank]
      exact .same _
    · rw [hempty, hblank]
  intro htext
  cases written_snapshots_are_read_back.2.1 _ _ htext

end Snapshot

end ClusterTopology
