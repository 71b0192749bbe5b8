import Mathlib.Tactic.Common
import ClusterTopology.Proofs.Data.Records
/-!
When records can be read.

Reading looks at what belongs to a field before a value is built from it.  For fields that look at nothing
else than what they are built from, a record can be read exactly when it has ended, its members are in order,
and a value can be built from what stands under its keys.  The members may then be in any order, and any
others may be among them.

`Sound` says of fields that what can be built has been looked at with success: it holds of a single field,
and is kept when fields are put together.  With it the two equivalences, for records by their keys and for
lists by their positions, each have a statement without `collect` and `assign` in it.  `Rearranged` is the
relation between two lists of members that differ in their order and in members without a meaning; it keeps
them tidy, and keeps what is under each key.
-/

namespace ClusterTopology.Data.Fields

/-! ### Fields that are built from what they look at -/

/-- A value is built from the data under the names of the fields, and what it is built from can be looked
at. -/
structure Sound {α : Type} (fields : Fields α) : Prop where
  congr : ∀ get get', (∀ e ∈ fields.entries, get e.name = get' e.name) → fields.build get = fields.build get'
  check : ∀ get v, fields.build get = .ok v → ∀ e ∈ fields.entries, ∀ d, get e.name = some d →
    e.check d = .ok ()

section Sound

variable {α β : Type}

theorem sound_required (name : String) (r : Reader α) : Sound (required name r) where
  congr get get' h := by
    have hname : get name = get' name := h _ (List.mem_singleton_self _)
    simp only [required, hname]
  check get v hbuild e he d hd := by
    obtain rfl := List.mem_singleton.mp he
    obtain ⟨d', hd', hread⟩ := build_required_eq_ok_iff.mp hbuild
    cases hd.symm.trans hd'
    change (r d).map _ = _
    rw [hread]
    rfl

theorem sound_withDefault (name : String) (r : Reader α) (default : α) :
    Sound (withDefault name r default) where
  congr get get' h := by
    have hname : get name = get' name := h _ (List.mem_singleton_self _)
    simp only [withDefault, hname]
  check get v hbuild e he d hd := by
    obtain rfl := List.mem_singleton.mp he
    rcases build_withDefault_eq_ok_iff.mp hbuild with ⟨hnone, -⟩ | ⟨d', hd', hread⟩
    · cases hd.symm.trans hnone
    · cases hd.symm.trans hd'
      change (r d).map _ = _
      rw [hread]
      rfl

theorem Sound.seq {f : Fields (α → β)} {x : Fields α} (hf : Sound f) (hx : Sound x) : Sound (f <*> x) where
  congr get get' h := by
    have hleft := hf.congr get get' fun e he => h e (List.mem_append_left _ he)
    have hright := hx.congr get get' fun e he => h e (List.mem_append_right _ he)
    change (f.build get >>= fun g => x.build get >>= fun a => Except.ok (g a)) = _
    rw [hleft, hright]
    rfl
  check get v hbuild e he d hd := by
    obtain ⟨g, a, hg, ha, -⟩ := build_seq_eq_ok_iff.mp hbuild
    rcases List.mem_append.mp he with he | he
    · exact hf.check get g hg e he d hd
    · exact hx.check get a ha e he d hd

theorem Sound.map {x : Fields α} (hx : Sound x) (f : α → β) : Sound (f <$> x) where
  congr get get' h := by
    change (x.build get).map f = (x.build get').map f
    rw [hx.congr get get' h]
  check get v hbuild e he d hd := by
    obtain ⟨a, ha, -⟩ := build_map_eq_ok_iff.mp hbuild
    exact hx.check get a ha e he d hd

end Sound

/-! ### Records -/

variable {α : Type} {fields : Fields α} {typeName : String}

/-- **What can be read as a record**: a record that has ended with its members in order, when a value is
built from what stands under its keys. -/
theorem reader_record_eq_ok_iff (hsound : Sound fields) (hnames : (fields.entries.map (·.name)).Nodup)
    {surplus : Surplus} {members : List (Key × Datum)} {ending : Ending} {v : α} :
    fields.reader typeName surplus (.record members ending) = .ok v ↔
      ending = .closed ∧ Tidy fields.entries members ∧ fields.build (valueOf members) = .ok v := by
  constructor
  · intro h
    obtain ⟨hclosed, htidy, get, hbuild, hget⟩ := build_of_reader h
    rw [hsound.congr get _ hget] at hbuild
    exact ⟨hclosed, htidy, hbuild⟩
  · rintro ⟨rfl, htidy, hbuild⟩
    refine reader_of_build hnames htidy (hsound.check _ v hbuild) ?_
    intro get hget
    rwa [hsound.congr get _ hget]

theorem Tidy.of_name {entries : List Entry} {name : String} {d : Datum} {members : List (Key × Datum)}
    (h : name ∈ entries.map (·.name)) (hlast : valueOf members name = none) (hrest : Tidy entries members) :
    Tidy entries ((.text name, d) :: members) := by
  obtain ⟨e, he, rfl⟩ := List.mem_map.mp h
  exact .field he hlast hrest

/-! ### Lists -/

theorem lookup_eq_none {found : List (String × Datum)} {name : String} (h : name ∉ found.map (·.1)) :
    found.lookup name = none := by
  rw [List.lookup_eq_none_iff]
  intro p hp
  exact bne_iff_ne.mpr fun heq => h (List.mem_map.mpr ⟨p, hp, heq.symm⟩)

/-- Under names that differ, the order of the data does not matter. -/
theorem lookup_reverse {found : List (String × Datum)} (h : (found.map (·.1)).Nodup) (name : String) :
    found.reverse.lookup name = found.lookup name := by
  induction found with
  | nil => rfl
  | cons p found ih =>
    obtain ⟨k, d⟩ := p
    obtain ⟨hfresh, hrest⟩ := List.nodup_cons.mp h
    rw [List.reverse_cons, List.lookup_append, ih hrest]
    by_cases hname : name = k
    · subst hname
      rw [lookup_eq_none hfresh, List.lookup_cons_self, List.lookup_cons_self, Option.none_or]
    · simp only [List.lookup_cons, beq_eq_false_iff_ne.mpr hname, List.lookup_nil, Option.or_none]

theorem map_fst_zip_sublist (names : List String) (items : List Datum) :
    ((names.zip items).map (·.1)).Sublist names := by
  induction names generalizing items with
  | nil => exact List.nil_sublist []
  | cons name names ih =>
    cases items with
    | nil => exact List.nil_sublist _
    | cons d items => exact (ih items).cons_cons name

/-- The item of a field is found under its name. -/
theorem lookup_zip {entries : List Entry} {items : List Datum} (hnames : (entries.map (·.name)).Nodup)
    {e : Entry} {d : Datum} (h : (e, d) ∈ entries.zip items) :
    ((entries.map (·.name)).zip items).lookup e.name = some d := by
  induction entries generalizing items with
  | nil => cases h
  | cons e' entries ih =>
    cases items with
    | nil => cases h
    | cons d' items =>
      obtain ⟨hfresh, hrest⟩ := List.nodup_cons.mp hnames
      rw [List.map_cons, List.zip_cons_cons]
      rcases List.mem_cons.mp h with heq | hmem
      · obtain ⟨rfl, rfl⟩ := Prod.mk.inj heq
        exact List.lookup_cons_self
      · have hne : e.name ≠ e'.name := by
          intro hname
          exact hfresh (List.mem_map.mpr ⟨e, (List.of_mem_zip hmem).1, hname⟩)
        rw [List.lookup_cons, beq_eq_false_iff_ne.mpr hne]
        exact ih hrest hmem

/-- The items of a list are taken as fields in their order, and the fields that are left may lack. -/
theorem assign_eq_ok_iff {missing : Nat → ReadError} {ending : Ending} {entries : List Entry}
    {items : List Datum} {n : Nat} {found all : List (String × Datum)} :
    assign missing ending entries items n found = .ok all ↔
      all = ((entries.map (·.name)).zip items).reverse ++ found ∧
      (∀ p ∈ entries.zip items, p.1.check p.2 = .ok ()) ∧
      (items.length < entries.length → ending = .closed) ∧
      ∀ e ∈ entries.drop items.length, e.mayLack = true := by
  induction entries generalizing items n found with
  | nil =>
    rw [assign, Except.ok.injEq, eq_comm]
    simp
  | cons e es ih =>
    cases items with
    | cons d ds =>
      rw [assign, bind_eq_ok_iff]
      simp only [ih, List.map_cons, List.zip_cons_cons, List.reverse_cons, List.append_assoc,
        List.singleton_append, List.forall_mem_cons, List.length_cons, Nat.add_lt_add_iff_right,
        List.drop_succ_cons]
      constructor
      · rintro ⟨⟨⟩, hcheck, hall, hrest⟩
        exact ⟨hall, ⟨hcheck, hrest.1⟩, hrest.2⟩
      · rintro ⟨hall, ⟨hcheck, hchecks⟩, hrest⟩
        exact ⟨(), hcheck, hall, hchecks, hrest⟩
    | nil =>
      cases ending with
      | cut afterComma f => simp [assign]
      | closed =>
        by_cases hlack : e.mayLack = true
        · simp only [assign, hlack, if_true, ih]
          simp [hlack]
        · simp [assign, hlack]

/-- **What can be read as a record from a list**: a list that has ended, with an item for every field that
cannot lack and none beyond, when a value is built from the items in the order of the fields. -/
theorem reader_list_eq_ok_iff (hsound : Sound fields) (hnames : (fields.entries.map (·.name)).Nodup)
    {items : List Datum} {ending : Ending} {v : α} :
    fields.reader typeName .refused (.list items ending) = .ok v ↔
      ending = .closed ∧ items.length ≤ fields.entries.length ∧
      (∀ e ∈ fields.entries.drop items.length, e.mayLack = true) ∧
      fields.build (((fields.entries.map (·.name)).zip items).lookup ·) = .ok v := by
  have hkeys : (((fields.entries.map (·.name)).zip items).map (·.1)).Nodup := by
    exact List.Nodup.sublist (map_fst_zip_sublist _ items) hnames
  have hlookup : (((fields.entries.map (·.name)).zip items).reverse.lookup ·) =
      (((fields.entries.map (·.name)).zip items).lookup ·) :=
    funext (lookup_reverse hkeys)
  unfold reader
  simp only [bind_eq_ok_iff, assign_eq_ok_iff, List.append_nil]
  constructor
  · rintro ⟨_, ⟨rfl, -, -, hlack⟩, v', hbuild, h⟩
    rw [hlookup] at hbuild
    split at h
    · cases h
    · next hcount =>
      cases ending with
      | closed =>
        cases h
        exact ⟨rfl, Nat.le_of_not_lt hcount, hlack, hbuild⟩
      | cut afterComma f => cases afterComma <;> cases h
  · rintro ⟨rfl, hcount, hlack, hbuild⟩
    refine ⟨_, ⟨rfl, ?_, fun _ => rfl, hlack⟩, v, by rwa [hlookup], if_neg (Nat.not_lt.mpr hcount)⟩
    rintro ⟨e, d⟩ hp
    exact hsound.check _ v hbuild e (List.of_mem_zip hp).1 d (lookup_zip hnames hp)

/-- What a datum gives for a field: what stands under its name in a record, or at its place among the names
of all fields in a list. -/
def given (names : List String) (d : Datum) (name : String) : Option Datum :=
  match d with
  | .record members _ => valueOf members name
  | .list items _ => (names.zip items).lookup name
  | _ => none

/-- A value that is read is built from what is given. -/
theorem build_given_of_reader (hsound : Sound fields) (hnames : (fields.entries.map (·.name)).Nodup)
    {d : Datum} {v : α} (hread : fields.reader typeName .refused d = .ok v) :
    fields.build (given (fields.entries.map (·.name)) d) = .ok v := by
  cases d with
  | record members ending => exact ((reader_record_eq_ok_iff hsound hnames).mp hread).2.2
  | list items ending => exact ((reader_list_eq_ok_iff hsound hnames).mp hread).2.2.2
  | null => cases hread
  | bool b => cases hread
  | integer n => cases hread
  | real t => cases hread
  | text s => cases hread
  | spoiled start f => cases hread

/-! ### Order -/

/-- Members that differ only in their order and in those that belong to no field. -/
inductive Rearranged (entries : List Entry) : List (Key × Datum) → List (Key × Datum) → Prop where
  | order {members others : List (Key × Datum)} (h : members.Perm others) : Rearranged entries members others
  | added {k : String} {d : Datum} {members : List (Key × Datum)} (hunknown : ∀ e ∈ entries, e.name ≠ k)
      (hsound : d.obstacle = none) : Rearranged entries members ((.text k, d) :: members)
  | back {members others : List (Key × Datum)} (h : Rearranged entries members others) :
      Rearranged entries others members
  | further {members others more : List (Key × Datum)} (h : Rearranged entries members others)
      (hmore : Rearranged entries others more) : Rearranged entries members more

variable {entries : List Entry} {members others : List (Key × Datum)}

theorem valueOf_swap {k l : String} (h : k ≠ l) (d d' : Datum) (members : List (Key × Datum))
    (name : String) :
    valueOf ((.text k, d) :: (.text l, d') :: members) name =
      valueOf ((.text l, d') :: (.text k, d) :: members) name := by
  simp only [valueOf_cons]
  by_cases hk : k = name
  · by_cases hl : l = name
    · exact absurd (hk.trans hl.symm) h
    · simp [hk, hl]
  · simp [hk]

/-- Members in order stay so in every order, and what stands under a key stays the same. -/
theorem Tidy.perm (h : members.Perm others) (htidy : Tidy entries members) :
    Tidy entries others ∧ ∀ e ∈ entries, valueOf others e.name = valueOf members e.name := by
  induction h with
  | nil => exact ⟨htidy, fun _ _ => rfl⟩
  | cons m _ ih =>
    cases htidy with
    | @field e d _ he hlast hrest =>
      obtain ⟨htidy, hsame⟩ := ih hrest
      refine ⟨.field he ((hsame e he).trans hlast) htidy, ?_⟩
      intro e' he'
      rw [valueOf_cons, valueOf_cons, hsame e' he']
    | passed hunknown hsound hrest =>
      obtain ⟨htidy, hsame⟩ := ih hrest
      refine ⟨.passed hunknown hsound htidy, ?_⟩
      intro e' he'
      rw [valueOf_cons, valueOf_cons, hsame e' he']
  | swap m m' members =>
    cases htidy with
    | @field e d _ he hlast hrest =>
      cases hrest with
      | @field e' d' _ he' hlast' hrest =>
        have hne : e'.name ≠ e.name := by
          intro heq
          rw [valueOf_cons, if_pos heq] at hlast
          cases hlast
        rw [valueOf_cons, if_neg hne] at hlast
        refine ⟨.field he' ?_ (.field he hlast hrest), fun _ _ => valueOf_swap hne d' d members _⟩
        rwa [valueOf_cons, if_neg hne.symm]
      | @passed k d' _ hunknown hsound hrest =>
        have hne : k ≠ e.name := (hunknown e he).symm
        rw [valueOf_cons, if_neg hne] at hlast
        exact ⟨.passed hunknown hsound (.field he hlast hrest), fun _ _ => valueOf_swap hne d' d members _⟩
    | @passed k d _ hunknown hsound hrest =>
      cases hrest with
      | @field e' d' _ he' hlast' hrest =>
        have hne : e'.name ≠ k := hunknown e' he'
        refine ⟨.field he' ?_ (.passed hunknown hsound hrest), fun _ _ => valueOf_swap hne d' d members _⟩
        rwa [valueOf_cons, if_neg hne.symm]
      | @passed k' d' _ hunknown' hsound' hrest =>
        refine ⟨.passed hunknown' hsound' (.passed hunknown hsound hrest), ?_⟩
        intro e he
        rw [valueOf_cons, if_neg (hunknown' e he).symm, valueOf_cons, if_neg (hunknown e he).symm,
          valueOf_cons, if_neg (hunknown e he).symm, valueOf_cons, if_neg (hunknown' e he).symm]
  | trans _ _ ih ih' =>
    obtain ⟨hmiddle, hsame⟩ := ih htidy
    obtain ⟨hlast, hsame'⟩ := ih' hmiddle
    exact ⟨hlast, fun e he => (hsame' e he).trans (hsame e he)⟩

theorem tidy_added_iff {k : String} {d : Datum} (hunknown : ∀ e ∈ entries, e.name ≠ k)
    (hsound : d.obstacle = none) : Tidy entries ((.text k, d) :: members) ↔ Tidy entries members := by
  constructor
  · intro h
    cases h with
    | field he _ _ => exact absurd rfl (hunknown _ he)
    | passed _ _ hrest => exact hrest
  · exact .passed hunknown hsound

theorem Rearranged.cons (h : Rearranged entries members others) (m : Key × Datum) :
    Rearranged entries (m :: members) (m :: others) := by
  induction h with
  | order h => exact .order (h.cons m)
  | added hunknown hsound => exact .further (.added hunknown hsound) (.order (List.Perm.swap ..))
  | back _ ih => exact .back ih
  | further _ _ ih ih' => exact .further ih ih'

theorem Rearranged.tidy_iff (h : Rearranged entries members others) :
    (Tidy entries others ↔ Tidy entries members) ∧
      (Tidy entries members → ∀ e ∈ entries, valueOf others e.name = valueOf members e.name) := by
  induction h with
  | order h => exact ⟨⟨fun ht => (ht.perm h.symm).1, fun ht => (ht.perm h).1⟩, fun ht => (ht.perm h).2⟩
  | added hunknown hsound =>
    refine ⟨tidy_added_iff hunknown hsound, ?_⟩
    intro _ e he
    rw [valueOf_cons, if_neg (hunknown e he).symm]
  | back _ ih => exact ⟨ih.1.symm, fun ht e he => (ih.2 (ih.1.mp ht) e he).symm⟩
  | further _ _ ih ih' =>
    refine ⟨ih'.1.trans ih.1, ?_⟩
    intro ht e he
    exact (ih'.2 (ih.1.mpr ht) e he).trans (ih.2 ht e he)

/-- **Order and other members do not count**: a record can be read exactly when another arrangement of it
can, and as the same value. -/
theorem Rearranged.reader_eq_ok_iff (hsound : Sound fields) (hnames : (fields.entries.map (·.name)).Nodup)
    (h : Rearranged fields.entries members others) {surplus : Surplus} {ending : Ending} {v : α} :
    fields.reader typeName surplus (.record others ending) = .ok v ↔
      fields.reader typeName surplus (.record members ending) = .ok v := by
  obtain ⟨htidy, hsame⟩ := h.tidy_iff
  rw [reader_record_eq_ok_iff hsound hnames, reader_record_eq_ok_iff hsound hnames, htidy]
  refine and_congr_right fun _ => and_congr_right fun ht => ?_
  rw [hsound.congr _ _ (hsame ht)]

end ClusterTopology.Data.Fields
