import Mathlib.Data.List.Nodup
import Mathlib.Tactic.Common
import ClusterTopology.Data.Reader
/-!
What a typed reader takes from a record.

A record is read by its keys: the data under the names of the fields are collected, and the value is
built from them.  A key that belongs to a field comes at most once, so what a field gets is the datum
under its name, wherever that stands among the members.

`valueOf` is that datum.  `Tidy` says that members are in order: each key is a text, no key of a field comes
twice, and what stands under any other key can be passed over.  Members can be collected exactly when they
are tidy and each field can have what stands under its name; `lookup_collect` says that this is what has
been collected.  The lemmas on `build` take a group of fields apart, one for each way in which fields are
put together, so that what a record needs can be computed from its description.
-/

namespace ClusterTopology.Data

theorem ok_bind {ε α β : Type} (a : α) (f : α → Except ε β) : (Except.ok a >>= f) = f a := rfl

theorem bind_eq_ok_iff {ε α β : Type} {x : Except ε α} {f : α → Except ε β} {b : β} :
    x >>= f = .ok b ↔ ∃ a, x = .ok a ∧ f a = .ok b := by
  cases x with
  | error e => exact ⟨nofun, by rintro ⟨a, ⟨⟩, -⟩⟩
  | ok a => exact ⟨fun h => ⟨a, rfl, h⟩, by rintro ⟨a', ⟨⟩, h⟩; exact h⟩

/-- What is made of all items is made of each. -/
theorem exists_ok_of_mapM {ε α β : Type} {f : α → Except ε β} {items : List α} {values : List β}
    (h : items.mapM f = .ok values) {a : α} (hmem : a ∈ items) : ∃ b, f a = .ok b := by
  induction items generalizing values with
  | nil => cases hmem
  | cons x items ih =>
    rw [List.mapM_cons] at h
    obtain ⟨b, hb, hrest⟩ := bind_eq_ok_iff.mp h
    obtain ⟨bs, hbs, -⟩ := bind_eq_ok_iff.mp hrest
    rcases List.mem_cons.mp hmem with rfl | hmem
    · exact ⟨b, hb⟩
    · exact ih hbs hmem

/-- The datum under a key among the members of a record. -/
def valueOf (members : List (Key × Datum)) (name : String) : Option Datum :=
  members.findSome? fun
    | (.text k, d) => if k = name then some d else none
    | _ => none

theorem valueOf_cons (k : String) (d : Datum) (members : List (Key × Datum)) (name : String) :
    valueOf ((.text k, d) :: members) name = if k = name then some d else valueOf members name := by
  unfold valueOf
  rw [List.findSome?_cons]
  by_cases hname : k = name <;> simp [hname]

/-- A value is read from the datum under a key, or is the default where there is none. -/
def ReadOr {α : Type} (members : List (Key × Datum)) (name : String) (r : Reader α) (default v : α) :
    Prop :=
  valueOf members name = none ∧ v = default ∨ ∃ d, valueOf members name = some d ∧ r d = .ok v

theorem ReadOr.read_of_valueOf {α : Type} {members : List (Key × Datum)} {name : String} {r : Reader α}
    {default v : α} (h : ReadOr members name r default v) {d : Datum}
    (hd : valueOf members name = some d) : r d = .ok v := by
  rcases h with ⟨hnone, -⟩ | ⟨d', hd', hread⟩
  · rw [hnone] at hd
    cases hd
  · cases hd.symm.trans hd'
    exact hread

namespace Fields

/-- **A field is given the datum under its name.** -/
theorem lookup_collect {entries : List Entry} {members : List (Key × Datum)}
    {found all : List (String × Datum)} (h : collect entries members found = .ok all) {e : Entry}
    (he : e ∈ entries) : all.lookup e.name = (found.lookup e.name).or (valueOf members e.name) := by
  induction members generalizing found with
  | nil =>
    cases h
    simp [valueOf]
  | cons p members ih =>
    obtain ⟨key, d⟩ := p
    cases key with
    | spoiled f => cases h
    | foreign f => cases h
    | text k =>
      rw [valueOf_cons]
      rw [collect] at h
      split at h
      · next hunknown =>
        have hne : k ≠ e.name := by
          rintro rfl
          simpa using List.find?_eq_none.mp hunknown e he
        split at h
        · cases h
        · rw [if_neg hne]
          exact ih h
      · split at h
        · cases h
        · next hfresh =>
          obtain ⟨⟨⟩, -, hrest⟩ := bind_eq_ok_iff.mp h
          rw [ih hrest]
          by_cases hname : k = e.name
          · subst hname
            have hnone : found.lookup e.name = none := Option.not_isSome_iff_eq_none.mp hfresh
            rw [List.lookup_cons_self, hnone, if_pos rfl]
            rfl
          · rw [List.lookup_cons, beq_eq_false_iff_ne.mpr (Ne.symm hname), if_neg hname]

/-- The members of a record are in order for some fields: all keys are texts, the key of a field comes
once, and what belongs to no field has nothing broken in it. -/
inductive Tidy (entries : List Entry) : List (Key × Datum) → Prop where
  | nil : Tidy entries []
  | field {e : Entry} {d : Datum} {members : List (Key × Datum)} (he : e ∈ entries)
      (hlast : valueOf members e.name = none) (hrest : Tidy entries members) :
      Tidy entries ((.text e.name, d) :: members)
  | passed {k : String} {d : Datum} {members : List (Key × Datum)} (hunknown : ∀ e ∈ entries, e.name ≠ k)
      (hsound : d.obstacle = none) (hrest : Tidy entries members) :
      Tidy entries ((.text k, d) :: members)

theorem find?_name_eq {entries : List Entry} (hnames : (entries.map (·.name)).Nodup) {e : Entry}
    (he : e ∈ entries) : entries.find? (fun e' => e'.name == e.name) = some e := by
  rcases hfound : entries.find? fun e' => e'.name == e.name with _ | e'
  · simpa using List.find?_eq_none.mp hfound e he
  · have hname : e'.name = e.name := by simpa using List.find?_some hfound
    rw [hfound, List.inj_on_of_nodup_map hnames (List.mem_of_find?_eq_some hfound) he hname]

/-- Members in order are collected, when what belongs to a field can be its value. -/
theorem exists_collect {entries : List Entry} (hnames : (entries.map (·.name)).Nodup)
    {members : List (Key × Datum)} (h : Tidy entries members) {found : List (String × Datum)}
    (hfound : ∀ e ∈ entries, valueOf members e.name ≠ none → found.lookup e.name = none)
    (hcheck : ∀ e ∈ entries, ∀ d, valueOf members e.name = some d → e.check d = .ok ()) :
    ∃ all, collect entries members found = .ok all := by
  induction h generalizing found with
  | nil => exact ⟨found, rfl⟩
  | @field e d members he hlast hrest ih =>
    have hhere : valueOf ((.text e.name, d) :: members) e.name = some d := by simp [valueOf_cons]
    have hother {e' : Entry} (he' : valueOf members e'.name ≠ none) :
        valueOf ((.text e.name, d) :: members) e'.name = valueOf members e'.name := by
      rw [valueOf_cons, if_neg]
      intro hname
      exact he' (hname ▸ hlast)
    rw [collect, find?_name_eq hnames he]
    simp only [hfound e he (by simp [hhere]), Option.isSome_none, Bool.false_eq_true, if_false,
      hcheck e he d hhere]
    refine ih ?_ ?_
    · intro e' he' hsome
      have hname : e'.name ≠ e.name := by
        intro hname
        exact hsome (hname ▸ hlast)
      rw [List.lookup_cons, beq_eq_false_iff_ne.mpr hname]
      exact hfound e' he' (by rwa [hother hsome])
    · intro e' he' d' hd'
      exact hcheck e' he' d' (by rw [hother (by simp [hd']), hd'])
  | @passed k d members hunknown hsound hrest ih =>
    have hother {e : Entry} (he : e ∈ entries) :
        valueOf ((.text k, d) :: members) e.name = valueOf members e.name := by
      rw [valueOf_cons, if_neg (Ne.symm (hunknown e he))]
    have hnone : entries.find? (fun e => e.name == k) = none := by simpa using hunknown
    rw [collect, hnone]
    simp only [hsound]
    refine ih ?_ ?_
    · intro e he hsome
      exact hfound e he (by rwa [hother he])
    · intro e he d' hd'
      exact hcheck e he d' (by rw [hother he, hd'])

theorem tidy_of_collect {entries : List Entry} {members : List (Key × Datum)}
    {found all : List (String × Datum)} (h : collect entries members found = .ok all) :
    Tidy entries members ∧
      ∀ e ∈ entries, (found.lookup e.name).isSome → valueOf members e.name = none := by
  induction members generalizing found with
  | nil => exact ⟨.nil, fun _ _ _ => rfl⟩
  | cons p members ih =>
    obtain ⟨key, d⟩ := p
    cases key with
    | spoiled f => cases h
    | foreign f => cases h
    | text k =>
      rw [collect] at h
      split at h
      · next hunknown =>
        have hne : ∀ e ∈ entries, e.name ≠ k := by simpa using hunknown
        split at h
        · cases h
        · next hsound =>
          obtain ⟨htidy, hnone⟩ := ih h
          refine ⟨.passed hne hsound htidy, ?_⟩
          intro e he hsome
          rw [valueOf_cons, if_neg (Ne.symm (hne e he))]
          exact hnone e he hsome
      · next e he =>
        obtain rfl : e.name = k := by simpa using List.find?_some he
        split at h
        · cases h
        · next hfresh =>
          obtain ⟨⟨⟩, -, hrest⟩ := bind_eq_ok_iff.mp h
          obtain ⟨htidy, hnone⟩ := ih hrest
          refine ⟨.field (List.mem_of_find?_eq_some he) ?_ htidy, ?_⟩
          · exact hnone e (List.mem_of_find?_eq_some he) (by rw [List.lookup_cons_self]; rfl)
          · intro e' he' hsome
            have hname : e.name ≠ e'.name := by
              intro hname
              exact hfresh (hname ▸ hsome)
            rw [valueOf_cons, if_neg hname]
            refine hnone e' he' ?_
            rwa [List.lookup_cons, beq_eq_false_iff_ne.mpr hname.symm]

/-! ### What fields are built from -/

section Build

variable {α β : Type} {get : String → Option Datum} {name : String} {r : Reader α}

theorem build_required_eq_ok_iff {v : α} :
    (required name r).build get = .ok v ↔ ∃ d, get name = some d ∧ r d = .ok v := by
  unfold required
  cases hget : get name <;> simp [hget]

theorem build_withDefault_eq_ok_iff {default v : α} :
    (withDefault name r default).build get = .ok v ↔
      get name = none ∧ v = default ∨ ∃ d, get name = some d ∧ r d = .ok v := by
  unfold withDefault
  cases hget : get name <;> simp [hget, eq_comm]

theorem build_seq_eq_ok_iff {f : Fields (α → β)} {x : Fields α} {v : β} :
    (f <*> x).build get = .ok v ↔ ∃ g a, f.build get = .ok g ∧ x.build get = .ok a ∧ g a = v := by
  change (f.build get >>= fun g => x.build get >>= fun a => Except.ok (g a)) = .ok v ↔ _
  simp only [bind_eq_ok_iff, Except.ok.injEq]
  constructor
  · rintro ⟨g, hg, a, ha, hv⟩
    exact ⟨g, a, hg, ha, hv⟩
  · rintro ⟨g, a, hg, ha, hv⟩
    exact ⟨g, hg, a, ha, hv⟩

theorem build_map_eq_ok_iff {f : α → β} {x : Fields α} {v : β} :
    (f <$> x).build get = .ok v ↔ ∃ a, x.build get = .ok a ∧ f a = v := by
  change (x.build get).map f = .ok v ↔ _
  cases x.build get <;> simp [Except.map]

end Build

/-- A record that can be read has ended with its members in order, and the value is built from the data
under its keys. -/
theorem build_of_reader {α : Type} {typeName : String} {surplus : Surplus} {fields : Fields α}
    {members : List (Key × Datum)} {ending : Ending} {v : α}
    (h : fields.reader typeName surplus (.record members ending) = .ok v) :
    ending = .closed ∧ Tidy fields.entries members ∧ ∃ get, fields.build get = .ok v ∧
      ∀ e ∈ fields.entries, get e.name = valueOf members e.name := by
  obtain ⟨found, hcollect, hbuild⟩ := bind_eq_ok_iff.mp h
  cases ending with
  | cut afterComma f => cases hbuild
  | closed =>
    refine ⟨rfl, (tidy_of_collect hcollect).1, (found.lookup ·), hbuild, ?_⟩
    intro e he
    exact lookup_collect hcollect he

/-- A record with its members in order can be read, when a value is built from the data under its
keys. -/
theorem reader_of_build {α : Type} {typeName : String} {surplus : Surplus} {fields : Fields α}
    (hnames : (fields.entries.map (·.name)).Nodup) {members : List (Key × Datum)} {v : α}
    (h : Tidy fields.entries members)
    (hcheck : ∀ e ∈ fields.entries, ∀ d, valueOf members e.name = some d → e.check d = .ok ())
    (hbuild : ∀ get : String → Option Datum,
      (∀ e ∈ fields.entries, get e.name = valueOf members e.name) → fields.build get = .ok v) :
    fields.reader typeName surplus (.record members .closed) = .ok v := by
  obtain ⟨found, hcollect⟩ := exists_collect hnames h (fun _ _ _ => List.lookup_nil) hcheck
  refine bind_eq_ok_iff.mpr ⟨found, hcollect, hbuild _ ?_⟩
  intro e he
  exact lookup_collect hcollect he

end Fields

end ClusterTopology.Data
