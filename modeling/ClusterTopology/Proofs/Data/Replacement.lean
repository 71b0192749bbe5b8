import Mathlib.Tactic.Common
import Mathlib.Logic.Relator
import ClusterTopology.Proofs.Data.Readability
/-!
Data that differ in one place of a record.

Two records, or two lists that stand for records, differ only in what belongs to one field, and that is
related somehow.  What is built from them is built from data that differ only there, so what holds of the
fields holds of the readers.

`InMember`, `InField` and `InList` say where two data differ, and `Agree` that two readings come to values
in a relation or both fail.  There is one lemma for each way in which readers are made: for optional values
and lists, for fields with a default and without, for fields put together and whole records.  The relation
on values is a parameter, so that equality serves where nothing is left of the difference.
`restrict_of_reader` goes the other way: when the first of the two can be read, that restricts what the
difference in its field can be.
-/

namespace ClusterTopology.Data

/-! ### Places -/

/-- Members of records that may differ in what stands under one key. -/
inductive InMember (name : String) (R : Datum → Datum → Prop) : Key × Datum → Key × Datum → Prop where
  | same (m : Key × Datum) : InMember name R m m
  | field {d d' : Datum} (h : R d d') : InMember name R (.text name, d) (.text name, d')

/-- Data that may differ in what belongs to one field: under its name in a record, or at its place among
the names of all fields in a list. -/
inductive InField (names : List String) (name : String) (R : Datum → Datum → Prop) :
    Datum → Datum → Prop where
  | same (d : Datum) : InField names name R d d
  | record {members others : List (Key × Datum)} {ending : Ending}
      (h : List.Forall₂ (InMember name R) members others) :
      InField names name R (.record members ending) (.record others ending)
  | list {before after : List Datum} {d d' : Datum} {ending : Ending}
      (hplace : names[before.length]? = some name) (h : R d d') :
      InField names name R (.list (before ++ d :: after) ending) (.list (before ++ d' :: after) ending)

/-- Data that may be `null` and the empty list, or lists whose items may differ. -/
inductive InList (R : Datum → Datum → Prop) : Datum → Datum → Prop where
  | same (d : Datum) : InList R d d
  | null : InList R .null (.list [] .closed)
  | items {items others : List Datum} {ending : Ending} (h : List.Forall₂ R items others) :
      InList R (.list items ending) (.list others ending)

open scoped Relator

variable {name : String} {names : List String} {R S : Datum → Datum → Prop} {d d' : Datum}

theorem InMember.flip {m m' : Key × Datum} (h : InMember name R m m') : InMember name (flip R) m' m := by
  cases h with
  | same m => exact .same m
  | field h => exact .field h

theorem InMember.imp {m m' : Key × Datum} (hS : ∀ d d', R d d' → S d d') (h : InMember name R m m') :
    InMember name S m m' := by
  cases h with
  | same m => exact .same m
  | field h => exact .field (hS _ _ h)

theorem InField.imp (hS : ∀ d d', R d d' → S d d') (h : InField names name R d d') :
    InField names name S d d' := by
  cases h with
  | same d => exact .same d
  | record h => exact .record (h.imp fun _ _ => InMember.imp hS)
  | list hplace h => exact .list hplace (hS _ _ h)

theorem InList.imp (hS : ∀ d d', R d d' → S d d') (h : InList R d d') : InList S d d' := by
  cases h with
  | same d => exact .same d
  | null => exact .null
  | items h => exact .items (h.imp hS)

theorem InField.flip (h : InField names name R d d') : InField names name (flip R) d' d := by
  cases h with
  | same d => exact .same d
  | record h => exact .record (h.flip.imp fun _ _ => InMember.flip)
  | list hplace h => exact .list hplace h

/-! ### What fields are given -/

/-- Fields are given the same but for one, which may be given something related. -/
structure GivenAlike (name : String) (R : Datum → Datum → Prop) (get get' : String → Option Datum) :
    Prop where
  other : ∀ n, n ≠ name → get' n = get n
  here : get' name = get name ∨ ∃ d d', get name = some d ∧ get' name = some d' ∧ R d d'

theorem GivenAlike.eq_none {get get' : String → Option Datum} (h : GivenAlike name R get get') {n : String}
    (hnone : get n = none) : get' n = none := by
  by_cases hn : n = name
  · subst hn
    rcases h.here with hsame | ⟨d, _, hd, -⟩
    · rw [hsame, hnone]
    · cases hnone.symm.trans hd
  · rw [h.other n hn, hnone]

theorem GivenAlike.flip {get get' : String → Option Datum} (h : GivenAlike name (flip R) get get') :
    GivenAlike name R get' get where
  other n hn := (h.other n hn).symm
  here := by
    rcases h.here with hsame | ⟨d, d', hd, hd', hR⟩
    · exact .inl hsame.symm
    · exact .inr ⟨d', d, hd', hd, hR⟩

theorem givenAlike_valueOf {members others : List (Key × Datum)}
    (h : List.Forall₂ (InMember name R) members others) :
    GivenAlike name R (valueOf members) (valueOf others) := by
  induction h with
  | nil => exact ⟨fun _ _ => rfl, .inl rfl⟩
  | @cons m m' members others hm _ ih =>
    cases hm with
    | same m =>
      obtain ⟨key, d⟩ := m
      cases key with
      | text k =>
        refine ⟨?_, ?_⟩
        · intro n hn
          rw [valueOf_cons, valueOf_cons, ih.other n hn]
        · rw [valueOf_cons, valueOf_cons]
          split
          · exact .inl rfl
          · exact ih.here
      | spoiled f => exact ⟨ih.other, ih.here⟩
      | foreign f => exact ⟨ih.other, ih.here⟩
    | @field d d' h =>
      refine ⟨?_, .inr ⟨d, d', ?_, ?_, h⟩⟩
      · intro n hn
        rw [valueOf_cons, valueOf_cons, if_neg hn.symm, if_neg hn.symm, ih.other n hn]
      · rw [valueOf_cons, if_pos rfl]
      · rw [valueOf_cons, if_pos rfl]

/-! ### What readers say -/

/-- Two readings come to values that are related, or neither comes to a value. -/
def Agree {α : Type} (W : α → α → Prop) (x x' : Except ReadError α) : Prop :=
  (∀ v, x = .ok v → ∃ v', x' = .ok v' ∧ W v v') ∧ ∀ v', x' = .ok v' → ∃ v, x = .ok v ∧ W v v'

section Agree

variable {α β : Type} {V : α → α → Prop} {W : β → β → Prop}

theorem Agree.refl (hrefl : ∀ v, V v v) (x : Except ReadError α) : Agree V x x :=
  ⟨fun v hv => ⟨v, hv, hrefl v⟩, fun v hv => ⟨v, hv, hrefl v⟩⟩

theorem Agree.ok {v v' : α} (h : V v v') : Agree V (.ok v) (.ok v') := by
  constructor
  · rintro _ ⟨⟩
    exact ⟨v', rfl, h⟩
  · rintro _ ⟨⟩
    exact ⟨v, rfl, h⟩

theorem Agree.bind {x x' : Except ReadError α} {f f' : α → Except ReadError β} (hx : Agree V x x')
    (hf : ∀ v v', V v v' → Agree W (f v) (f' v')) : Agree W (x >>= f) (x' >>= f') := by
  constructor
  · intro w hw
    obtain ⟨v, hv, hw⟩ := bind_eq_ok_iff.mp hw
    obtain ⟨v', hv', hV⟩ := hx.1 v hv
    obtain ⟨w', hw', hW⟩ := (hf v v' hV).1 w hw
    exact ⟨w', bind_eq_ok_iff.mpr ⟨v', hv', hw'⟩, hW⟩
  · intro w' hw'
    obtain ⟨v', hv', hw'⟩ := bind_eq_ok_iff.mp hw'
    obtain ⟨v, hv, hV⟩ := hx.2 v' hv'
    obtain ⟨w, hw, hW⟩ := (hf v v' hV).2 w' hw'
    exact ⟨w, bind_eq_ok_iff.mpr ⟨v, hv, hw⟩, hW⟩

theorem Agree.map {x x' : Except ReadError α} {f f' : α → β} (hx : Agree V x x')
    (hf : (V ⇒ W) f f') : Agree W (x.map f) (x'.map f') := by
  have hbind (x : Except ReadError α) (f : α → β) : x.map f = x >>= fun a => .ok (f a) := by
    cases x <;> rfl
  rw [hbind, hbind]
  exact hx.bind fun v v' hV => .ok (hf hV)

theorem Agree.imp {V' : α → α → Prop} {x x' : Except ReadError α} (h : Agree V x x')
    (hV : ∀ v v', V v v' → V' v v') : Agree V' x x' := by
  constructor
  · intro v hv
    obtain ⟨v', hv', h⟩ := h.1 v hv
    exact ⟨v', hv', hV v v' h⟩
  · intro v' hv'
    obtain ⟨v, hv, h⟩ := h.2 v' hv'
    exact ⟨v, hv, hV v v' h⟩

theorem agree_mapM {r : Reader α} (hr : ∀ d d', R d d' → Agree V (r d) (r d')) {items others : List Datum}
    (h : List.Forall₂ R items others) : Agree (List.Forall₂ V) (items.mapM r) (others.mapM r) := by
  induction h with
  | nil => exact .ok .nil
  | cons h _ ih =>
    rw [List.mapM_cons, List.mapM_cons]
    refine (hr _ _ h).bind fun v v' hV => ?_
    exact ih.bind fun vs vs' hVs => .ok (.cons hV hVs)

theorem agree_list {r : Reader α} (hr : ∀ d d', R d d' → Agree V (r d) (r d')) {items others : List Datum}
    (h : List.Forall₂ R items others) (ending : Ending) :
    Agree (List.Forall₂ V) (Reader.list r (.list items ending)) (Reader.list r (.list others ending)) := by
  refine (agree_mapM hr h).bind fun vs vs' hVs => ?_
  cases ending with
  | closed => exact .ok hVs
  | cut afterComma f => exact ⟨nofun, nofun⟩

/-- Where `null` is read as no list and no list counts as the empty one, readers agree. -/
theorem agree_option_list {r : Reader α} (hrefl : ∀ v, V v v)
    (hr : ∀ d d', R d d' → Agree V (r d) (r d')) (h : InList R d d') :
    Agree (fun vs vs' : Option (List α) => List.Forall₂ V (vs.getD []) (vs'.getD []))
      ((Reader.list r).option d) ((Reader.list r).option d') := by
  cases h with
  | same d =>
    refine .refl ?_ _
    intro vs
    exact List.forall₂_same.mpr fun v _ => hrefl v
  | null => exact .ok .nil
  | items h => exact (agree_list hr h _).map fun _ _ hVs => hVs

theorem agree_eq_of_eq (r : Reader α) (d d' : Datum) (h : d = d') : Agree Eq (r d) (r d') := by
  rw [h]
  exact .refl (fun _ => rfl) _

namespace Fields

variable {get get' : String → Option Datum} {r : Reader α}

theorem agree_withDefault (h : GivenAlike name R get get') (hrefl : ∀ v, V v v)
    (hr : ∀ d d', R d d' → Agree V (r d) (r d')) (default : α) :
    Agree V ((withDefault name r default).build get) ((withDefault name r default).build get') := by
  unfold withDefault
  rcases h.here with hsame | ⟨d, d', hd, hd', hR⟩
  · simp only [hsame]
    exact .refl hrefl _
  · simp only [hd, hd']
    exact hr d d' hR

theorem agree_required (h : GivenAlike name R get get') (hrefl : ∀ v, V v v)
    (hr : ∀ d d', R d d' → Agree V (r d) (r d')) :
    Agree V ((required name r).build get) ((required name r).build get') := by
  unfold required
  rcases h.here with hsame | ⟨d, d', hd, hd', hR⟩
  · simp only [hsame]
    exact .refl hrefl _
  · simp only [hd, hd']
    exact hr d d' hR

theorem agree_withDefault_other (h : GivenAlike name R get get') {n : String} (hn : n ≠ name) (default : α) :
    Agree Eq ((withDefault n r default).build get) ((withDefault n r default).build get') := by
  unfold withDefault
  simp only [h.other n hn]
  exact .refl (fun _ => rfl) _

theorem agree_map {x : Fields α} {f : α → β} (hf : (V ⇒ W) f f) (hx : Agree V (x.build get) (x.build get')) :
    Agree W ((f <$> x).build get) ((f <$> x).build get') :=
  hx.map hf

theorem agree_seq {f : Fields (α → β)} {x : Fields α} (hf : Agree (V ⇒ W) (f.build get) (f.build get'))
    (hx : Agree V (x.build get) (x.build get')) : Agree W ((f <*> x).build get) ((f <*> x).build get') :=
  hf.bind fun _ _ hg => hx.bind fun _ _ ha => .ok (hg ha)

end Fields

end Agree

namespace Fields

theorem tidy_of_forall₂ {entries : List Entry} {members others : List (Key × Datum)}
    (hname : name ∈ entries.map (·.name)) (h : List.Forall₂ (InMember name R) members others)
    (htidy : Tidy entries members) : Tidy entries others := by
  induction htidy generalizing others with
  | nil =>
    cases h
    exact .nil
  | field he hlast _ ih =>
    cases h with
    | cons hm hrest =>
      have hnone := (givenAlike_valueOf hrest).eq_none hlast
      cases hm with
      | same _ => exact .field he hnone (ih hrest)
      | field _ => exact .field he hnone (ih hrest)
  | passed hunknown hsound _ ih =>
    cases h with
    | cons hm hrest =>
      cases hm with
      | same _ => exact .passed hunknown hsound (ih hrest)
      | field _ =>
        obtain ⟨e, he, heq⟩ := List.mem_map.mp hname
        exact absurd heq (hunknown e he)

theorem lookup_zip_place (hnames : names.Nodup) {before : List Datum}
    (hplace : names[before.length]? = some name) (d : Datum) (after : List Datum) (n : String) :
    (names.zip (before ++ d :: after)).lookup n = if name = n then some d else
      (((names.take before.length).zip before).lookup n).or
        (((names.drop (before.length + 1)).zip after).lookup n) := by
  obtain ⟨hlt, hget⟩ := List.getElem?_eq_some_iff.mp hplace
  have hsplit : names = names.take before.length ++ name :: names.drop (before.length + 1) := by
    rw [← hget, ← List.drop_eq_getElem_cons hlt, List.take_append_drop]
  have hlength : (names.take before.length).length = before.length := by
    rw [List.length_take]
    omega
  have hzip : names.zip (before ++ d :: after) = (names.take before.length).zip before ++
      (name, d) :: (names.drop (before.length + 1)).zip after := by
    conv_lhs => rw [hsplit]
    rw [List.zip_append hlength, List.zip_cons_cons]
  rw [hzip, List.lookup_append]
  split
  · next heq =>
    subst heq
    rw [hsplit] at hnames
    have hfresh : name ∉ names.take before.length := by
      intro hmem
      exact List.disjoint_of_nodup_append hnames hmem List.mem_cons_self
    rw [lookup_eq_none fun hmem => hfresh ((map_fst_zip_sublist _ _).subset hmem), Option.none_or,
      List.lookup_cons_self]
  · next hne => rw [List.lookup_cons, beq_eq_false_iff_ne.mpr (Ne.symm hne)]

theorem givenAlike_lookup (hnames : names.Nodup) {before after : List Datum}
    (hplace : names[before.length]? = some name) (h : R d d') :
    GivenAlike name R ((names.zip (before ++ d :: after)).lookup ·)
      ((names.zip (before ++ d' :: after)).lookup ·) where
  other n hn := by
    rw [lookup_zip_place hnames hplace, lookup_zip_place hnames hplace, if_neg hn.symm, if_neg hn.symm]
  here := by
    refine .inr ⟨d, d', ?_, ?_, h⟩
    · rw [lookup_zip_place hnames hplace, if_pos rfl]
    · rw [lookup_zip_place hnames hplace, if_pos rfl]

section Readers

variable {α : Type} {fields : Fields α} {typeName : String} {W : α → α → Prop}

theorem exists_reader_eq_ok (hsound : Sound fields) (hnames : (fields.entries.map (·.name)).Nodup)
    (hname : name ∈ fields.entries.map (·.name)) (hrefl : ∀ v, W v v)
    (hbuild : ∀ get get' v, GivenAlike name R get get' → fields.build get = .ok v →
      ∃ v', fields.build get' = .ok v' ∧ W v v')
    (h : InField (fields.entries.map (·.name)) name R d d') {v : α}
    (hread : fields.reader typeName .refused d = .ok v) :
    ∃ v', fields.reader typeName .refused d' = .ok v' ∧ W v v' := by
  cases h with
  | same d => exact ⟨v, hread, hrefl v⟩
  | record h =>
    obtain ⟨hclosed, htidy, hv⟩ := (reader_record_eq_ok_iff hsound hnames).mp hread
    obtain ⟨v', hv', hW⟩ := hbuild _ _ v (givenAlike_valueOf h) hv
    refine ⟨v', (reader_record_eq_ok_iff hsound hnames).mpr ⟨hclosed, ?_, hv'⟩, hW⟩
    exact tidy_of_forall₂ hname h htidy
  | list hplace h =>
    obtain ⟨hclosed, hlength, hlack, hv⟩ := (reader_list_eq_ok_iff hsound hnames).mp hread
    obtain ⟨v', hv', hW⟩ := hbuild _ _ v (givenAlike_lookup hnames hplace h) hv
    refine ⟨v', (reader_list_eq_ok_iff hsound hnames).mpr ⟨hclosed, ?_, ?_, hv'⟩, hW⟩
    · simpa using hlength
    · simpa using hlack

/-- **Readers agree on data that differ in one field**, when what is built agrees. -/
theorem agree_reader (hsound : Sound fields) (hnames : (fields.entries.map (·.name)).Nodup)
    (hname : name ∈ fields.entries.map (·.name)) (hrefl : ∀ v, W v v)
    (hbuild : ∀ get get', GivenAlike name R get get' → Agree W (fields.build get) (fields.build get'))
    (h : InField (fields.entries.map (·.name)) name R d d') :
    Agree W (fields.reader typeName .refused d) (fields.reader typeName .refused d') := by
  constructor
  · intro v hread
    exact exists_reader_eq_ok hsound hnames hname hrefl
      (fun get get' v hgiven => (hbuild get get' hgiven).1 v) h hread
  · intro v' hread
    exact exists_reader_eq_ok (W := flip W) hsound hnames hname hrefl
      (fun get get' v hgiven => (hbuild get' get hgiven.flip).2 v) h.flip hread

theorem valueOf_of_mem {entries : List Entry} {members : List (Key × Datum)}
    (htidy : Tidy entries members) {e : Entry} (he : e ∈ entries) (hmem : (.text e.name, d) ∈ members) :
    valueOf members e.name = some d := by
  induction htidy with
  | nil => cases hmem
  | @field e' d' members he' hlast _ ih =>
    rw [valueOf_cons]
    rcases List.mem_cons.mp hmem with heq | hmem
    · obtain ⟨hkey, rfl⟩ := Prod.mk.inj heq
      exact if_pos (Key.text.inj hkey).symm
    · -- under one name nothing stands twice
      have hne : e'.name ≠ e.name := by
        intro hname
        rw [hname] at hlast
        cases hlast.symm.trans (ih hmem)
      rw [if_neg hne, ih hmem]
  | @passed k d' members hunknown _ _ ih =>
    rw [valueOf_cons, if_neg (hunknown e he).symm]
    rcases List.mem_cons.mp hmem with heq | hmem
    · exact absurd (Key.text.inj (Prod.mk.inj heq).1) (hunknown e he)
    · exact ih hmem

theorem forall₂_restrict {members others : List (Key × Datum)}
    (h : List.Forall₂ (InMember name R) members others)
    (hS : ∀ d d', (.text name, d) ∈ members → R d d' → S d d') :
    List.Forall₂ (InMember name S) members others := by
  induction h with
  | nil => exact .nil
  | cons hm _ ih =>
    have hrest := ih fun d d' hmem => hS d d' (List.mem_cons_of_mem _ hmem)
    cases hm with
    | same _ => exact .cons (.same _) hrest
    | field h => exact .cons (.field (hS _ _ List.mem_cons_self h)) hrest

/-- What can be read differs only in ways that can be read. -/
theorem restrict_of_reader (hsound : Sound fields) (hnames : (fields.entries.map (·.name)).Nodup)
    {e : Entry} (he : e ∈ fields.entries) {v : α} (hread : fields.reader typeName .refused d = .ok v)
    (hS : ∀ d d', R d d' → e.check d = .ok () → S d d')
    (h : InField (fields.entries.map (·.name)) e.name R d d') :
    InField (fields.entries.map (·.name)) e.name S d d' := by
  cases h with
  | same d => exact .same d
  | record h =>
    obtain ⟨-, htidy, hv⟩ := (reader_record_eq_ok_iff hsound hnames).mp hread
    apply InField.record
    apply forall₂_restrict h
    intro d d' hmem hR
    exact hS d d' hR (hsound.check _ v hv e he d (valueOf_of_mem htidy he hmem))
  | @list before after d d' ending hplace h =>
    obtain ⟨-, -, -, hv⟩ := (reader_list_eq_ok_iff hsound hnames).mp hread
    apply InField.list hplace
    apply hS d d' h
    apply hsound.check _ v hv e he d
    rw [lookup_zip_place hnames hplace, if_pos rfl]

end Readers

end Fields

theorem InMember.eq {m m' : Key × Datum} (h : InMember name Eq m m') : m = m' := by
  cases h with
  | same m => rfl
  | field h => rw [h]

theorem InField.eq (h : InField names name Eq d d') : d = d' := by
  cases h with
  | same d => rfl
  | record h =>
    have heq := h.imp fun _ _ => InMember.eq
    rw [List.forall₂_eq_eq_eq] at heq
    rw [heq]
  | list _ h => rw [h]

theorem InList.eq_of_ne_null (h : InList Eq d d') (hd : d ≠ .null) : d = d' := by
  cases h with
  | same d => rfl
  | null => exact absurd rfl hd
  | items h =>
    rw [List.forall₂_eq_eq_eq] at h
    rw [h]

end ClusterTopology.Data
