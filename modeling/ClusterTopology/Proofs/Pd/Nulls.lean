import Mathlib.Tactic.Common
import ClusterTopology.Pd.Record
import ClusterTopology.Pd.Instance
import ClusterTopology.Conversation
import ClusterTopology.Proofs.Data.Replacement
/-!
What `null` means where the placement driver's answers have lists.

There are five such places: the members and the stores of an answer, the labels of a store, the client URLs of
a member, and the answer about health as a whole.  In the first three `null` is as good as the empty list.  In
the other two it is no list, and the answer it stands in cannot be read.

`Emptied` says of an answer to each of the three requests that another one differs from it by `null` in
place of an empty list, in any number of such places, and `Spared` that it differs in the harmless ones
only.  Where the difference is harmless the readings agree, by the lemmas of `Proofs.Data.Replacement`;
stores may then differ in their labels, but not in what is made of them.  Elsewhere it makes an answer
unreadable, so that an answer which can be read differs in harmless places only.
-/

namespace ClusterTopology.Pd

open ClusterTopology.Data
open ClusterTopology.Data.Fields (required withDefault Sound)
open scoped Relator

/-! ### Fields -/

def Member.fields : Fields Member :=
  Member.mk <$> withDefault "name" Reader.text "" <*> withDefault "member_id" Reader.uint64 0
    <*> withDefault "client_urls" (Reader.list Reader.text) []
    <*> withDefault "binary_version" Reader.text "" <*> withDefault "git_hash" Reader.text ""
    <*> withDefault "deploy_path" Reader.text ""

def Store.fields : Fields Store :=
  Store.mk <$> withDefault "id" Reader.uint64 0 <*> withDefault "address" Reader.text ""
    <*> withDefault "state_name" Reader.text "" <*> withDefault "version" Reader.text ""
    <*> withDefault "status_address" Reader.text ""
    <*> withDefault "labels" (Reader.list StoreLabel.reader).option none
    <*> withDefault "start_timestamp" Reader.int64 0

def entryFields : Fields Store := id <$> required "store" Store.reader

def listFields {α : Type} (name : String) (r : Reader α) : Fields (List α) :=
  (·.getD []) <$> withDefault name (Reader.list r).option none

theorem Member.reader_eq : Member.reader = Member.fields.reader "PdMember" .refused := rfl

theorem Store.reader_eq : Store.reader = Store.fields.reader "StoreMeta" .refused := rfl

theorem entryReader_eq : entryReader = entryFields.reader "StoreEntry" .refused := rfl

theorem membersReader_eq :
    membersReader = (listFields "members" Member.reader).reader "MembersResponse" .refused := rfl

theorem storesReader_eq :
    storesReader = (listFields "stores" entryReader).reader "StoresResponse" .refused := rfl

theorem Member.sound_fields : Sound Member.fields :=
  ((((((Fields.sound_withDefault ..).map _).seq (Fields.sound_withDefault ..)).seq
    (Fields.sound_withDefault ..)).seq (Fields.sound_withDefault ..)).seq
    (Fields.sound_withDefault ..)).seq (Fields.sound_withDefault ..)

theorem Store.sound_fields : Sound Store.fields :=
  (((((((Fields.sound_withDefault ..).map _).seq (Fields.sound_withDefault ..)).seq
    (Fields.sound_withDefault ..)).seq (Fields.sound_withDefault ..)).seq
    (Fields.sound_withDefault ..)).seq (Fields.sound_withDefault ..)).seq (Fields.sound_withDefault ..)

theorem sound_entryFields : Sound entryFields :=
  (Fields.sound_required ..).map _

theorem sound_listFields {α : Type} (name : String) (r : Reader α) : Sound (listFields name r) :=
  (Fields.sound_withDefault ..).map _

theorem nodup_names_listFields {α : Type} (name : String) (r : Reader α) :
    ((listFields name r).entries.map (·.name)).Nodup := List.nodup_singleton name

/-! ### Places for lists -/

/-- Members that may have `null` in place of their client URLs, and members with none in its stead. -/
def Member.Emptied : Datum → Datum → Prop :=
  InField (Member.fields.entries.map (·.name)) "client_urls" (InList Eq)

/-- Stores that may have `null` in place of their labels, and stores with none in its stead. -/
def Store.Emptied : Datum → Datum → Prop :=
  InField (Store.fields.entries.map (·.name)) "labels" (InList Eq)

/-- Answers that may have `null` where a list is expected, and answers with the empty list in its stead. -/
def Emptied : Listing → Datum → Datum → Prop
  | .members => InField ["members"] "members" (InList Member.Emptied)
  | .health => InList Eq
  | .stores => InField ["stores"] "stores" (InList (InField ["store"] "store" Store.Emptied))

/-- The same, with the client URLs of every member and the answer about health left as they are. -/
def Spared : Listing → Datum → Datum → Prop
  | .members => InField ["members"] "members" (InList Eq)
  | .health => Eq
  | .stores => Emptied .stores

theorem emptied_of_spared {l : Listing} {d d' : Datum} (h : Spared l d d') : Emptied l d d' := by
  cases l with
  | members =>
    refine h.imp fun _ _ hlist => hlist.imp ?_
    rintro d _ rfl
    exact .same d
  | health =>
    cases h
    exact .same d
  | stores => exact h

/-! ### Where `null` is the empty list -/

section Alike

variable {α : Type} {R : Datum → Datum → Prop} {V : α → α → Prop} {d d' : Datum}

/-- Readers of a list that is wrapped agree on `null` and the empty list. -/
theorem agree_listReader {name typeName : String} {r : Reader α} (hrefl : ∀ v, V v v)
    (hr : ∀ d d', R d d' → Agree V (r d) (r d')) (h : InField [name] name (InList R) d d') :
    Agree (List.Forall₂ V) ((listFields name r).reader typeName .refused d)
      ((listFields name r).reader typeName .refused d') := by
  have hsame (vs : List α) : List.Forall₂ V vs vs := List.forall₂_same.mpr fun v _ => hrefl v
  refine Fields.agree_reader (sound_listFields name r) (nodup_names_listFields name r)
    (List.mem_singleton_self name) hsame ?_ h
  intro get get' hgiven
  exact Fields.agree_map (fun _ _ hVs => hVs)
    (Fields.agree_withDefault hgiven (fun vs => hsame (vs.getD []))
      (fun _ _ => agree_option_list hrefl hr) none)

theorem agree_membersReader (h : Spared .members d d') : Agree Eq (membersReader d) (membersReader d') := by
  rw [membersReader_eq]
  refine (agree_listReader (fun _ => rfl) (agree_eq_of_eq Member.reader) h).imp ?_
  intro ms ms' hsame
  rwa [List.forall₂_eq_eq_eq] at hsame

/-- The same labels, but that one may be no list and the other the empty one. -/
def SameLabels (ls ls' : Option (List StoreLabel)) : Prop := ls'.getD [] = ls.getD []

/-- The same store, but for having no labels in one way or the other. -/
def Store.Same (s s' : Store) : Prop :=
  SameLabels s.labels s'.labels ∧ s' = { s with labels := s'.labels }

theorem Store.Same.refl (s : Store) : Store.Same s s := ⟨rfl, rfl⟩

theorem Store.agree_reader (h : Store.Emptied d d') :
    Agree Store.Same (Store.reader d) (Store.reader d') := by
  rw [Store.reader_eq]
  refine Fields.agree_reader Store.sound_fields (by decide) (by decide) Store.Same.refl ?_ h
  intro get get' hgiven
  have hlabels : Agree SameLabels
      ((withDefault "labels" (Reader.list StoreLabel.reader).option none).build get)
      ((withDefault "labels" (Reader.list StoreLabel.reader).option none).build get') := by
    refine Fields.agree_withDefault (V := SameLabels) hgiven (fun _ => rfl) ?_ none
    intro d d' hlist
    refine (agree_option_list (fun _ => rfl) (agree_eq_of_eq StoreLabel.reader) hlist).imp ?_
    intro ls ls' hsame
    rw [List.forall₂_eq_eq_eq] at hsame
    exact hsame.symm
  -- the other fields are given the same
  have hother {β : Type} {n : String} (hn : n ≠ "labels") (r : Reader β) (default : β) :=
    Fields.agree_withDefault_other (r := r) hgiven hn default
  have hmk : (Eq ⇒ Eq ⇒ Eq ⇒ Eq ⇒ Eq ⇒ SameLabels ⇒ Eq ⇒ Store.Same) Store.mk Store.mk := by
    rintro id _ rfl address _ rfl state _ rfl version _ rfl status _ rfl labels labels' hsame start _ rfl
    exact ⟨hsame, rfl⟩
  exact Fields.agree_seq (Fields.agree_seq (Fields.agree_seq (Fields.agree_seq (Fields.agree_seq
    (Fields.agree_seq (Fields.agree_map hmk (hother (by decide) _ _)) (hother (by decide) _ _))
    (hother (by decide) _ _)) (hother (by decide) _ _)) (hother (by decide) _ _)) hlabels)
    (hother (by decide) _ _)

theorem agree_entryReader (h : InField ["store"] "store" Store.Emptied d d') :
    Agree Store.Same (entryReader d) (entryReader d') := by
  rw [entryReader_eq]
  refine Fields.agree_reader sound_entryFields (by decide) (by decide) Store.Same.refl ?_ h
  intro get get' hgiven
  exact Fields.agree_map (fun _ _ hsame => hsame)
    (Fields.agree_required hgiven Store.Same.refl fun _ _ => Store.agree_reader)

theorem agree_storesReader (h : Emptied .stores d d') :
    Agree (List.Forall₂ Store.Same) (storesReader d) (storesReader d') := by
  rw [storesReader_eq]
  exact agree_listReader Store.Same.refl (fun _ _ => agree_entryReader) h

theorem Store.instance?_of_same {s s' : Store} (h : Store.Same s s') : s'.instance? = s.instance? := by
  obtain ⟨hlabels, hs'⟩ := h
  have hkind : s'.isTiflash = s.isTiflash := by
    rw [SameLabels] at hlabels
    rw [isTiflash, isTiflash, hlabels]
  rw [instance?, instance?, hkind, hs']

/-- Stores without labels are row stores, whichever way they have none. -/
theorem storeInstances_of_same {stores others : List Store} (h : List.Forall₂ Store.Same stores others) :
    storeInstances others = storeInstances stores := by
  have hmap : others.map Store.instance? = stores.map Store.instance? := by
    induction h with
    | nil => rfl
    | cons hsame _ ih => rw [List.map_cons, List.map_cons, Store.instance?_of_same hsame, ih]
  rw [storeInstances, storeInstances, hmap]

end Alike

/-! ### Where it is no list -/

section Unreadable

variable {d d' : Datum}

/-- A member that can be read has no `null` in place of its client URLs. -/
theorem Member.eq_of_emptied {m : Member} (hread : Member.reader d = .ok m) (h : Member.Emptied d d') :
    d = d' := by
  have hfield : (⟨"client_urls", true, fun d => (Reader.list Reader.text d).map fun _ => ()⟩ : Entry) ∈
      Member.fields.entries := List.mem_of_getElem? (i := 2) rfl
  rw [Member.reader_eq] at hread
  apply InField.eq
  refine Fields.restrict_of_reader Member.sound_fields (by decide) hfield hread ?_ h
  intro d d' hlist hcheck
  apply hlist.eq_of_ne_null
  rintro rfl
  cases hcheck

theorem eq_of_mapM_reader {items others : List Datum} {members : List Member}
    (hread : items.mapM Member.reader = .ok members) (h : List.Forall₂ Member.Emptied items others) :
    items = others := by
  induction h generalizing members with
  | nil => rfl
  | cons h _ ih =>
    rw [List.mapM_cons] at hread
    obtain ⟨m, hm, hrest⟩ := bind_eq_ok_iff.mp hread
    obtain ⟨ms, hms, -⟩ := bind_eq_ok_iff.mp hrest
    rw [Member.eq_of_emptied hm h, ih hms]

/-- In an answer that can be read, `null` stands only in place of all members. -/
theorem spared_of_membersReader {members : List Member} (h : Emptied .members d d')
    (hread : membersReader d = .ok members) : Spared .members d d' := by
  have hfield : (⟨"members", true, fun d => ((Reader.list Member.reader).option d).map fun _ => ()⟩ : Entry) ∈
      (listFields "members" Member.reader).entries := List.mem_singleton_self _
  rw [membersReader_eq] at hread
  refine Fields.restrict_of_reader (sound_listFields _ _) (nodup_names_listFields _ _) hfield hread ?_ h
  intro d d' hlist hcheck
  cases hlist with
  | same d => exact .same d
  | null => exact .null
  | @items items others ending h =>
    cases hitems : items.mapM Member.reader with
    | error e =>
      have herror : Reader.list Member.reader (.list items ending) = .error e := by
        rw [Reader.list, hitems]
        rfl
      change ((Reader.list Member.reader (.list items ending)).map some).map _ = _ at hcheck
      rw [herror] at hcheck
      cases hcheck
    | ok members =>
      rw [eq_of_mapM_reader hitems h]
      exact .items (List.forall₂_same.mpr fun _ _ => rfl)

theorem spared_of_healthReader {health : List MemberHealth} (h : Emptied .health d d')
    (hread : healthReader d = .ok health) : Spared .health d d' := by
  apply h.eq_of_ne_null
  rintro rfl
  cases hread

def Member.givenUrls (d : Datum) : Option Datum :=
  Fields.given (Member.fields.entries.map (·.name)) d "client_urls"

theorem Member.clientUrls_of_build {get : String → Option Datum} {m : Member}
    (h : Member.fields.build get = .ok m) :
    (withDefault "client_urls" (Reader.list Reader.text) []).build get = .ok m.clientUrls := by
  simp only [Member.fields, Fields.build_seq_eq_ok_iff, Fields.build_map_eq_ok_iff] at h
  obtain ⟨_, _, ⟨_, _, ⟨_, _, ⟨_, _, ⟨_, _, ⟨_, _, rfl⟩, _, rfl⟩, hurls, rfl⟩, _, rfl⟩, _, rfl⟩, _, rfl⟩ := h
  exact hurls

theorem list_text_eq_nil_iff : Reader.list Reader.text d = .ok [] ↔ d = .list [] .closed := by
  constructor
  · intro h
    cases d with
    | list items ending =>
      obtain ⟨texts, htexts, hend⟩ := bind_eq_ok_iff.mp h
      cases ending with
      | cut afterComma f => cases hend
      | closed =>
        cases hend
        cases items with
        | nil => rfl
        | cons d items =>
          rw [List.mapM_cons] at htexts
          obtain ⟨_, -, hrest⟩ := bind_eq_ok_iff.mp htexts
          obtain ⟨_, -, hcons⟩ := bind_eq_ok_iff.mp hrest
          cases hcons
    | null => cases h
    | bool b => cases h
    | integer n => cases h
    | real t => cases h
    | text s => cases h
    | record members ending => cases h
    | spoiled start f => cases h
  · rintro rfl
    rfl

/-- A member has no client URLs when none are given, or an empty list of them, and never for `null`. -/
theorem Member.clientUrls_of_reader {m : Member} (hread : Member.reader d = .ok m) :
    (m.clientUrls = [] ↔ Member.givenUrls d = none ∨ Member.givenUrls d = some (.list [] .closed)) ∧
      Member.givenUrls d ≠ some .null := by
  rw [Member.reader_eq] at hread
  have hbuild := Fields.build_given_of_reader Member.sound_fields (by decide) hread
  rcases Fields.build_withDefault_eq_ok_iff.mp (Member.clientUrls_of_build hbuild) with
    ⟨hnone, hurls⟩ | ⟨d', hsome, hurls⟩
  · rw [Member.givenUrls, hnone]
    exact ⟨iff_of_true hurls (.inl rfl), nofun⟩
  · rw [Member.givenUrls, hsome]
    refine ⟨?_, ?_⟩
    · constructor
      · intro hnil
        rw [hnil, list_text_eq_nil_iff] at hurls
        rw [hurls]
        exact .inr rfl
      · rintro (hnone | hlist)
        · cases hnone
        · cases hlist
          exact Except.ok.inj (hurls.symm.trans (list_text_eq_nil_iff.mpr rfl))
    · rintro ⟨⟩
      cases hurls

end Unreadable

end ClusterTopology.Pd
