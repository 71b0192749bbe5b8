import Mathlib.Tactic.Common
import ClusterTopology.Proofs.Cluster.Answers
import ClusterTopology.Proofs.Json.Writing
import ClusterTopology.Proofs.Pd.Members
import ClusterTopology.Proofs.Pd.Nulls
/-!
Asking a placement driver that says `null` for lists, and one that says `[]`.

Two placement drivers answer alike, but for `null` here and `[]` there.  A call for the stores comes to the
same with both.  A call for the members or for their health comes to the same unless the list can only be had
from the second.

The two are peers that `Replaces` relates, answer by answer, at every time.  `Alike` relates what
conversations with them come to: the same course, and values in a relation; the queries are settled along
their chains of calls.  `Needed` says when a list can only be had from the second placement driver, in which
case the answer of the first one cannot be decoded, and the query ends with that error.
-/

namespace ClusterTopology

open ClusterTopology.Data

/-! ### Conversations that go alike -/

namespace Conversation

variable {α β : Type} {V : α → α → Prop}

/-- Conversations in which the same is said, and that come to values which are related or to the same
error. -/
inductive Alike (V : α → α → Prop) : Conversation α → Conversation α → Prop where
  | ok {v v' : α} (h : V v v') (time : Instant) (calls : List (Call × Instant)) (events : List Event) :
      Alike V ⟨time, .ok v, calls, events⟩ ⟨time, .ok v', calls, events⟩
  | failed (time : Instant) (e : TopologyError) (calls : List (Call × Instant)) (events : List Event) :
      Alike V ⟨time, .error e, calls, events⟩ ⟨time, .error e, calls, events⟩

theorem Alike.of_eq (hrefl : ∀ v, V v v) {c c' : Conversation α} (h : c' = c) : Alike V c c' := by
  subst h
  obtain ⟨time, value, calls, events⟩ := c'
  cases value with
  | ok v => exact .ok (hrefl v) time calls events
  | error e => exact .failed time e calls events

theorem Alike.eq {c c' : Conversation α} (h : Alike Eq c c') : c' = c := by
  cases h with
  | ok h => rw [h]
  | failed => rfl

theorem Alike.mapLogged_eq {c c' : Conversation α} {f : α → Logged β} (h : Alike V c c')
    (hf : ∀ v v', V v v' → f v' = f v) : c'.mapLogged f = c.mapLogged f := by
  cases h with
  | ok h => simp only [mapLogged, hf _ _ h]
  | failed => rfl

end Conversation

namespace Pd

variable {α : Type}

/-! ### Answers with other data -/

/-- What comes is the same, or it is a whole body with a status of success each time, and their data are
related. -/
inductive Replaced (R : Datum → Datum → Prop) : Coming Reply → Coming Reply → Prop where
  | same (comes : Coming Reply) : Replaced R comes comes
  | body {delay : Duration} {status : Nat} {bytes bytes' : List UInt8} (hstatus : isSuccess status = true)
      (hroot : R (Json.Document.ofBytes bytes).root (Json.Document.ofBytes bytes').root)
      (htrailing : (Json.Document.ofBytes bytes').trailing = (Json.Document.ofBytes bytes).trailing) :
      Replaced R (some ⟨delay, .answered status (.whole bytes)⟩)
        (some ⟨delay, .answered status (.whole bytes')⟩)

/-- Whenever a list is asked for, the same comes from both, but for data that are related. -/
def Replaces (R : Listing → Datum → Datum → Prop) (peer other : Peer) : Prop :=
  ∀ l t, Replaced (R l) (peer l t) (other l t)

def undecodable (l : Listing) : TopologyError :=
  .decode "pd" ("GET " ++ l.path ++ ": error decoding response body")

theorem Replaced.imp {R S : Datum → Datum → Prop} {comes comes' : Coming Reply}
    (hS : ∀ d d', R d d' → S d d') (h : Replaced R comes comes') : Replaced S comes comes' := by
  cases h with
  | same comes => exact .same comes
  | body hstatus hroot htrailing => exact .body hstatus (hS _ _ hroot) htrailing

section Bodies

variable {reader : Reader α} {bytes bytes' : List UInt8} {status : Nat} {url : String} {l : Listing}

theorem agree_decode {V : α → α → Prop}
    (hroot : Agree V (reader (Json.Document.ofBytes bytes).root) (reader (Json.Document.ofBytes bytes').root))
    (htrailing : (Json.Document.ofBytes bytes').trailing = (Json.Document.ofBytes bytes).trailing) :
    Agree V (Json.decode reader bytes) (Json.decode reader bytes') := by
  simp only [Agree, Json.decode_eq_ok_iff, htrailing]
  constructor
  · rintro v ⟨hv, hend⟩
    obtain ⟨v', hv', hV⟩ := hroot.1 v hv
    exact ⟨v', ⟨hv', hend⟩, hV⟩
  · rintro v' ⟨hv', hend⟩
    obtain ⟨v, hv, hV⟩ := hroot.2 v' hv'
    exact ⟨v, ⟨hv, hend⟩, hV⟩

theorem read_of_decode_ok (hstatus : isSuccess status = true) {v : α} (h : Json.decode reader bytes = .ok v) :
    (Reply.answered status (.whole bytes)).read url l reader = .ok v := by
  simp only [Reply.read, hstatus, if_true, Body.read, h, Except.toOption]

theorem read_of_decode_error (hstatus : isSuccess status = true) {e : ReadError}
    (h : Json.decode reader bytes = .error e) :
    (Reply.answered status (.whole bytes)).read url l reader = .error (undecodable l) := by
  simp only [Reply.read, hstatus, if_true, Body.read, h, Except.toOption, undecodable]

end Bodies

/-! ### Calls -/

namespace Client

variable {c : Client} {peer other : Peer} {l : Listing} {reader : Reader α} {deadline now : Instant}
  {R S : Datum → Datum → Prop} {V : α → α → Prop}

theorem get_eq_get_of_late {url : String} (htarget : c.target l = .ok url) {delay : Duration}
    {reply reply' : Reply} (hcomes : peer l now = some ⟨delay, reply⟩)
    (hother : other l now = some ⟨delay, reply'⟩) (hlate : Deadline.limit deadline now < now + delay) :
    c.get other l reader deadline now = c.get peer l reader deadline now := by
  have hcut {peer : Peer} {reply : Reply} (hcomes : peer l now = some ⟨delay, reply⟩) :
      ∀ delay' reply', peer l now = some ⟨delay', reply'⟩ →
        Deadline.limit deadline now < now + delay' := by
    intro delay' reply' hcomes'
    cases hcomes.symm.trans hcomes'
    exact hlate
  rw [get_eq_of_late htarget (hcut hcomes), get_eq_of_late htarget (hcut hother)]

theorem get_eq_get_of_target_error {e : TopologyError} (htarget : c.target l = .error e) :
    c.get other l reader deadline now = c.get peer l reader deadline now := by
  simp only [get, htarget]

/-- A call goes alike with both when the reader agrees on what they say. -/
theorem get_alike (hrefl : ∀ v, V v v) (hagree : ∀ d d', R d d' → Agree V (reader d) (reader d'))
    (h : Replaced R (peer l now) (other l now)) :
    Conversation.Alike V (c.get peer l reader deadline now) (c.get other l reader deadline now) := by
  generalize hcomes : peer l now = comes at h
  generalize hother : other l now = comes' at h
  cases h with
  | same comes =>
    apply Conversation.Alike.of_eq hrefl
    rw [get, get, hcomes, hother]
  | @body delay status bytes bytes' hstatus hroot htrailing =>
    cases htarget : c.target l with
    | error e => exact .of_eq hrefl (get_eq_get_of_target_error htarget)
    | ok url =>
      by_cases hin : now + delay ≤ Deadline.limit deadline now
      · have hdecode := agree_decode (hagree _ _ hroot) htrailing
        rw [get_eq_of_in_time htarget hcomes hin, get_eq_of_in_time htarget hother hin]
        cases hvalue : Json.decode reader bytes with
        | ok v =>
          obtain ⟨v', hv', hV⟩ := hdecode.1 v hvalue
          rw [read_of_decode_ok hstatus hvalue, read_of_decode_ok hstatus hv']
          exact .ok hV _ _ _
        | error e =>
          cases hvalue' : Json.decode reader bytes' with
          | ok v' =>
            obtain ⟨v, hv, -⟩ := hdecode.2 v' hvalue'
            cases hvalue.symm.trans hv
          | error e' =>
            rw [read_of_decode_error hstatus hvalue, read_of_decode_error hstatus hvalue']
            exact .failed _ _ _ _
      · exact .of_eq hrefl (get_eq_get_of_late htarget hcomes hother (Nat.lt_of_not_le hin))

/-! ### Lists that only the second one gives -/

section Needed

variable (c : Client) (peer other : Peer) (l : Listing) (reader : Reader α) (deadline now : Instant)

/-- A list that a call has from the second one only, where more differs than what makes no difference. -/
def Needed : Prop :=
  ¬ Replaced (Spared l) (peer l now) (other l now) ∧
    ∃ v time, c.Serves other l reader deadline now v time

/-- What the two say at the time of a call, where more differs than what makes no difference. -/
theorem exists_bodies_of_not_spared {comes comes' : Coming Reply} (h : Replaced R comes comes')
    (hS : ¬ Replaced S comes comes') : ∃ delay status bytes bytes',
      comes = some ⟨delay, .answered status (.whole bytes)⟩ ∧
      comes' = some ⟨delay, .answered status (.whole bytes')⟩ ∧ isSuccess status = true ∧
      R (Json.Document.ofBytes bytes).root (Json.Document.ofBytes bytes').root ∧
      ¬ S (Json.Document.ofBytes bytes).root (Json.Document.ofBytes bytes').root := by
  cases h with
  | same comes => exact absurd (.same comes) hS
  | @body delay status bytes bytes' hstatus hroot htrailing =>
    refine ⟨delay, status, bytes, bytes', rfl, rfl, hstatus, hroot, ?_⟩
    intro hsame
    exact hS (.body hstatus hsame htrailing)

variable {c peer other l reader deadline now}

theorem not_serves_of_not_spared
    (hread : ∀ d d' v, Emptied l d d' → reader d = .ok v → Spared l d d')
    (h : Replaced (Emptied l) (peer l now) (other l now))
    (hspared : ¬ Replaced (Spared l) (peer l now) (other l now)) (v : α) (time : Instant) :
    ¬ c.Serves peer l reader deadline now v time := by
  obtain ⟨delay, status, bytes, bytes', hcomes, -, -, hroot, hnot⟩ := exists_bodies_of_not_spared h hspared
  rintro ⟨url, delay', status', bytes'', -, hsays, -, hdecode, -, -⟩
  cases hcomes.symm.trans hsays
  exact hnot (hread _ _ v hroot (Json.decode_eq_ok_iff.mp hdecode).1)

/-- A call that has a list from the second one only fails with the first one, whose answer cannot be read. -/
theorem get_of_needed (hread : ∀ d d' v, Emptied l d d' → reader d = .ok v → Spared l d d')
    (h : Replaced (Emptied l) (peer l now) (other l now))
    (hneeded : Needed c peer other l reader deadline now) :
    (c.get peer l reader deadline now).value = .error (undecodable l) := by
  obtain ⟨hspared, v, time, hserves⟩ := hneeded
  obtain ⟨delay, status, bytes, bytes', hcomes, hother, hstatus, hroot, hnot⟩ :=
    exists_bodies_of_not_spared h hspared
  obtain ⟨url, delay', _, _, htarget, hsays, -, -, rfl, hin⟩ := hserves
  cases hother.symm.trans hsays
  rw [get_eq_of_in_time htarget hcomes hin]
  cases hdecode : Json.decode reader bytes with
  | ok v => exact absurd (hread _ _ v hroot (Json.decode_eq_ok_iff.mp hdecode).1) hnot
  | error e => rw [read_of_decode_error hstatus hdecode]

theorem get_eq_of_not_needed (hread : ∀ d d' v, Emptied l d d' → reader d = .ok v → Spared l d d')
    (hagree : ∀ d d', Spared l d d' → Agree Eq (reader d) (reader d'))
    (h : Replaced (Emptied l) (peer l now) (other l now))
    (hneeded : ¬ Needed c peer other l reader deadline now) :
    c.get other l reader deadline now = c.get peer l reader deadline now := by
  by_cases hspared : Replaced (Spared l) (peer l now) (other l now)
  · exact (get_alike (fun _ => rfl) hagree hspared).eq
  · obtain ⟨delay, status, bytes, bytes', hcomes, hother, hstatus, hroot, hnot⟩ :=
      exists_bodies_of_not_spared h hspared
    cases htarget : c.target l with
    | error e => exact get_eq_get_of_target_error htarget
    | ok url =>
      by_cases hin : now + delay ≤ Deadline.limit deadline now
      · rw [get_eq_of_in_time htarget hcomes hin, get_eq_of_in_time htarget hother hin]
        -- neither can be read
        cases hdecode : Json.decode reader bytes with
        | ok v => exact absurd (hread _ _ v hroot (Json.decode_eq_ok_iff.mp hdecode).1) hnot
        | error e =>
          cases hdecode' : Json.decode reader bytes' with
          | ok v =>
            refine absurd ⟨hspared, v, now + delay, url, delay, status, bytes', ?_⟩ hneeded
            exact ⟨htarget, hother, hstatus, hdecode', rfl, hin⟩
          | error e' => rw [read_of_decode_error hstatus hdecode, read_of_decode_error hstatus hdecode']
      · exact get_eq_get_of_late htarget hcomes hother (Nat.lt_of_not_le hin)

end Needed

/-! ### Queries -/

theorem members_eq_of_not_needed (h : Replaces Emptied peer other)
    (hneeded : ¬ Needed c peer other .members membersReader deadline now) :
    c.members other deadline now = c.members peer deadline now :=
  get_eq_of_not_needed (fun _ _ _ => spared_of_membersReader)
    (fun _ _ => agree_membersReader) (h .members now) hneeded

theorem health_eq_of_not_needed (h : Replaces Emptied peer other)
    (hneeded : ¬ Needed c peer other .health healthReader deadline now) :
    c.health other deadline now = c.health peer deadline now :=
  get_eq_of_not_needed (fun _ _ _ => spared_of_healthReader)
    (agree_eq_of_eq healthReader) (h .health now) hneeded

theorem members_succeeds_iff {members : List Member} {time : Instant} :
    (c.members peer deadline now).Succeeds members time ↔
      c.Serves peer .members membersReader deadline now members time := get_succeeds_iff

theorem health_succeeds_iff {health : List MemberHealth} {time : Instant} :
    (c.health peer deadline now).Succeeds health time ↔
      c.Serves peer .health healthReader deadline now health time := get_succeeds_iff

/-- The health of the members is asked for at the time when they are there. -/
theorem value_instances_of_serves {members : List Member} {time : Instant}
    (h : c.Serves peer .members membersReader deadline now members time) :
    (c.instances peer deadline now).value =
      (c.health peer deadline time).value.map fun health => (Pd.instances members health).value := by
  obtain ⟨hvalue, rfl⟩ := members_succeeds_iff.mpr h
  rw [Client.instances, Conversation.andThen_of_ok hvalue]
  exact Conversation.value_mapLogged _ _

/-- A call for one list does not say of another that it cannot be read. -/
theorem value_get_ne_undecodable {l' : Listing} (hl : undecodable l ≠ undecodable l') :
    (c.get peer l reader deadline now).value ≠ .error (undecodable l') := by
  intro hvalue
  cases htarget : c.target l with
  | error e =>
    have hnow : now + 0 ≤ Deadline.limit deadline now := Nat.le_max_right deadline now
    simp only [get, htarget, Coming.now] at hvalue
    rw [Conversation.call_of_in_time hnow] at hvalue
    cases hvalue
    unfold target at htarget
    split at htarget
    · cases htarget
    · split at htarget <;> cases htarget
  | ok url =>
    by_cases hcomes : ∃ delay reply, peer l now = some ⟨delay, reply⟩ ∧
        now + delay ≤ Deadline.limit deadline now
    · obtain ⟨delay, reply, hcomes, hin⟩ := hcomes
      rw [get_of_in_time htarget hcomes hin] at hvalue
      cases reply with
      | lost => cases hvalue
      | answered status body =>
        rw [Reply.read] at hvalue
        split at hvalue
        · split at hvalue
          · cases hvalue
          · exact hl (Except.error.inj hvalue)
        · cases hvalue
    · rw [get_of_late htarget] at hvalue
      · cases hvalue
      · intro delay reply hpeer
        exact Nat.lt_of_not_le fun hin => hcomes ⟨delay, reply, hpeer, hin⟩

/-- Both queries are the same when no list is had from the second only. -/
theorem instances_eq_of_not_needed (h : Replaces Emptied peer other)
    (hmembers : ¬ Needed c peer other .members membersReader deadline now)
    (hhealth : ∀ members time, c.Serves peer .members membersReader deadline now members time →
      ¬ Needed c peer other .health healthReader deadline time) :
    c.instances other deadline now = c.instances peer deadline now := by
  rw [instances, instances, members_eq_of_not_needed h hmembers]
  cases hvalue : (c.members peer deadline now).value with
  | error e => rw [Conversation.andThen_of_error hvalue, Conversation.andThen_of_error hvalue]
  | ok members =>
    have hsame := health_eq_of_not_needed h (hhealth members _ (members_succeeds_iff.mp ⟨hvalue, rfl⟩))
    rw [Conversation.andThen_of_ok hvalue, Conversation.andThen_of_ok hvalue, hsame]

theorem value_instances_of_members_needed (h : Replaces Emptied peer other)
    (hneeded : Needed c peer other .members membersReader deadline now) :
    (c.instances peer deadline now).value = .error (undecodable .members) ∧
      (c.instances other deadline now).value ≠ .error (undecodable .members) := by
  have hvalue : (c.members peer deadline now).value = .error (undecodable .members) :=
    get_of_needed (fun _ _ _ => spared_of_membersReader) (h .members now) hneeded
  refine ⟨by rw [instances, Conversation.andThen_of_error hvalue], ?_⟩
  obtain ⟨-, members, time, hserves⟩ := hneeded
  rw [value_instances_of_serves hserves]
  cases hhealth : (c.health other deadline time).value with
  | ok health =>
    intro hfailed
    cases hfailed
  | error e =>
    intro hfailed
    cases hfailed
    exact value_get_ne_undecodable (by decide) hhealth

theorem value_instances_of_health_needed (h : Replaces Emptied peer other) {members : List Member}
    {time : Instant} (hmembers : c.Serves peer .members membersReader deadline now members time)
    (hneeded : Needed c peer other .health healthReader deadline time) :
    (c.instances peer deadline now).value = .error (undecodable .health) ∧
      ∃ is, (c.instances other deadline now).value = .ok is := by
  have hvalue : (c.health peer deadline time).value = .error (undecodable .health) :=
    get_of_needed (fun _ _ _ => spared_of_healthReader) (h .health time) hneeded
  constructor
  · rw [value_instances_of_serves hmembers, hvalue]
    rfl
  · -- the members can be read, so they are the same with both
    have hread : ¬ Needed c peer other .members membersReader deadline now := by
      intro hmembersNeeded
      exact not_serves_of_not_spared (fun _ _ _ => spared_of_membersReader)
        (h .members now) hmembersNeeded.1 members time hmembers
    have hother : c.Serves other .members membersReader deadline now members time := by
      rw [← members_succeeds_iff, members_eq_of_not_needed h hread]
      exact members_succeeds_iff.mpr hmembers
    obtain ⟨-, health, time', hhealth⟩ := hneeded
    obtain ⟨hvalue', -⟩ := health_succeeds_iff.mpr hhealth
    rw [value_instances_of_serves hother, hvalue']
    exact ⟨_, rfl⟩

/-- The stores come to the same whether `null` or the empty list is said. -/
theorem storeInstances_eq (h : Replaces Emptied peer other) :
    c.storeInstances other deadline now = c.storeInstances peer deadline now := by
  have halike : Conversation.Alike (List.Forall₂ Store.Same) (c.stores peer deadline now)
      (c.stores other deadline now) := by
    refine get_alike ?_ (fun _ _ => agree_storesReader) (h .stores now)
    intro stores
    exact List.forall₂_same.mpr fun s _ => Store.Same.refl s
  exact halike.mapLogged_eq fun _ _ => storeInstances_of_same

end Client

/-! ### Members without URLs -/

theorem partition_append_error {before after : List (Except Event α)} {e : Event} :
    partition (before ++ .error e :: after) =
      ⟨(partition (before ++ after)).value, (partition before).events ++ e :: (partition after).events⟩ := by
  induction before with
  | nil => rfl
  | cons x before ih => cases x <;> simp [partition, ih]

/-- A member without client URLs is reported, and the others come to what they come to without it. -/
theorem instances_insert_withoutUrl {m : Member} (hurls : m.clientUrls = []) (before after : List Member)
    (health : List MemberHealth) : instances (before ++ m :: after) health =
      ⟨(instances (before ++ after) health).value,
        (instances before health).events ++ .memberWithoutUrl m.name :: (instances after health).events⟩ := by
  rw [instances, List.map_append, List.map_cons, Member.instance?_of_withoutUrl hurls, partition_append_error,
    ← List.map_append]
  rfl

/-- A list with a member in it that says `null` for its client URLs cannot be read. -/
theorem not_read_of_null_urls {items : List Datum} {ending : Ending} {d : Datum} (hmem : d ∈ items)
    (hnull : Member.givenUrls d = some .null) (members : List Member) :
    Reader.list Member.reader (.list items ending) ≠ .ok members := by
  intro h
  obtain ⟨found, hfound, -⟩ := bind_eq_ok_iff.mp h
  obtain ⟨m, hread⟩ := exists_ok_of_mapM hfound hmem
  exact (Member.clientUrls_of_reader hread).2 hnull

/-- **`null` is the empty list in three places of five.**  Of two placement drivers that answer alike, but
for `null` in place of lists here and the empty list there, a client has the same stores, at the same time
and with the same reports.  It has the same members when they differ only in the list of members, and in
general unless it has the members or their health from the second only: then `null` stands for the client
URLs of a member or for all health, and the query fails with the first because its answer cannot be read.  A
member is without client URLs when none are given, or an empty list of them; it is reported and takes nothing
from the others.  With `null` for its client URLs no member of its list can be read. -/
theorem nulls_are_empty_lists_but_for_urls_and_health (c : Client) {peer other : Peer}
    (h : Replaces Emptied peer other) (deadline now : Instant) :
    c.storeInstances other deadline now = c.storeInstances peer deadline now ∧
    (Replaces Spared peer other → c.instances other deadline now = c.instances peer deadline now) ∧
    (c.instances other deadline now = c.instances peer deadline now ↔
      ¬ c.Needed peer other .members membersReader deadline now ∧
        ∀ members time, c.Serves peer .members membersReader deadline now members time →
          ¬ c.Needed peer other .health healthReader deadline time) ∧
    (c.Needed peer other .members membersReader deadline now →
      (c.instances peer deadline now).value = .error (undecodable .members) ∧
        (c.instances other deadline now).value ≠ .error (undecodable .members)) ∧
    (∀ members time, c.Serves peer .members membersReader deadline now members time →
      c.Needed peer other .health healthReader deadline time →
        (c.instances peer deadline now).value = .error (undecodable .health) ∧
          ∃ is, (c.instances other deadline now).value = .ok is) ∧
    (∀ d m, Member.reader d = .ok m →
      (m.clientUrls = [] ↔ Member.givenUrls d = none ∨ Member.givenUrls d = some (.list [] .closed)) ∧
        (m.clientUrls = [] → ∀ before after health, instances (before ++ m :: after) health =
          ⟨(instances (before ++ after) health).value,
            (instances before health).events ++ .memberWithoutUrl m.name ::
              (instances after health).events⟩)) ∧
    ∀ items ending d members, d ∈ items → Member.givenUrls d = some .null →
      Reader.list Member.reader (.list items ending) ≠ .ok members := by
  have hsame (hmembers : ¬ c.Needed peer other .members membersReader deadline now)
      (hhealth : ∀ members time, c.Serves peer .members membersReader deadline now members time →
        ¬ c.Needed peer other .health healthReader deadline time) :=
    Client.instances_eq_of_not_needed h hmembers hhealth
  refine ⟨Client.storeInstances_eq h, ?_, ⟨?_, ?_⟩, Client.value_instances_of_members_needed h, ?_, ?_, ?_⟩
  · intro hspared
    apply hsame
    · exact fun hneeded => hneeded.1 (hspared .members now)
    · exact fun _ time _ hneeded => hneeded.1 (hspared .health time)
  · intro heq
    constructor
    · intro hneeded
      obtain ⟨hfails, hother⟩ := Client.value_instances_of_members_needed h hneeded
      rw [heq] at hother
      exact hother hfails
    · intro members time hserves hneeded
      obtain ⟨hfails, is, hother⟩ := Client.value_instances_of_health_needed h hserves hneeded
      rw [heq, hfails] at hother
      cases hother
  · rintro ⟨hmembers, hhealth⟩
    exact hsame hmembers hhealth
  · intro members time hserves hneeded
    exact Client.value_instances_of_health_needed h hserves hneeded
  · intro d m hread
    exact ⟨(Member.clientUrls_of_reader hread).1, instances_insert_withoutUrl⟩
  · intro items ending d members hmem hnull
    exact not_read_of_null_urls hmem hnull members

/-! ### Two placement drivers -/

/-- A placement driver that says these values after a nanosecond. -/
def saying (told : Listing → Json.Value) : Peer := fun l _ =>
  some ⟨1, .answered 200 (.whole (told l).text.toUTF8.toList)⟩

theorem replaces_saying {R : Listing → Datum → Datum → Prop} {told told' : Listing → Json.Value}
    (h : ∀ l, R l (told l).datum (told' l).datum) : Replaces R (saying told) (saying told') := by
  intro l t
  have hdoc (v : Json.Value) := Json.ofBytes_text v
  refine .body rfl ?_ ?_
  · rw [hdoc, hdoc]
    exact h l
  · rw [hdoc, hdoc]

def localClient : Client := ⟨"http://[::1]:2379/pd/api/v1"⟩

theorem target_localClient (l : Listing) :
    localClient.target l = .ok ("http://[::1]:2379/pd/api/v1" ++ l.path) := by
  cases l <;> decide +kernel

theorem serves_saying {told : Listing → Json.Value} {l : Listing} {reader : Reader α} {v : α}
    (hread : reader (told l).datum = .ok v) {deadline now : Instant} (hin : now + 1 ≤ deadline) :
    localClient.Serves (saying told) l reader deadline now v (now + 1) := by
  have hdecode : Json.decode reader (told l).text.toUTF8.toList = .ok v :=
    (Json.decodeText_text reader (told l)).trans hread
  refine ⟨_, 1, 200, _, target_localClient l, rfl, rfl, hdecode, rfl, ?_⟩
  exact Nat.le_trans hin (Nat.le_max_left deadline now)

theorem value_instances_saying {told : Listing → Json.Value} {members : List Member}
    {health : List MemberHealth} (hmembers : membersReader (told .members).datum = .ok members)
    (hhealth : healthReader (told .health).datum = .ok health) :
    (localClient.instances (saying told) 9 0).value = .ok (instances members health).value := by
  rw [Client.value_instances_of_serves (serves_saying hmembers (by decide)),
    (Client.health_succeeds_iff.mpr (serves_saying hhealth (by decide))).1]
  rfl

/-- What a young placement driver says: no members, no health, and one store, with this in place of each list
that is empty. -/
def youngAnswer (empty : Json.Value) : Listing → Json.Value
  | .members => .obj [("members", empty)]
  | .health => .arr []
  | .stores => .obj [("stores", .arr [.obj [("store", .obj
      [("address", .str "[::1]:20160"), ("state_name", .str "Up"), ("status_address", .str "[::1]:20180"),
        ("labels", empty)])]])]

theorem youngAnswer_replaces :
    Replaces Spared (saying (youngAnswer .null)) (saying (youngAnswer (.arr []))) := by
  apply replaces_saying
  intro l
  cases l with
  | members => exact .record (.cons (.field .null) .nil)
  | health => rfl
  | stores =>
    have hlabels : InMember "labels" (InList Eq) (.text "labels", .null)
        (.text "labels", .list [] .closed) := .field .null
    refine .record (.cons (.field (.items (.cons (.record (.cons (.field ?_) .nil)) .nil))) .nil)
    exact .record (.cons (.same _) (.cons (.same _) (.cons (.same _) (.cons hlabels .nil))))

theorem youngAnswer_makes_no_difference :
    Replaces Emptied (saying (youngAnswer .null)) (saying (youngAnswer (.arr []))) ∧
      (localClient.storeInstances (saying (youngAnswer .null)) 9 0).value =
        .ok ⟨[⟨0, ⟨"::1", 20160⟩, 20180, "", .up⟩], []⟩ ∧
      localClient.storeInstances (saying (youngAnswer (.arr []))) 9 0 =
        localClient.storeInstances (saying (youngAnswer .null)) 9 0 ∧
      (localClient.instances (saying (youngAnswer .null)) 9 0).value = .ok [] ∧
      localClient.instances (saying (youngAnswer (.arr []))) 9 0 =
        localClient.instances (saying (youngAnswer .null)) 9 0 := by
  have hreplaces : Replaces Emptied (saying (youngAnswer .null)) (saying (youngAnswer (.arr []))) :=
    fun l t => (youngAnswer_replaces l t).imp fun _ _ => emptied_of_spared
  obtain ⟨hstores, hinstances, -⟩ :=
    nulls_are_empty_lists_but_for_urls_and_health localClient hreplaces 9 0
  refine ⟨hreplaces, ?_, hstores, ?_, hinstances youngAnswer_replaces⟩
  · have hread : storesReader (youngAnswer .null .stores).datum =
        .ok [⟨0, "[::1]:20160", "Up", "", "[::1]:20180", none, 0⟩] := rfl
    have hin : (0 : Instant) + 1 ≤ 9 := by decide
    rw [Client.storeInstances, Conversation.value_mapLogged, Client.stores,
      (Client.get_succeeds_iff.mpr (serves_saying hread hin)).1]
    decide +kernel
  · have hmembers : membersReader (youngAnswer .null .members).datum = .ok [] := rfl
    have hhealth : healthReader (youngAnswer .null .health).datum = .ok [] := rfl
    rw [value_instances_saying hmembers hhealth]
    rfl

/-- What is said of two members, with this in place of the client URLs of the first. -/
def pairAnswer (urls : Json.Value) : Listing → Json.Value
  | .members => .obj [("members", .arr [.obj [("name", .str "x"), ("client_urls", urls)],
      .obj [("name", .str "y"), ("client_urls", .arr [.str "http://[::1]:2379"])]])]
  | .health => .arr [.obj [("health", .bool true)]]
  | .stores => .obj []

/-- A second member is lost with a first one whose client URLs are `null`. -/
theorem pairAnswer_is_lost :
    Replaces Emptied (saying (pairAnswer .null)) (saying (pairAnswer (.arr []))) ∧
      (localClient.instances (saying (pairAnswer .null)) 9 0).value = .error (undecodable .members) ∧
      (localClient.instances (saying (pairAnswer (.arr []))) 9 0).value =
        .ok [⟨"y", ⟨"::1", 2379⟩, "", .up⟩] := by
  refine ⟨replaces_saying ?_, ?_, ?_⟩
  · intro l
    cases l with
    | members =>
      have hmember : Member.Emptied
          (.record [(.text "name", .text "x"), (.text "client_urls", .null)] .closed)
          (.record [(.text "name", .text "x"), (.text "client_urls", .list [] .closed)] .closed) :=
        .record (.cons (.same _) (.cons (.field .null) .nil))
      exact .record (.cons (.field (.items (.cons hmember (.cons (.same _) .nil)))) .nil)
    | health => exact .same _
    | stores => exact .same _
  · have hread : Json.decode membersReader (pairAnswer .null .members).text.toUTF8.toList =
        .error (.mismatch (.type .null "a sequence")) := Json.decodeText_text _ _
    have hin : 0 + 1 ≤ Deadline.limit 9 0 := by decide
    have hvalue : (localClient.members (saying (pairAnswer .null)) 9 0).value =
        .error (undecodable .members) := by
      have hstatus : isSuccess 200 = true := rfl
      rw [Client.members, Client.get_eq_of_in_time (target_localClient .members) rfl hin,
        read_of_decode_error hstatus hread]
    rw [Client.instances, Conversation.andThen_of_error hvalue]
  · have hmembers : membersReader (pairAnswer (.arr []) .members).datum =
        .ok [⟨"x", 0, [], "", "", ""⟩, ⟨"y", 0, ["http://[::1]:2379"], "", "", ""⟩] := rfl
    have hhealth : healthReader (pairAnswer (.arr []) .health).datum = .ok [⟨"", 0, true⟩] := rfl
    rw [value_instances_saying hmembers hhealth]
    decide +kernel

end Pd

end ClusterTopology
