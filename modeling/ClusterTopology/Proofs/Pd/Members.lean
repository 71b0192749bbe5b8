import Mathlib.Tactic.Common
import ClusterTopology.Pd.Client
/-!
How the members are joined with what is known of their health.

The two lists play different parts.  The list of members gives the order, and each member is looked at on its
own, by its first URL only.  The list of health entries is asked one thing: whether it vouches for a member.
So nothing about that list matters but who is vouched for in it.

`Vouched` is that one thing, and `Reported` the status that comes of it.  `IsUsable` says of a member that
its first URL has a host and a port.  `Joins` then describes the whole list by three rules, for a usable
member, for one without a URL and for one with a URL that cannot be used, each with its report; it is total
and has one outcome, so an induction on it is all that the further statements need.
-/

namespace ClusterTopology.Pd

/-! ### Health -/

/-- Some entry says that a member is healthy. -/
def Vouched (health : List MemberHealth) (id : UInt64) : Prop :=
  ∃ h ∈ health, h.health = true ∧ h.memberId = id

/-- The status of a member, by what is known of the health of all. -/
inductive Reported (health : List MemberHealth) (id : UInt64) : Status → Prop where
  | up (h : Vouched health id) : Reported health id .up
  | unreachable (h : ¬ Vouched health id) : Reported health id .unreachable

theorem memberStatus_of_reported {health : List MemberHealth} {id : UInt64} {status : Status}
    (h : Reported health id status) : memberStatus health id = status := by
  have hany : (health.any fun h => h.health && h.memberId == id) = true ↔ Vouched health id := by
    simp [Vouched]
  cases h with
  | up h => exact if_pos (hany.mpr h)
  | unreachable h => exact if_neg (mt hany.mp h)

theorem exists_reported (health : List MemberHealth) (id : UInt64) :
    ∃ status, Reported health id status := by
  by_cases h : Vouched health id
  · exact ⟨_, .up h⟩
  · exact ⟨_, .unreachable h⟩

theorem memberStatus_congr {health other : List MemberHealth} {id : UInt64}
    (h : Vouched other id ↔ Vouched health id) : memberStatus other id = memberStatus health id := by
  obtain ⟨status, hstatus⟩ := exists_reported health id
  rw [memberStatus_of_reported hstatus]
  apply memberStatus_of_reported
  cases hstatus with
  | up hhealth => exact .up (h.mpr hhealth)
  | unreachable hhealth => exact .unreachable (mt h.mp hhealth)

theorem Vouched.perm {health other : List MemberHealth} (h : other.Perm health) (id : UInt64) :
    Vouched other id ↔ Vouched health id := by
  simp only [Vouched, h.mem_iff]

/-- An entry that is a repetition, that vouches for nobody, or that is about somebody else. -/
theorem Vouched.insert {before after : List MemberHealth} {h : MemberHealth} {id : UInt64}
    (hidle : h ∈ before ++ after ∨ h.health = false ∨ id ≠ h.memberId) :
    Vouched (before ++ h :: after) id ↔ Vouched (before ++ after) id := by
  constructor
  · rintro ⟨h', hmem, hhealth, hid⟩
    rw [List.perm_middle.mem_iff, List.mem_cons] at hmem
    rcases hmem with rfl | hmem
    · rcases hidle with hold | hsick | hother
      · exact ⟨h', hold, hhealth, hid⟩
      · cases hsick.symm.trans hhealth
      · exact absurd hid.symm hother
    · exact ⟨h', hmem, hhealth, hid⟩
  · rintro ⟨h', hmem, hfound⟩
    exact ⟨h', List.perm_middle.mem_iff.mpr (List.mem_cons_of_mem h hmem), hfound⟩

/-! ### One member -/

/-- The first URL of a member leads somewhere. -/
def Member.IsUsable (m : Member) : Prop :=
  ∃ url urls host, m.clientUrls = url :: urls ∧ Url.hostPort? url = some host

variable {health : List MemberHealth} {m : Member}

theorem Member.instance?_of_usable {url : String} {urls : List String} {host : HostPort}
    {status : Status} (hurl : m.clientUrls = url :: urls) (hhost : Url.hostPort? url = some host)
    (hstatus : Reported health m.memberId status) :
    m.instance? health = .ok ⟨m.name, host, m.binaryVersion, status⟩ := by
  simp [instance?, hurl, hhost, memberStatus_of_reported hstatus]

theorem Member.instance?_of_withoutUrl (hurl : m.clientUrls = []) :
    m.instance? health = .error (.memberWithoutUrl m.name) := by
  simp [instance?, hurl]

theorem Member.instance?_of_invalidUrl {url : String} {urls : List String}
    (hurl : m.clientUrls = url :: urls) (hhost : Url.hostPort? url = none) :
    m.instance? health = .error (.memberUrlInvalid m.name url) := by
  simp [instance?, hurl, hhost]

theorem Member.exists_error (health : List MemberHealth) (h : ¬ m.IsUsable) :
    ∃ e, m.instance? health = .error e := by
  cases hurl : m.clientUrls with
  | nil => exact ⟨_, Member.instance?_of_withoutUrl hurl⟩
  | cons url urls =>
    cases hhost : Url.hostPort? url with
    | none => exact ⟨_, Member.instance?_of_invalidUrl hurl hhost⟩
    | some host => exact absurd ⟨url, urls, host, hurl, hhost⟩ h

theorem Member.instance?_congr {other : List MemberHealth}
    (h : Vouched other m.memberId ↔ Vouched health m.memberId) :
    m.instance? other = m.instance? health := by
  simp only [instance?, memberStatus_congr h]

/-! ### All of them -/

/-- A list of members joined with health, with what is reported of those that are passed over. -/
inductive Joins (health : List MemberHealth) : List Member → List Instance → List Event → Prop where
  | nil : Joins health [] [] []
  | reachable {m : Member} {url : String} {urls : List String} {host : HostPort} {status : Status}
      {members : List Member} {is : List Instance} {events : List Event}
      (hurl : m.clientUrls = url :: urls) (hhost : Url.hostPort? url = some host)
      (hstatus : Reported health m.memberId status) (hrest : Joins health members is events) :
      Joins health (m :: members) (⟨m.name, host, m.binaryVersion, status⟩ :: is) events
  | withoutUrl {m : Member} {members : List Member} {is : List Instance} {events : List Event}
      (hurl : m.clientUrls = []) (hrest : Joins health members is events) :
      Joins health (m :: members) is (.memberWithoutUrl m.name :: events)
  | invalidUrl {m : Member} {url : String} {urls : List String} {members : List Member}
      {is : List Instance} {events : List Event} (hurl : m.clientUrls = url :: urls)
      (hhost : Url.hostPort? url = none) (hrest : Joins health members is events) :
      Joins health (m :: members) is (.memberUrlInvalid m.name url :: events)

theorem exists_joins (members : List Member) (health : List MemberHealth) :
    ∃ is events, Joins health members is events := by
  induction members with
  | nil => exact ⟨_, _, .nil⟩
  | cons m members ih =>
    obtain ⟨is, events, hrest⟩ := ih
    cases hurl : m.clientUrls with
    | nil => exact ⟨_, _, .withoutUrl hurl hrest⟩
    | cons url urls =>
      cases hhost : Url.hostPort? url with
      | none => exact ⟨_, _, .invalidUrl hurl hhost hrest⟩
      | some host =>
        obtain ⟨status, hstatus⟩ := exists_reported health m.memberId
        exact ⟨_, _, .reachable hurl hhost hstatus hrest⟩

variable {members : List Member} {is : List Instance} {events : List Event}

/-- A member that can be reached comes before what the others come to. -/
theorem instances_cons_ok {i : Instance} (h : m.instance? health = .ok i)
    (hrest : instances members health = ⟨is, events⟩) :
    instances (m :: members) health = ⟨i :: is, events⟩ := by
  rw [instances] at hrest
  simp [instances, partition, h, hrest]

/-- A member that cannot be reached is reported before what is reported of the others. -/
theorem instances_cons_error {e : Event} (h : m.instance? health = .error e)
    (hrest : instances members health = ⟨is, events⟩) :
    instances (m :: members) health = ⟨is, e :: events⟩ := by
  rw [instances] at hrest
  simp [instances, partition, h, hrest]

theorem instances_of_joins (h : Joins health members is events) :
    instances members health = ⟨is, events⟩ := by
  induction h with
  | nil => rfl
  | reachable hurl hhost hstatus _ ih =>
    exact instances_cons_ok (Member.instance?_of_usable hurl hhost hstatus) ih
  | withoutUrl hurl _ ih => exact instances_cons_error (Member.instance?_of_withoutUrl hurl) ih
  | invalidUrl hurl hhost _ ih =>
    exact instances_cons_error (Member.instance?_of_invalidUrl hurl hhost) ih

theorem Joins.level_eq_warn (h : Joins health members is events) : ∀ e ∈ events, e.level = .warn := by
  induction h with
  | nil => simp
  | reachable _ _ _ _ ih => exact ih
  | withoutUrl _ _ ih => exact List.forall_mem_cons.mpr ⟨rfl, ih⟩
  | invalidUrl _ _ _ ih => exact List.forall_mem_cons.mpr ⟨rfl, ih⟩

/-- Two lists of health entries that vouch for the same members of a list are as good as each other. -/
theorem instances_congr {other : List MemberHealth}
    (h : ∀ m ∈ members, Vouched other m.memberId ↔ Vouched health m.memberId) :
    instances members other = instances members health := by
  have hmap : members.map (Member.instance? other) = members.map (Member.instance? health) :=
    List.map_congr_left fun m hm => Member.instance?_congr (h m hm)
  simp only [instances, hmap]

/-- A member that cannot be reached leaves no trace among the instances. -/
theorem instances_insert (h : ¬ m.IsUsable) (before after : List Member) :
    (instances (before ++ m :: after) health).value = (instances (before ++ after) health).value := by
  obtain ⟨e, he⟩ := Member.exists_error health h
  simp only [instances, List.map_append, List.map_cons, he, partition_value_insert]

/-- **The members are joined with their health.**  What a list of members comes to is that list, in its
order: every member with a first URL that leads somewhere is one instance, up exactly when some health entry
vouches for it, and every other member is one warning.  A health entry that is moved, repeated, negative or
about somebody else has no effect, nor has a member that is passed over on the instances, wherever it stands;
and a client does with the two lists that it gets just that. -/
theorem members_are_joined (members : List Member) (health : List MemberHealth) :
    (∀ is events, instances members health = ⟨is, events⟩ ↔ Joins health members is events) ∧
    (∀ e ∈ (instances members health).events, e.level = .warn) ∧
    (∀ other, other.Perm health → instances members other = instances members health) ∧
    (∀ before after h, health = before ++ after →
      (h ∈ health ∨ h.health = false ∨ ∀ m ∈ members, m.memberId ≠ h.memberId) →
        instances members (before ++ h :: after) = instances members health) ∧
    (∀ before after m, members = before ++ after → ¬ m.IsUsable →
      (instances (before ++ m :: after) health).value = (instances members health).value) ∧
    ∀ (c : Client) (peer : Peer) (deadline now : Instant),
      (c.members peer deadline now).value = .ok members →
      (c.health peer deadline (c.members peer deadline now).time).value = .ok health →
        (c.instances peer deadline now).value = .ok (instances members health).value ∧
        (c.instances peer deadline now).events = (c.members peer deadline now).events ++
          ((c.health peer deadline (c.members peer deadline now).time).events ++
            (instances members health).events) := by
  obtain ⟨is, events, hjoins⟩ := exists_joins members health
  have hinstances := instances_of_joins hjoins
  refine ⟨fun is' events' => ⟨fun h => ?_, instances_of_joins⟩, ?_, ?_, ?_, ?_, ?_⟩
  · cases hinstances.symm.trans h
    exact hjoins
  · rw [hinstances]
    exact hjoins.level_eq_warn
  · intro other hperm
    apply instances_congr
    intro m _
    exact Vouched.perm hperm m.memberId
  · rintro before after h rfl hidle
    apply instances_congr
    intro m hm
    exact Vouched.insert (hidle.imp_right (.imp_right fun hother => hother m hm))
  · rintro before after m rfl hunusable
    exact instances_insert hunusable before after
  · intro c peer deadline now hmembers hhealth
    simp [Client.instances, Conversation.andThen, Conversation.mapLogged, hmembers, hhealth]

/-- A member with a bad second URL, a member without any URL, a member with a good second URL but a bad
first one, and a member that nobody vouches for. -/
def mixedMembers : List Member :=
  [⟨"a", 1, ["https://[::1]:2379/x", "?"], "v8", "", ""⟩, ⟨"b", 1, [], "v8", "", ""⟩,
    ⟨"c", 1, ["?", "http://[::3]:2379"], "v8", "", ""⟩, ⟨"d", 0, ["http://[::4]"], "", "", ""⟩]

/-- Entries that contradict each other about one member, an entry about a member that is not there, and an
entry that does not vouch. -/
def mixedHealth : List MemberHealth :=
  [⟨"a", 1, false⟩, ⟨"a", 1, true⟩, ⟨"?", 7, true⟩, ⟨"a", 1, false⟩, ⟨"d", 0, false⟩]

theorem mixedMembers_are_joined :
    instances mixedMembers mixedHealth =
        ⟨[⟨"a", ⟨"::1", 2379⟩, "v8", .up⟩, ⟨"d", ⟨"::4", 80⟩, "", .unreachable⟩],
          [.memberWithoutUrl "b", .memberUrlInvalid "c" "?"]⟩ ∧
      instances mixedMembers mixedHealth.reverse = instances mixedMembers mixedHealth ∧
      instances mixedMembers (mixedHealth ++ [⟨"d", 0, false⟩]) = instances mixedMembers mixedHealth ∧
      (instances mixedMembers mixedHealth).value =
        (instances (mixedMembers.eraseIdx 2) mixedHealth).value := by
  have hup : Vouched mixedHealth 1 := ⟨⟨"a", 1, true⟩, by decide, rfl, rfl⟩
  have hunreachable : ¬ Vouched mixedHealth 0 := by
    unfold Vouched
    decide
  have hnone : Url.hostPort? "?" = none := by decide +kernel
  have hfirst : Url.hostPort? "https://[::1]:2379/x" = some ⟨"::1", 2379⟩ := by decide +kernel
  have hlast : Url.hostPort? "http://[::4]" = some ⟨"::4", 80⟩ := by decide +kernel
  have hjoins : Joins mixedHealth mixedMembers
      [⟨"a", ⟨"::1", 2379⟩, "v8", .up⟩, ⟨"d", ⟨"::4", 80⟩, "", .unreachable⟩]
      [.memberWithoutUrl "b", .memberUrlInvalid "c" "?"] :=
    .reachable rfl hfirst (.up hup) <| .withoutUrl rfl <| .invalidUrl rfl hnone <|
      .reachable rfl hlast (.unreachable hunreachable) .nil
  have hunusable : ¬ mixedMembers[2].IsUsable := by
    rintro ⟨_, _, _, hurl, hhost⟩
    cases hurl
    cases hnone.symm.trans hhost
  obtain ⟨hjoined, -, hperm, hidle, -, -⟩ := members_are_joined mixedMembers mixedHealth
  obtain ⟨-, -, -, -, hinsert, -⟩ := members_are_joined (mixedMembers.eraseIdx 2) mixedHealth
  refine ⟨(hjoined _ _).mpr hjoins, hperm _ (List.reverse_perm _),
    hidle mixedHealth [] ⟨"d", 0, false⟩ (List.append_nil _).symm (.inr (.inl rfl)), ?_⟩
  exact hinsert (mixedMembers.take 2) (mixedMembers.drop 3) mixedMembers[2] rfl hunusable

end ClusterTopology.Pd
