import ClusterTopology.Proofs.Cluster.Composition
import ClusterTopology.Proofs.Url.Below
/-!
What every answer of the placement driver comes to.

A request can be answered in any way: with any status, with any bytes, with a part of them, or not at all.
Each way has its own meaning, and all but one are errors that the next cycle may not see again.  A
query is a chain of requests, so it has a whole list or the error of the first request that failed.

`Classified` has one clause for each way in which a request can be answered, and `get_classified` proves all
of them from two facts: what a call comes to when its answer is in time, and what when it is not.  The
queries are then chains of two or one such call, and `AsksMembers` and `AsksStores` say which list or error
comes out and which calls have been made for it.  That a request has a target at all is a fact about URLs:
the base of a client that could be built stays a URL when the path of a list is written behind it.
-/

namespace ClusterTopology

namespace Pd

open ClusterTopology.Data

variable {α : Type}

/-! ### Where requests go -/

namespace Client

theorem isPath_apiPath : Url.IsPath apiPath.toList :=
  ⟨by decide, ⟨'1', by decide, by decide⟩, by simp [apiPath]⟩

theorem isPath_listing (l : Listing) : Url.IsPath l.path.toList := by
  cases l with
  | members => exact ⟨by decide, ⟨'s', by decide, by decide⟩, by simp [Listing.path]⟩
  | health => exact ⟨by decide, ⟨'h', by decide, by decide⟩, by simp [Listing.path]⟩
  | stores => exact ⟨by decide, ⟨'s', by decide, by decide⟩, by simp [Listing.path]⟩

theorem baseUrl_of_check {endpoint scheme : String} {tls : Option Tls.Material} {c : Client}
    (h : check endpoint scheme tls = .ok c) :
    c.baseUrl = endpointUrl scheme endpoint ++ apiPath := by
  unfold check at h
  split at h
  · cases h
  · simp only at h
    split at h
    · cases h
    · cases haccepts : accepts tls with
      | error e => simp [haccepts, bind, Except.bind] at h
      | ok u =>
        simp only [haccepts, bind, Except.bind, pure, Except.pure, Except.ok.injEq] at h
        rw [← h]

/-- A client that has been built for an endpoint of the web can send every request. -/
theorem exists_target {endpoint scheme : String} {tls : Option Tls.Material} {c : Client} {u : Url}
    (hbuilt : check endpoint scheme tls = .ok c) (hbase : Url.ofText c.baseUrl = .ok u)
    (hscheme : u.scheme = "http" ∨ u.scheme = "https") (l : Listing) :
    ∃ url, c.target l = .ok url := by
  have htext := baseUrl_of_check hbuilt
  have hbefore : String.ofList ((endpointUrl scheme endpoint).toList ++ apiPath.toList) = c.baseUrl := by
    rw [htext, ← String.toList_append, String.ofList_toList]
  have hbelow : String.ofList ((endpointUrl scheme endpoint).toList ++ apiPath.toList ++ l.path.toList) =
      c.baseUrl ++ l.path := by
    rw [htext, ← String.toList_append, ← String.toList_append, String.ofList_toList]
  -- host and port are over at the slashes of the path that every base URL ends with
  have hkind : Url.kindOf u.scheme = .special := by
    rcases hscheme with heq | heq <;> rw [heq] <;> decide
  have htwo : apiPath.toList = ['/'] ++ 'p' :: "d/api/v1".toList := by decide
  obtain ⟨u', hurl, hsame⟩ := Url.ofText_below isPath_apiPath (by decide) htwo (by decide) (by decide)
    (isPath_listing l) (hbefore ▸ hbase) hkind
  rw [hbelow] at hurl
  refine ⟨u'.text, ?_⟩
  rw [target, hurl]
  simp only [hsame, hscheme, if_true]

end Client

/-! ### What one answer comes to -/

/-- A call for a list, by what comes back for it: a list is there when a status of success and a whole
body that can be read have come in time, and everything else is an error of its own. -/
structure Classified (comes : Coming Reply) (l : Listing) (reader : Reader α) (deadline now : Instant)
    (value : Except TopologyError α) : Prop where
  ok_iff : ∀ a, value = .ok a ↔ ∃ delay status bytes,
    comes = some ⟨delay, .answered status (.whole bytes)⟩ ∧ now + delay ≤ Deadline.limit deadline now ∧
      200 ≤ status ∧ status ≤ 299 ∧ Json.decode reader bytes = .ok a
  undecodable : ∀ delay status bytes e, comes = some ⟨delay, .answered status (.whole bytes)⟩ →
    now + delay ≤ Deadline.limit deadline now → 200 ≤ status → status ≤ 299 →
    Json.decode reader bytes = .error e →
    value = .error (.decode "pd" ("GET " ++ l.path ++ ": error decoding response body"))
  cut : ∀ delay status bytes, comes = some ⟨delay, .answered status (.cut bytes)⟩ →
    now + delay ≤ Deadline.limit deadline now → 200 ≤ status → status ≤ 299 →
    value = .error (.decode "pd" ("GET " ++ l.path ++ ": error decoding response body"))
  refused : ∀ delay status bytes, comes = some ⟨delay, .answered status (.whole bytes)⟩ →
    now + delay ≤ Deadline.limit deadline now → ¬ (200 ≤ status ∧ status ≤ 299) →
    value = .error (.registry "pd" ("GET " ++ l.path ++ " returned HTTP " ++ statusText status ++ ": " ++
      Text.trimmed (Text.lossyText bytes)))
  refused_cut : ∀ delay status bytes, comes = some ⟨delay, .answered status (.cut bytes)⟩ →
    now + delay ≤ Deadline.limit deadline now → ¬ (200 ≤ status ∧ status ≤ 299) →
    value = .error (.registry "pd" ("GET " ++ l.path ++ " returned HTTP " ++ statusText status ++ ": "))
  lost : ∀ delay, comes = some ⟨delay, .lost⟩ → now + delay ≤ Deadline.limit deadline now →
    ∃ message, value = .error (.registry "pd" message)
  late : (∀ delay reply, comes = some ⟨delay, reply⟩ → Deadline.limit deadline now < now + delay) →
    value = .error (.timeout (Deadline.limit deadline now - now) ("GET " ++ l.path))

theorem isSuccess_iff {status : Nat} : isSuccess status = true ↔ 200 ≤ status ∧ status ≤ 299 := by
  simp [isSuccess]

/-- What no list can be read from is an error that may go away. -/
theorem Reply.isRetryable_of_read {url : String} {l : Listing} {reader : Reader α} {r : Reply}
    {e : TopologyError} (h : r.read url l reader = .error e) : e.isRetryable = true := by
  cases r with
  | lost =>
    cases h
    rfl
  | answered status body =>
    by_cases hstatus : isSuccess status = true
    · cases hbody : body.read reader with
      | some a => simp [read, hstatus, hbody] at h
      | none =>
        rw [read, if_pos hstatus, hbody] at h
        cases h
        rfl
    · rw [read, if_neg hstatus] at h
      cases h
      rfl

namespace Client

variable {c : Client} {peer : Peer} {l : Listing} {reader : Reader α} {deadline now : Instant}
  {url : String}

/-- A call whose answer is there in time. -/
theorem get_eq_of_in_time (htarget : c.target l = .ok url) {delay : Duration} {reply : Reply}
    (hcomes : peer l now = some ⟨delay, reply⟩) (hin : now + delay ≤ Deadline.limit deadline now) :
    c.get peer l reader deadline now =
      ⟨now + delay, reply.read url l reader, [(.listing l, now)], []⟩ := by
  simp only [get, htarget, hcomes, Coming.map, Option.map_some]
  rw [Conversation.call_of_in_time hin]

/-- A call whose answer is not there in time. -/
theorem get_eq_of_late (htarget : c.target l = .ok url)
    (hlate : ∀ delay reply, peer l now = some ⟨delay, reply⟩ →
      Deadline.limit deadline now < now + delay) :
    c.get peer l reader deadline now = ⟨Deadline.limit deadline now,
      .error (.timeout (Deadline.limit deadline now - now) ("GET " ++ l.path)), [(.listing l, now)], []⟩ := by
  simp only [get, htarget]
  rw [Conversation.call_of_late]
  · rfl
  · intro delay value hvalue
    obtain ⟨reply, hreply, -⟩ := Coming.map_eq_some_iff.mp hvalue
    exact hlate delay reply hreply

theorem get_of_in_time (htarget : c.target l = .ok url) {delay : Duration} {reply : Reply}
    (hcomes : peer l now = some ⟨delay, reply⟩) (hin : now + delay ≤ Deadline.limit deadline now) :
    (c.get peer l reader deadline now).value = reply.read url l reader := by
  rw [get_eq_of_in_time htarget hcomes hin]

theorem get_of_late (htarget : c.target l = .ok url)
    (hlate : ∀ delay reply, peer l now = some ⟨delay, reply⟩ →
      Deadline.limit deadline now < now + delay) :
    (c.get peer l reader deadline now).value =
      .error (.timeout (Deadline.limit deadline now - now) ("GET " ++ l.path)) := by
  rw [get_eq_of_late htarget hlate]

theorem get_classified (htarget : c.target l = .ok url) :
    Classified (peer l now) l reader deadline now (c.get peer l reader deadline now).value where
  ok_iff a := by
    have hsucceeds : (c.get peer l reader deadline now).value = .ok a ↔
        ∃ time, (c.get peer l reader deadline now).Succeeds a time :=
      ⟨fun h => ⟨_, h, rfl⟩, fun ⟨_, h, _⟩ => h⟩
    simp only [hsucceeds, get_succeeds_iff, Serves]
    constructor
    · rintro ⟨_, _, delay, status, bytes, -, hpeer, hstatus, hdecode, rfl, hin⟩
      obtain ⟨hlow, hhigh⟩ := isSuccess_iff.mp hstatus
      exact ⟨delay, status, bytes, hpeer, hin, hlow, hhigh, hdecode⟩
    · rintro ⟨delay, status, bytes, hpeer, hin, hlow, hhigh, hdecode⟩
      exact ⟨_, url, delay, status, bytes, htarget, hpeer, isSuccess_iff.mpr ⟨hlow, hhigh⟩, hdecode,
        rfl, hin⟩
  undecodable delay status bytes e hcomes hin hlow hhigh hdecode := by
    rw [get_of_in_time htarget hcomes hin, Reply.read, if_pos (isSuccess_iff.mpr ⟨hlow, hhigh⟩)]
    simp only [Body.read, hdecode, Except.toOption]
  cut delay status bytes hcomes hin hlow hhigh := by
    rw [get_of_in_time htarget hcomes hin, Reply.read, if_pos (isSuccess_iff.mpr ⟨hlow, hhigh⟩)]
    rfl
  refused delay status bytes hcomes hin hstatus := by
    rw [get_of_in_time htarget hcomes hin, Reply.read,
      if_neg fun h => hstatus (isSuccess_iff.mp h)]
    rfl
  refused_cut delay status bytes hcomes hin hstatus := by
    rw [get_of_in_time htarget hcomes hin, Reply.read,
      if_neg fun h => hstatus (isSuccess_iff.mp h), Body.shown, String.append_empty]
  lost delay hcomes hin := by
    rw [get_of_in_time htarget hcomes hin]
    exact ⟨_, rfl⟩
  late hlate := get_of_late htarget hlate

/-- Whatever a call for a list fails with may go away. -/
theorem isRetryable_of_get (htarget : c.target l = .ok url) {e : TopologyError}
    (h : (c.get peer l reader deadline now).value = .error e) : e.isRetryable = true := by
  by_cases hcomes : ∃ delay reply, peer l now = some ⟨delay, reply⟩ ∧
      now + delay ≤ Deadline.limit deadline now
  · obtain ⟨delay, reply, hpeer, hin⟩ := hcomes
    rw [get_of_in_time htarget hpeer hin] at h
    exact Reply.isRetryable_of_read h
  · rw [get_of_late htarget] at h
    · cases h
      rfl
    · intro delay reply hpeer
      exact Nat.lt_of_not_le fun hin => hcomes ⟨delay, reply, hpeer, hin⟩

end Client

end Pd

/-! ### What a query comes to -/

namespace Conversation

variable {α β : Type}

theorem value_mapLogged (c : Conversation α) (f : α → Logged β) :
    (c.mapLogged f).value = c.value.map fun a => (f a).value := by
  cases hvalue : c.value <;> simp [mapLogged, hvalue, Except.map]

theorem calls_mapLogged (c : Conversation α) (f : α → Logged β) :
    (c.mapLogged f).calls = c.calls := by
  cases hvalue : c.value <;> simp [mapLogged, hvalue]

end Conversation

namespace Cluster

open Pd

variable {peers : Peers} {c : Clients} {deadline now : Instant}

/-- A query of the members: it asks for their health exactly when it has got the members, and has the
record of every member that has one, or fails with what the first call that fails has failed with. -/
structure AsksMembers (peers : Peers) (c : Clients) (deadline now : Instant) : Prop where
  members_failed : ∀ e, (c.pd.members peers.pd deadline now).value = .error e →
    e.isRetryable = true ∧ (query peers c 1 now deadline).value = .error e ∧
      (query peers c 1 now deadline).calls = [(.listing .members, now)]
  members_ok : ∀ members, (c.pd.members peers.pd deadline now).value = .ok members →
    (query peers c 1 now deadline).calls =
      [(.listing .members, now), (.listing .health, (c.pd.members peers.pd deadline now).time)]
  health_failed : ∀ members e, (c.pd.members peers.pd deadline now).value = .ok members →
    (c.pd.health peers.pd deadline (c.pd.members peers.pd deadline now).time).value = .error e →
    e.isRetryable = true ∧ (query peers c 1 now deadline).value = .error e
  health_ok : ∀ members health, (c.pd.members peers.pd deadline now).value = .ok members →
    (c.pd.health peers.pd deadline (c.pd.members peers.pd deadline now).time).value = .ok health →
    (query peers c 1 now deadline).value = .ok (members.filterMap (Member.record? health))

/-- A query of the stores: it has the record of every store that has one, the row stores first, or fails
with what its one call has failed with. -/
structure AsksStores (peers : Peers) (c : Clients) (deadline now : Instant) : Prop where
  calls : (query peers c 2 now deadline).calls = [(.listing .stores, now)]
  stores_failed : ∀ e, (c.pd.stores peers.pd deadline now).value = .error e →
    e.isRetryable = true ∧ (query peers c 2 now deadline).value = .error e
  stores_ok : ∀ stores, (c.pd.stores peers.pd deadline now).value = .ok stores →
    (query peers c 2 now deadline).value =
      .ok ((stores.filter fun s => !s.isTiflash).filterMap Store.record? ++
        (stores.filter fun s => s.isTiflash).filterMap Store.record?)

/-- A query of the members is over with the members when there are none. -/
theorem instances_of_members_error {e : TopologyError}
    (h : (c.pd.members peers.pd deadline now).value = .error e) :
    (c.pd.instances peers.pd deadline now).value = .error e ∧
      (c.pd.instances peers.pd deadline now).calls = [(.listing .members, now)] := by
  rw [Client.instances, Conversation.andThen_of_error h]
  exact ⟨rfl, rfl⟩

/-- A query of the members goes on with their health from where it has got the members. -/
theorem instances_of_members_ok {members : List Member}
    (h : (c.pd.members peers.pd deadline now).value = .ok members) :
    (c.pd.instances peers.pd deadline now).value =
        (c.pd.health peers.pd deadline (c.pd.members peers.pd deadline now).time).value.map
          (fun health => (Pd.instances members health).value) ∧
      (c.pd.instances peers.pd deadline now).calls =
        [(.listing .members, now), (.listing .health, (c.pd.members peers.pd deadline now).time)] := by
  rw [Client.instances, Conversation.andThen_of_ok h]
  refine ⟨?_, ?_⟩
  · rw [Conversation.value_mapLogged]
  · rw [Conversation.calls_mapLogged]
    rfl

theorem asksMembers (htarget : ∀ l, ∃ url, c.pd.target l = .ok url) :
    AsksMembers peers c deadline now := by
  obtain ⟨membersUrl, hmembersUrl⟩ := htarget .members
  obtain ⟨healthUrl, hhealthUrl⟩ := htarget .health
  have hvalue : (query peers c 1 now deadline).value =
      (c.pd.instances peers.pd deadline now).value.map Pd.components :=
    Conversation.value_mapLogged _ _
  have hcalls : (query peers c 1 now deadline).calls = (c.pd.instances peers.pd deadline now).calls :=
    Conversation.calls_mapLogged _ _
  constructor
  case members_failed =>
    intro e hmembers
    obtain ⟨hfailed, hasked⟩ := instances_of_members_error hmembers
    refine ⟨Client.isRetryable_of_get hmembersUrl hmembers, ?_, hcalls.trans hasked⟩
    rw [hvalue, hfailed]
    rfl
  case members_ok =>
    intro members hmembers
    exact hcalls.trans (instances_of_members_ok hmembers).2
  case health_failed =>
    intro members e hmembers hhealth
    refine ⟨Client.isRetryable_of_get hhealthUrl hhealth, ?_⟩
    rw [hvalue, (instances_of_members_ok hmembers).1, hhealth]
    rfl
  case health_ok =>
    intro members health hmembers hhealth
    rw [hvalue, (instances_of_members_ok hmembers).1, hhealth]
    exact congrArg Except.ok (components_instances members health)

theorem asksStores (htarget : ∀ l, ∃ url, c.pd.target l = .ok url) :
    AsksStores peers c deadline now := by
  obtain ⟨url, hurl⟩ := htarget .stores
  have hvalue : (query peers c 2 now deadline).value =
      (c.pd.storeInstances peers.pd deadline now).value.map Pd.storeComponents :=
    Conversation.value_mapLogged _ _
  have hinstances : (c.pd.storeInstances peers.pd deadline now).value =
      (c.pd.stores peers.pd deadline now).value.map fun stores => (Pd.storeInstances stores).value :=
    Conversation.value_mapLogged _ _
  constructor
  case calls => exact (Conversation.calls_mapLogged _ _).trans (Conversation.calls_mapLogged _ _)
  case stores_failed =>
    intro e hstores
    refine ⟨Client.isRetryable_of_get hurl hstores, ?_⟩
    rw [hvalue, hinstances, hstores]
    rfl
  case stores_ok =>
    intro stores hstores
    rw [hvalue, hinstances, hstores]
    exact congrArg Except.ok (storeComponents_storeInstances stores)

/-- **Every answer of the placement driver is told apart, and no list is taken in part.**  A client that
has been built for an endpoint of the web has the list that it asks for exactly when the answer has a
status of success and a whole body that can be read, in time; each other answer, and none, is an error
of its own.  So a query of the members or of the stores has the records of a whole list, or fails with
the error of its first call that fails, which may go away; and the health of the members is asked for
exactly when the members are there. -/
theorem answers_are_told_apart {endpoint scheme : String} {tls : Option Tls.Material} {u : Url}
    {c : Clients} (hbuilt : Client.check endpoint scheme tls = .ok c.pd)
    (hbase : Url.ofText c.pd.baseUrl = .ok u) (hscheme : u.scheme = "http" ∨ u.scheme = "https")
    (peers : Peers) (deadline now : Instant) :
    Classified (peers.pd .members now) .members membersReader deadline now
        (c.pd.members peers.pd deadline now).value ∧
      Classified (peers.pd .health now) .health healthReader deadline now
        (c.pd.health peers.pd deadline now).value ∧
      Classified (peers.pd .stores now) .stores storesReader deadline now
        (c.pd.stores peers.pd deadline now).value ∧
      AsksMembers peers c deadline now ∧ AsksStores peers c deadline now := by
  have htarget := Client.exists_target hbuilt hbase hscheme
  obtain ⟨membersUrl, hmembers⟩ := htarget .members
  obtain ⟨healthUrl, hhealth⟩ := htarget .health
  obtain ⟨storesUrl, hstores⟩ := htarget .stores
  exact ⟨Client.get_classified hmembers, Client.get_classified hhealth, Client.get_classified hstores,
    asksMembers htarget, asksStores htarget⟩

/-- The registries of a small cluster, where the health of the members is refused, without all the words
for it. -/
def illPeers : Peers where
  etcd := smallPeers.etcd
  pd l now :=
    if l = .health then some ⟨1, .answered 503 (.cut (Text.asciiBytes "not "))⟩
    else smallPeers.pd l now
  unixNanos := smallPeers.unixNanos

/-- The members that are there do not escape when their health is not told. -/
theorem illHealth_fails_the_query :
    Client.check "[::1]:2379" "http" none = .ok smallClients.pd ∧
      (query illPeers smallClients 1 0 4).value =
        .error (.registry "pd" "GET /health returned HTTP 503 Service Unavailable: ") ∧
      (query illPeers smallClients 1 0 4).calls = [(.listing .members, 0), (.listing .health, 1)] := by
  have hbuilt : Client.check "[::1]:2379" "http" none = .ok smallClients.pd := by decide +kernel
  have hbase : Url.ofText smallClients.pd.baseUrl =
      .ok ⟨"http", some (.ipv6 [0, 0, 0, 0, 0, 0, 0, 1]), some 2379, .segments ["pd", "api", "v1"],
        none, none⟩ := by decide +kernel
  obtain ⟨hmembers, -, -, hasks, -⟩ := answers_are_told_apart hbuilt hbase (.inl rfl) illPeers 4 0
  obtain ⟨-, hhealth, -, -, -⟩ := answers_are_told_apart hbuilt hbase (.inl rfl) illPeers 4 1
  have hgot : (smallClients.pd.members illPeers.pd 4 0).value = .ok smallListed.members :=
    (hmembers.ok_iff _).mpr
      ⟨1, 200, _, rfl, by decide, by decide, by decide, by decide +kernel⟩
  have htime : (smallClients.pd.members illPeers.pd 4 0).time = 1 := by decide +kernel
  have hrefused := hhealth.refused_cut 1 503 _ rfl (by decide) (by decide)
  refine ⟨hbuilt, ?_, ?_⟩
  · rw [(hasks.health_failed _ _ hgot (htime.symm ▸ hrefused)).2]
    decide +kernel
  · rw [hasks.members_ok _ hgot, htime]

end Cluster

end ClusterTopology
