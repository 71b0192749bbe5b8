import Mathlib.Tactic.Common
import ClusterTopology.Cluster
/-!
When a call of a registry succeeds, and with what.

A conversation succeeds when all its calls do, each made where the one before has ended.  A call succeeds
when an answer is there in time that means something: for etcd a list of pairs, for the placement
driver a status of success with a whole body that can be read.

`Succeeds` says that a conversation has come to a value at a time, and it is opened by the constructors of
conversations alone: `andThen_succeeds_iff`, `mapLogged_succeeds_iff` and `call_succeeds_iff`.  On top of
them `Serves` says for either interface what has to come back for one call, and the last lemmas of each part
say it of the queries of a source.  Nothing here speaks of failures; how those are told apart is the subject
of `Proofs.Cluster.Answers`.
-/

namespace ClusterTopology

namespace Conversation

variable {α β : Type}

/-- A conversation that has come to a value at a time. -/
def Succeeds (c : Conversation α) (a : α) (time : Instant) : Prop := c.value = .ok a ∧ c.time = time

theorem andThen_succeeds_iff {c : Conversation α} {next : α → Instant → Conversation β} {b : β}
    {time : Instant} :
    (c.andThen next).Succeeds b time ↔ ∃ a t, c.Succeeds a t ∧ (next a t).Succeeds b time := by
  cases hvalue : c.value with
  | error e => simp [Succeeds, andThen, hvalue]
  | ok a => simp [Succeeds, andThen, hvalue]

theorem mapLogged_succeeds_iff {c : Conversation α} {f : α → Logged β} {b : β} {time : Instant} :
    (c.mapLogged f).Succeeds b time ↔ ∃ a, c.Succeeds a time ∧ b = (f a).value := by
  cases hvalue : c.value with
  | error e => simp [Succeeds, mapLogged, hvalue]
  | ok a =>
    simp only [Succeeds, mapLogged, hvalue, Except.ok.injEq]
    constructor
    · rintro ⟨rfl, htime⟩
      exact ⟨a, ⟨rfl, htime⟩, rfl⟩
    · rintro ⟨_, ⟨rfl, htime⟩, rfl⟩
      exact ⟨rfl, htime⟩

theorem outcome_eq_loaded_iff {c : Conversation Snapshot} {s : Snapshot} :
    c.outcome.value = .loaded s ↔ c.Succeeds s c.time := by
  cases hvalue : c.value <;> simp [Succeeds, outcome, hvalue]

theorem outcome_ne_panicked (c : Conversation Snapshot) (p : Panic) :
    c.outcome.value ≠ .panicked p := by
  cases hvalue : c.value <;> simp [outcome, hvalue]

theorem not_refused_succeeds (now : Instant) (e : TopologyError) (a : α) (time : Instant) :
    ¬ (refused now e).Succeeds a time := by
  simp [Succeeds, refused]

/-- An answer that is there in time is what a call comes to. -/
theorem call_of_in_time {deadline now : Instant} {c : Call} {delay : Duration}
    {value : Except TopologyError α} (hin : now + delay ≤ Deadline.limit deadline now) :
    call deadline now c (some ⟨delay, value⟩) = ⟨now + delay, value, [(c, now)], []⟩ := by
  simp [call, Coming.since, Deadline.within, Deadline.allows, hin]

/-- A call whose answer is not there in time is cut off. -/
theorem call_of_late {deadline now : Instant} {c : Call} {answer : Coming (Except TopologyError α)}
    (hlate : ∀ delay value, answer = some ⟨delay, value⟩ → Deadline.limit deadline now < now + delay) :
    call deadline now c answer =
      ⟨Deadline.limit deadline now,
        .error (.timeout (Deadline.limit deadline now - now) c.operation), [(c, now)], []⟩ := by
  rcases answer with _ | ⟨delay, value⟩
  · simp [call, Coming.since, Deadline.within, Deadline.expired]
  · have hnot : ¬ now + delay ≤ Deadline.limit deadline now :=
      Nat.not_le.mpr (hlate delay value rfl)
    simp [call, Coming.since, Deadline.within, Deadline.allows, Deadline.expired, hnot]

/-- A call succeeds with what is there in time. -/
theorem call_succeeds_iff {deadline now : Instant} {c : Call}
    {answer : Coming (Except TopologyError α)} {a : α} {time : Instant} :
    (call deadline now c answer).Succeeds a time ↔
      ∃ delay, answer = some ⟨delay, .ok a⟩ ∧ time = now + delay ∧
        time ≤ Deadline.limit deadline now := by
  rcases answer with _ | ⟨delay, value⟩
  · simp [Succeeds, call, Coming.since, Deadline.within]
  · by_cases hallowed : now + delay ≤ Deadline.limit deadline now
    · simp only [Succeeds, call, Coming.since, Option.map_some, Deadline.within, Deadline.allows,
        hallowed, decide_true, if_true, Option.some.injEq, Delayed.mk.injEq]
      constructor
      · rintro ⟨rfl, rfl⟩
        exact ⟨delay, ⟨rfl, rfl⟩, rfl, hallowed⟩
      · rintro ⟨_, ⟨rfl, rfl⟩, rfl, -⟩
        exact ⟨rfl, rfl⟩
    · simp only [Succeeds, call, Coming.since, Option.map_some, Deadline.within, Deadline.allows,
        hallowed, decide_false, Bool.false_eq_true, if_false, reduceCtorEq, false_and,
        Option.some.injEq, Delayed.mk.injEq, false_iff]
      rintro ⟨_, ⟨rfl, -⟩, rfl, hin⟩
      exact hallowed hin

end Conversation

theorem Coming.map_eq_some_iff {α β : Type} {f : α → β} {c : Coming α} {delay : Duration} {b : β} :
    c.map f = some ⟨delay, b⟩ ↔ ∃ a, c = some ⟨delay, a⟩ ∧ f a = b := by
  rcases c with _ | ⟨d, a⟩
  · simp [Coming.map]
  · simp only [Coming.map, Option.map_some, Option.some.injEq, Delayed.mk.injEq]
    constructor
    · rintro ⟨rfl, rfl⟩
      exact ⟨a, ⟨rfl, rfl⟩, rfl⟩
    · rintro ⟨_, ⟨rfl, rfl⟩, rfl⟩
      exact ⟨rfl, rfl⟩

/-! ### The interface of the placement driver -/

namespace Pd

variable {α : Type}

theorem Body.read_eq_some_iff {reader : Data.Reader α} {b : Body} {a : α} :
    b.read reader = some a ↔ ∃ bytes, b = .whole bytes ∧ Json.decode reader bytes = .ok a := by
  cases b with
  | cut bytes => simp [read]
  | whole bytes =>
    cases hdecode : Json.decode reader bytes <;> simp [read, hdecode, Except.toOption]

/-- A list is taken from a whole body with a status of success, and from nothing else. -/
theorem Reply.read_eq_ok_iff {url : String} {l : Listing} {reader : Data.Reader α} {r : Reply}
    {a : α} :
    r.read url l reader = .ok a ↔ ∃ status bytes, r = .answered status (.whole bytes) ∧
      isSuccess status = true ∧ Json.decode reader bytes = .ok a := by
  cases r with
  | lost => simp [read]
  | answered status body =>
    by_cases hstatus : isSuccess status = true
    · have hread : (answered status body).read url l reader = .ok a ↔ body.read reader = some a := by
        cases hbody : body.read reader <;> simp [read, hstatus, hbody]
      rw [hread, Body.read_eq_some_iff]
      constructor
      · rintro ⟨bytes, rfl, hdecode⟩
        exact ⟨status, bytes, rfl, hstatus, hdecode⟩
      · rintro ⟨_, bytes, ⟨⟩, -, hdecode⟩
        exact ⟨bytes, rfl, hdecode⟩
    · simp only [read, hstatus, Bool.false_eq_true, if_false, reduceCtorEq, false_iff]
      rintro ⟨_, bytes, ⟨⟩, hsuccess, -⟩
      exact hstatus hsuccess

namespace Client

/-- A list that is asked for at `now` is there at a time: the answer has a status of success and a whole
body that can be read, and comes before the deadline. -/
def Serves (c : Client) (peer : Peer) (l : Listing) (reader : Data.Reader α) (deadline now : Instant)
    (a : α) (time : Instant) : Prop :=
  ∃ url delay status bytes, c.target l = .ok url ∧
    peer l now = some ⟨delay, .answered status (.whole bytes)⟩ ∧ isSuccess status = true ∧
    Json.decode reader bytes = .ok a ∧ time = now + delay ∧ time ≤ Deadline.limit deadline now

theorem get_succeeds_iff {c : Client} {peer : Peer} {l : Listing} {reader : Data.Reader α}
    {deadline now : Instant} {a : α} {time : Instant} :
    (c.get peer l reader deadline now).Succeeds a time ↔
      c.Serves peer l reader deadline now a time := by
  unfold get Serves
  rw [Conversation.call_succeeds_iff]
  cases htarget : c.target l with
  | error e => simp [Coming.now]
  | ok url =>
    simp only [Coming.map_eq_some_iff, Reply.read_eq_ok_iff]
    constructor
    · rintro ⟨delay, ⟨_, hpeer, status, bytes, rfl, hstatus, hdecode⟩, htime, hin⟩
      exact ⟨url, delay, status, bytes, rfl, hpeer, hstatus, hdecode, htime, hin⟩
    · rintro ⟨_, delay, status, bytes, -, hpeer, hstatus, hdecode, htime, hin⟩
      exact ⟨delay, ⟨_, hpeer, status, bytes, rfl, hstatus, hdecode⟩, htime, hin⟩

theorem components_succeeds_iff {c : Client} {peer : Peer} {deadline now : Instant} {s : Snapshot}
    {time : Instant} :
    (c.components peer deadline now).Succeeds s time ↔ ∃ members health t,
      c.Serves peer .members membersReader deadline now members t ∧
      c.Serves peer .health healthReader deadline t health time ∧
      s = Pd.components (Pd.instances members health).value := by
  simp only [components, Client.instances, Client.members, Client.health,
    Conversation.mapLogged_succeeds_iff, Conversation.andThen_succeeds_iff, get_succeeds_iff]
  constructor
  · rintro ⟨_, ⟨members, t, hmembers, health, hhealth, rfl⟩, rfl⟩
    exact ⟨members, health, t, hmembers, hhealth, rfl⟩
  · rintro ⟨members, health, t, hmembers, hhealth, rfl⟩
    exact ⟨_, ⟨members, t, hmembers, health, hhealth, rfl⟩, rfl⟩

theorem storeComponents_succeeds_iff {c : Client} {peer : Peer} {deadline now : Instant} {s : Snapshot}
    {time : Instant} :
    (c.storeComponents peer deadline now).Succeeds s time ↔ ∃ stores,
      c.Serves peer .stores storesReader deadline now stores time ∧
      s = Pd.storeComponents (Pd.storeInstances stores).value := by
  simp only [storeComponents, Client.storeInstances, Client.stores,
    Conversation.mapLogged_succeeds_iff, get_succeeds_iff]
  constructor
  · rintro ⟨_, ⟨stores, hstores, rfl⟩, rfl⟩
    exact ⟨stores, hstores, rfl⟩
  · rintro ⟨stores, hstores, rfl⟩
    exact ⟨_, ⟨stores, hstores, rfl⟩, rfl⟩

end Client

end Pd

/-! ### The interface of etcd -/

namespace Tidb.Client

/-- The pairs that etcd holds are there at a time when they are asked for at `now`, by a client that has
not been released. -/
def Serves (c : Client) (peer : Peer) (deadline now : Instant)
    (pairs : List (List UInt8 × List UInt8)) (time : Instant) : Prop :=
  c.isReleased = false ∧ ∃ delay, peer now = some ⟨delay, .entries pairs⟩ ∧ time = now + delay ∧
    time ≤ Deadline.limit deadline now

theorem call_succeeds_iff {peer : Peer} {deadline now : Instant} {entries : List Entry}
    {time : Instant} :
    (Conversation.call deadline now .tidbEntries ((peer now).map Reply.read)).Succeeds entries time ↔
      ∃ delay pairs, peer now = some ⟨delay, .entries pairs⟩ ∧ entries = readableEntries pairs ∧
        time = now + delay ∧ time ≤ Deadline.limit deadline now := by
  rw [Conversation.call_succeeds_iff]
  simp only [Coming.map_eq_some_iff]
  constructor
  · rintro ⟨delay, ⟨r, hpeer, hread⟩, htime, hin⟩
    cases r with
    | entries pairs =>
      cases hread
      exact ⟨delay, pairs, hpeer, rfl, htime, hin⟩
    | failed message => cases hread
  · rintro ⟨delay, pairs, hpeer, rfl, htime, hin⟩
    exact ⟨delay, ⟨.entries pairs, hpeer, rfl⟩, htime, hin⟩

theorem components_succeeds_iff {c : Client} {peer : Peer} {unixNanos : Instant → Int}
    {deadline now : Instant} {s : Snapshot} {time : Instant} :
    (c.components peer unixNanos deadline now).Succeeds s time ↔ ∃ pairs,
      c.Serves peer deadline now pairs time ∧
      s = Tidb.components (Tidb.instances (unixNanos time) (readableEntries pairs)).value := by
  unfold components Client.instances
  rw [Conversation.mapLogged_succeeds_iff]
  by_cases hreleased : c.isReleased = true
  · simp [hreleased, Conversation.not_refused_succeeds, Serves]
  · simp only [hreleased, Bool.false_eq_true, if_false, Conversation.mapLogged_succeeds_iff]
    constructor
    · rintro ⟨_, ⟨entries, hcall, rfl⟩, rfl⟩
      have htime : _ = time := hcall.2
      obtain ⟨delay, pairs, hpeer, rfl, hends, hin⟩ := call_succeeds_iff.mp hcall
      rw [htime]
      exact ⟨pairs, ⟨by simpa using hreleased, delay, hpeer, hends, hin⟩, rfl⟩
    · rintro ⟨pairs, ⟨-, delay, hpeer, hends, hin⟩, rfl⟩
      have hcall := call_succeeds_iff.mpr ⟨delay, pairs, hpeer, rfl, hends, hin⟩
      refine ⟨_, ⟨_, hcall, rfl⟩, ?_⟩
      have htime : _ = time := hcall.2
      rw [htime]
      rfl

end Tidb.Client

end ClusterTopology
