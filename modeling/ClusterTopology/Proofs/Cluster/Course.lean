import Mathlib.Algebra.GroupWithZero.Nat
import ClusterTopology.Proofs.Cluster.Calls
/-!
The course of calls that share one deadline.

Conversations are made of calls, each of which begins where the one before has ended.  How such a row of
calls goes does not depend on what the answers say: it is known from when each answer comes and whether
it is an error.  `Course` says how, by one rule for each way in which a call can end, and every
conversation with the registries follows it.  Read from its end a course shows how long the calls took
that succeeded, and which call was the first that did not.

Courses can be put one behind the other, also when the first of them has failed, which is all that `andThen`
needs.  `Follows` says that a conversation has gone as some course says, and every constructor of
conversations keeps it; the three queries of a cluster are then the rows `callsOf` of their calls.
-/

namespace ClusterTopology

/-! ### What a call comes to if it is given the time -/

/-- When an answer comes, and the error that it is, if it is one. -/
abbrev Verdicts := Call → Instant → Coming (Option TopologyError)

def failureOf {α : Type} : Except TopologyError α → Option TopologyError
  | .ok _ => none
  | .error e => some e

/-- When an answer comes, and the error that it is, whatever else it says. -/
def Coming.verdict {α : Type} (c : Coming (Except TopologyError α)) :
    Coming (Option TopologyError) := c.map failureOf

/-! ### Rows of calls -/

/-- How calls go that are made one after the other, from a time on, under one deadline: which of them are
made and when, when all is over, and with which error. -/
inductive Course (verdict : Verdicts) (deadline : Instant) :
    List Call → Instant → List (Call × Instant) → Instant → Option TopologyError → Prop where
  | done (now : Instant) : Course verdict deadline [] now [] now none
  | succeeded {c : Call} {rest : List Call} {now time : Instant} {delay : Duration}
      {made : List (Call × Instant)} {failure : Option TopologyError}
      (hanswer : verdict c now = some ⟨delay, none⟩) (hin : now + delay ≤ deadline)
      (hrest : Course verdict deadline rest (now + delay) made time failure) :
      Course verdict deadline (c :: rest) now ((c, now) :: made) time failure
  | failed {c : Call} {rest : List Call} {now : Instant} {delay : Duration} {e : TopologyError}
      (hanswer : verdict c now = some ⟨delay, some e⟩) (hin : now + delay ≤ deadline) :
      Course verdict deadline (c :: rest) now [(c, now)] (now + delay) (some e)
  | late {c : Call} {rest : List Call} {now : Instant}
      (hlate : ∀ delay r, verdict c now = some ⟨delay, r⟩ → deadline < now + delay) :
      Course verdict deadline (c :: rest) now [(c, now)] deadline
        (some (.timeout (deadline - now) c.operation))

namespace Course

variable {verdict : Verdicts} {deadline now time : Instant} {plan plan₁ plan₂ : List Call}
  {made made₁ made₂ : List (Call × Instant)} {failure : Option TopologyError}

/-- Nothing goes on beyond the deadline. -/
theorem time_le (h : Course verdict deadline plan now made time failure) (hnow : now ≤ deadline) :
    time ≤ deadline := by
  induction h with
  | done now => exact hnow
  | succeeded hanswer hin hrest ih => exact ih hin
  | failed hanswer hin => exact hin
  | late hlate => exact Nat.le_refl _

theorem append {later : Instant} (h : Course verdict deadline plan₁ now made₁ time none)
    (hnext : Course verdict deadline plan₂ time made₂ later failure) :
    Course verdict deadline (plan₁ ++ plan₂) now (made₁ ++ made₂) later failure := by
  -- the two rules that end with an error do not end with `none`
  generalize hnone : (none : Option TopologyError) = ended at h
  induction h with
  | done now => exact hnext
  | succeeded hanswer hin hrest ih => exact .succeeded hanswer hin (ih hnext hnone)
  | failed hanswer hin => cases hnone
  | late hlate => cases hnone

theorem append_of_failed {e : TopologyError}
    (h : Course verdict deadline plan₁ now made time (some e)) (plan₂ : List Call) :
    Course verdict deadline (plan₁ ++ plan₂) now made time (some e) := by
  generalize hsome : some e = ended at h
  induction h with
  | done now => cases hsome
  | succeeded hanswer hin hrest ih => exact .succeeded hanswer hin (ih hsome)
  | failed hanswer hin => exact .failed hanswer hin
  | late hlate => exact .late hlate

end Course

/-! ### Calls that succeed -/

/-- The first calls of a row succeed one after the other, each made where the one before has ended, and
these are the times that they take. -/
inductive Succeed (verdict : Verdicts) : List Call → Instant → List Duration → Prop where
  | nil (calls : List Call) (now : Instant) : Succeed verdict calls now []
  | cons {c : Call} {rest : List Call} {now : Instant} {delay : Duration} {delays : List Duration}
      (hanswer : verdict c now = some ⟨delay, none⟩)
      (hrest : Succeed verdict rest (now + delay) delays) :
      Succeed verdict (c :: rest) now (delay :: delays)

/-- How a call made at `now` under a deadline fails: with the error that has come in time, when it has
come, or at the deadline with a timeout that tells how long the call has been waited for. -/
inductive CallFails (verdict : Verdicts) (deadline : Instant) (c : Call) (now : Instant) :
    Instant → TopologyError → Prop where
  | failed {delay : Duration} {e : TopologyError} (hanswer : verdict c now = some ⟨delay, some e⟩)
      (hin : now + delay ≤ deadline) : CallFails verdict deadline c now (now + delay) e
  | late (hlate : ∀ delay r, verdict c now = some ⟨delay, r⟩ → deadline < now + delay) :
      CallFails verdict deadline c now deadline (.timeout (deadline - now) c.operation)

theorem not_callFails_of_succeeds {verdict : Verdicts} {deadline now time : Instant} {c : Call}
    {delay : Duration} {e : TopologyError} (h : verdict c now = some ⟨delay, none⟩)
    (hin : now + delay ≤ deadline) : ¬ CallFails verdict deadline c now time e := by
  intro hfails
  cases hfails with
  | failed hanswer =>
    rw [h] at hanswer
    cases hanswer
  | late hlate => exact Nat.not_lt.mpr hin (hlate delay none h)

/-- How a row of calls ends after the first of them have succeeded and taken these times. -/
def EndsAfter (verdict : Verdicts) (deadline : Instant) (plan : List Call) (now : Instant)
    (delays : List Duration) (time : Instant) (failure : Option TopologyError) : Prop :=
  match plan[delays.length]? with
  | none => time = now + delays.sum ∧ failure = none
  | some c => ∃ e, CallFails verdict deadline c (now + delays.sum) time e ∧ failure = some e

/-- **What a course comes to.**  Some of the first calls succeed, within the time that there is; the calls
that are made are these and the one after them; and that one, if there is one, fails. -/
theorem Course.exists_delays {verdict : Verdicts} {deadline now time : Instant} {plan : List Call}
    {made : List (Call × Instant)} {failure : Option TopologyError}
    (h : Course verdict deadline plan now made time failure) (hnow : now ≤ deadline) :
    ∃ delays, Succeed verdict plan now delays ∧ now + delays.sum ≤ deadline ∧
      made = plan.zip (delays.scanl (· + ·) now) ∧
      EndsAfter verdict deadline plan now delays time failure := by
  -- each call that succeeds puts its time in front of those that follow
  induction h with
  | done now => exact ⟨[], .nil _ _, hnow, rfl, rfl, rfl⟩
  | @succeeded c rest now time delay made failure hanswer hin hrest ih =>
    obtain ⟨delays, hsucceed, hsum, hmade, hends⟩ := ih hin
    have hend : now + (delay :: delays).sum = now + delay + delays.sum := by
      rw [List.sum_cons, Nat.add_assoc]
    refine ⟨delay :: delays, .cons hanswer hsucceed, hend ▸ hsum, ?_, ?_⟩
    · rw [List.scanl_cons, List.zip_cons_cons, hmade]
    · simpa only [EndsAfter, hend, List.length_cons, List.getElem?_cons_succ] using hends
  | failed hanswer hin =>
    refine ⟨[], .nil _ _, hnow, by simp, ?_⟩
    exact ⟨_, .failed hanswer hin, rfl⟩
  | late hlate =>
    refine ⟨[], .nil _ _, hnow, by simp, ?_⟩
    exact ⟨_, .late hlate, rfl⟩

/-! ### Conversations -/

namespace Conversation

variable {α β : Type} {verdict : Verdicts} {deadline now : Instant} {plan plan₁ plan₂ : List Call}

/-- A conversation goes as a row of calls does. -/
def Follows (verdict : Verdicts) (deadline : Instant) (plan : List Call) (now : Instant)
    (c : Conversation α) : Prop :=
  Course verdict deadline plan now c.calls c.time (failureOf c.value)

theorem call_follows {c : Call} {answer : Coming (Except TopologyError α)} (hnow : now ≤ deadline)
    (hanswer : verdict c now = answer.verdict) :
    (call deadline now c answer).Follows verdict deadline [c] now := by
  have hlimit : Deadline.limit deadline now = deadline := Nat.max_eq_left hnow
  -- an answer is there in time, or it is late, and one that never comes is late too
  by_cases hcomes : ∃ delay value, answer = some ⟨delay, value⟩ ∧ now + delay ≤ deadline
  · obtain ⟨delay, value, rfl, hin⟩ := hcomes
    have hverdict : verdict c now = some ⟨delay, failureOf value⟩ := hanswer
    rw [Follows, call_of_in_time (hlimit.symm ▸ hin)]
    cases value with
    | ok a => exact .succeeded hverdict hin (.done _)
    | error e => exact .failed hverdict hin
  · have hlate (delay : Duration) (value : Except TopologyError α)
        (h : answer = some ⟨delay, value⟩) : deadline < now + delay :=
      Nat.lt_of_not_le fun hin => hcomes ⟨delay, value, h, hin⟩
    rw [Follows, call_of_late (hlimit.symm ▸ hlate), hlimit]
    refine .late ?_
    intro delay r hr
    rw [hanswer, Coming.verdict, Coming.map_eq_some_iff] at hr
    obtain ⟨value, hvalue, -⟩ := hr
    exact hlate delay value hvalue

theorem andThen_follows {c : Conversation α} {next : α → Instant → Conversation β}
    (hnow : now ≤ deadline) (hc : c.Follows verdict deadline plan₁ now)
    (hnext : ∀ a t, t ≤ deadline → (next a t).Follows verdict deadline plan₂ t) :
    (c.andThen next).Follows verdict deadline (plan₁ ++ plan₂) now := by
  cases hvalue : c.value with
  | error e =>
    rw [Follows, hvalue] at hc
    rw [andThen_of_error hvalue]
    exact hc.append_of_failed plan₂
  | ok a =>
    have hin : c.time ≤ deadline := hc.time_le hnow
    rw [Follows, hvalue] at hc
    rw [andThen_of_ok hvalue]
    exact hc.append (hnext a c.time hin)

theorem mapLogged_follows {c : Conversation α} (f : α → Logged β)
    (hc : c.Follows verdict deadline plan now) :
    (c.mapLogged f).Follows verdict deadline plan now := by
  cases hvalue : c.value with
  | error e => simpa [Follows, mapLogged, hvalue, failureOf] using hc
  | ok a => simpa [Follows, mapLogged, hvalue, failureOf] using hc

end Conversation

/-! ### The conversations with the registries -/

/-- What comes back for a list, if it is given the time. -/
def Pd.Client.answer {α : Type} (c : Pd.Client) (peer : Pd.Peer) (l : Pd.Listing)
    (reader : Data.Reader α) (now : Instant) : Coming (Except TopologyError α) :=
  match c.target l with
  | .error e => .now (.error e)
  | .ok url => (peer l now).map (Pd.Reply.read url l reader)

theorem Pd.Client.get_eq_call {α : Type} (c : Pd.Client) (peer : Pd.Peer) (l : Pd.Listing)
    (reader : Data.Reader α) (deadline now : Instant) : c.get peer l reader deadline now =
      Conversation.call deadline now (.listing l) (c.answer peer l reader now) := by
  unfold get answer
  cases c.target l <;> rfl

/-- When a list comes, and the error that comes in its place. -/
def Pd.Client.verdict (c : Pd.Client) (peer : Pd.Peer) (l : Pd.Listing) (now : Instant) :
    Coming (Option TopologyError) :=
  match l with
  | .members => (c.answer peer .members Pd.membersReader now).verdict
  | .health => (c.answer peer .health Pd.healthReader now).verdict
  | .stores => (c.answer peer .stores Pd.storesReader now).verdict

namespace Cluster

/-- When the answer of a registry comes, and the error that it is. -/
def verdict (peers : Peers) (c : Clients) : Verdicts
  | .tidbEntries, now => Coming.verdict ((peers.etcd now).map Tidb.Reply.read)
  | .listing l, now => c.pd.verdict peers.pd l now

variable {peers : Peers} {c : Clients} {deadline now : Instant}

def callsOf : Nat → List Call
  | 0 => [.tidbEntries]
  | 1 => [.listing .members, .listing .health]
  | _ => [.listing .stores]

theorem list_follows {α : Type} {l : Pd.Listing} {reader : Data.Reader α} (hnow : now ≤ deadline)
    (hverdict : c.pd.verdict peers.pd l now = (c.pd.answer peers.pd l reader now).verdict) :
    (c.pd.get peers.pd l reader deadline now).Follows (verdict peers c) deadline [.listing l] now := by
  rw [Pd.Client.get_eq_call]
  exact Conversation.call_follows hnow hverdict

theorem servers_follow (hopen : c.etcd.isReleased = false) (hnow : now ≤ deadline) :
    (c.etcd.components peers.etcd peers.unixNanos deadline now).Follows (verdict peers c) deadline
      [.tidbEntries] now := by
  unfold Tidb.Client.components Tidb.Client.instances
  simp only [hopen, Bool.false_eq_true, if_false]
  refine Conversation.mapLogged_follows _ (Conversation.mapLogged_follows _ ?_)
  exact Conversation.call_follows hnow rfl

theorem members_follow (hnow : now ≤ deadline) :
    (c.pd.components peers.pd deadline now).Follows (verdict peers c) deadline
      [.listing .members, .listing .health] now := by
  unfold Pd.Client.components Pd.Client.instances
  refine Conversation.mapLogged_follows _ ?_
  have hfirst : (c.pd.members peers.pd deadline now).Follows (verdict peers c) deadline
      [.listing .members] now := list_follows hnow rfl
  refine Conversation.andThen_follows hnow hfirst ?_
  intro members t ht
  exact Conversation.mapLogged_follows _ (list_follows ht rfl)

theorem stores_follow (hnow : now ≤ deadline) :
    (c.pd.storeComponents peers.pd deadline now).Follows (verdict peers c) deadline
      [.listing .stores] now := by
  unfold Pd.Client.storeComponents Pd.Client.storeInstances
  refine Conversation.mapLogged_follows _ (Conversation.mapLogged_follows _ ?_)
  exact list_follows hnow rfl

/-- The query of a source goes as its calls do. -/
theorem query_follows (peers : Peers) (hopen : c.etcd.isReleased = false) (source : Nat)
    (hnow : now ≤ deadline) :
    (query peers c source now deadline).Follows (verdict peers c) deadline (callsOf source) now := by
  match source with
  | 0 => exact servers_follow hopen hnow
  | 1 => exact members_follow hnow
  | _ + 2 => exact stores_follow hnow

end Cluster

end ClusterTopology
