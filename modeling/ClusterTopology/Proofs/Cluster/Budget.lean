import ClusterTopology.Discoverer
import ClusterTopology.Proofs.Cluster.AllOrNothing
import ClusterTopology.Proofs.Cluster.Composition
import ClusterTopology.Proofs.Cluster.Course
/-!
The time that a cycle of a cluster takes.

A worker takes one answer at a time and does not know when it will come.  When each source answers as soon as it
is ready, the worker goes through the same queries at the same times as an aggregation that asks all sources in
one go, and comes to the same (`Worker.Completes`).

All calls of a cycle share one deadline, an interval after the cycle begins.  A cycle therefore goes as one row
of calls does, across the borders of the sources: it is over by the deadline, the calls that it makes are those
that succeed and the first that does not, and that one says what the cycle fails with.

`cycleCalls` is that row, known before the cycle begins.  An aggregation over the three sources follows the
course of its calls because every query does (`Proofs.Cluster.Course`) and because a query is begun where
the one before has ended.  `CycleEndsAfter` puts into one statement what a course says of a whole cycle.
-/

/-! ## Workers in virtual time -/

namespace ClusterTopology.Discoverer

variable {ω κ : Type} (S : Sources ω κ) (setup : Setup) (sh : Shared)

namespace Worker

/-- How a worker goes on from a time and a memory of the sources on, each source answering as soon as it
is ready, until the worker waits for no source any more. -/
inductive Asks : Worker → Instant → ω → Sources.Pass ω Worker → Prop where
  | over (o : Outcome) (now : Instant) (m : ω) :
      Asks (enter now (.ended o)).1 now m ⟨now, (enter now (.ended o)).1, m, []⟩
  | answered {a : Aggregation} {now : Instant} {m : ω} {t : Turn Worker} {p : Sources.Pass ω Worker}
      (hmove : (asking a).move setup
        { sh with now := S.ready (S.begin m a.position now a.deadline) }
        (.answer (S.finish m (S.begin m a.position now a.deadline)).1.value) = some t)
      (hrest : Asks t.task (S.ready (S.begin m a.position now a.deadline))
        (S.finish m (S.begin m a.position now a.deadline)).2 p) :
      Asks (asking a) now m
        (p.after (Effect.ofEvents (S.finish m (S.begin m a.position now a.deadline)).1.events ++
          t.effects))

/-- A worker that begins now goes through a pass over the sources. -/
def Completes (m : ω) (p : Sources.Pass ω Outcome) : Prop :=
  ∃ t more, spawned.move setup sh .begin = some t ∧
    Asks S setup sh t.task sh.now m ⟨p.time, (enter p.time (.ended p.value)).1, p.memory, more⟩ ∧
    p.effects = t.effects ++ more

variable {S setup sh}

/-- The source that a worker waits for answers, and the worker goes on from what follows the answer. -/
theorem Asks.next (a : Aggregation) {now : Instant} {m : ω} {p : Sources.Pass ω Worker} {o : Outcome}
    (ho : (S.finish m (S.begin m a.position now a.deadline)).1.value = o)
    (hrest : Asks S setup sh (enter (S.ready (S.begin m a.position now a.deadline)) (a.answer o).value).1
      (S.ready (S.begin m a.position now a.deadline))
      (S.finish m (S.begin m a.position now a.deadline)).2 p) :
    Asks S setup sh (asking a) now m
      (p.after (Effect.ofEvents (S.finish m (S.begin m a.position now a.deadline)).1.events ++
        (Effect.ofEvents (a.answer o).events ++
          (enter (S.ready (S.begin m a.position now a.deadline)) (a.answer o).value).2))) := by
  subst ho
  exact .answered rfl hrest

variable (S setup sh)

/-- A worker at any place of its aggregation does what asking the sources from there on does. -/
theorem asks_askFrom (deadline : Instant) (names : List String) (position : Nat) (found : Snapshot)
    (now : Instant) (m : ω) :
    ∃ more, Asks S setup sh (enter now (Aggregation.ask deadline found position names)).1 now m
        ⟨(S.askFrom deadline names position found now m).time,
          (enter (S.askFrom deadline names position found now m).time
            (.ended (S.askFrom deadline names position found now m).value)).1,
          (S.askFrom deadline names position found now m).memory, more⟩ ∧
      (S.askFrom deadline names position found now m).effects =
        (enter now (Aggregation.ask deadline found position names)).2 ++ more := by
  -- the worker has been put before the sources that are left, and waits for the first of them
  induction names generalizing position found now m with
  | nil => exact ⟨[], .over (.loaded found) now m, rfl⟩
  | cons name rest ih =>
    cases hvalue : (S.finish m (S.begin m position now deadline)).1.value with
    | loaded part =>
      obtain ⟨more, hasks, heffects⟩ := ih (position + 1) (found ++ part)
        (S.ready (S.begin m position now deadline)) (S.finish m (S.begin m position now deadline)).2
      rw [S.askFrom_cons_of_loaded hvalue]
      refine ⟨_, Asks.next ⟨deadline, found, position, name, rest⟩ hvalue hasks, ?_⟩
      simp [Sources.Pass.after, heffects, Aggregation.ask, Aggregation.answer, enter, Effect.ofEvents]
    | failed e =>
      rw [S.askFrom_cons_of_failed hvalue]
      refine ⟨_, Asks.next ⟨deadline, found, position, name, rest⟩ hvalue (.over (.failed e) _ _), ?_⟩
      simp [Aggregation.ask, Aggregation.answer, enter, Effect.ofEvents]
    | panicked p =>
      rw [S.askFrom_cons_of_panicked hvalue]
      refine ⟨_, Asks.next ⟨deadline, found, position, name, rest⟩ hvalue (.over (.panicked p) _ _), ?_⟩
      simp [Aggregation.ask, Aggregation.answer, enter, Effect.ofEvents]

/-- **A worker does what an aggregation does** that has an interval's time from when it begins. -/
theorem completes_aggregate {deadline : Instant}
    (hclock : Instant.add? sh.now setup.interval = some deadline) {m : ω}
    (hnames : S.names m = setup.sources) :
    Completes S setup sh m (S.aggregate deadline sh.now m) := by
  obtain ⟨more, hasks, heffects⟩ := asks_askFrom S setup sh deadline setup.sources 0 [] sh.now m
  rw [Completes, Sources.aggregate, hnames]
  refine ⟨⟨(enter sh.now (Aggregation.ask deadline [] 0 setup.sources)).1, sh,
    (enter sh.now (Aggregation.ask deadline [] 0 setup.sources)).2, []⟩, more, ?_, hasks, heffects⟩
  simp only [move, hclock]
  rfl

end Worker

end ClusterTopology.Discoverer

/-! ## Cycles in virtual time -/

namespace ClusterTopology.Cluster

open Discoverer (Setup Shared Worker)

variable {peers : Peers} {c : Clients} {deadline now : Instant}

/-! ### The calls of a cycle -/

def callsFrom : List String → Nat → List Call
  | [], _ => []
  | _ :: rest, source => callsOf source ++ callsFrom rest (source + 1)

def cycleCalls : List Call :=
  [.tidbEntries, .listing .members, .listing .health, .listing .stores]

theorem callsFrom_sourceNames : callsFrom sourceNames 0 = cycleCalls := rfl

/-- The calls that are made in what is done: those of the queries that begin there. -/
def callsMade (peers : Peers) (c : Clients) (effects : List Effect) : List (Call × Instant) :=
  effects.flatMap fun
    | .queried source now deadline => (query peers c source now deadline).calls
    | _ => []

theorem callsMade_append (es more : List Effect) :
    callsMade peers c (es ++ more) = callsMade peers c es ++ callsMade peers c more :=
  List.flatMap_append

theorem callsMade_queried (source : Nat) (es : List Event) :
    callsMade peers c (.queried source now deadline :: Effect.ofEvents es) =
      (query peers c source now deadline).calls := by
  have hnone : callsMade peers c (Effect.ofEvents es) = [] := by
    rw [callsMade, Effect.ofEvents, List.flatMap_map, List.flatMap_eq_nil_iff]
    intro e he
    rfl
  rw [← List.singleton_append, callsMade_append, hnone]
  simp [callsMade]

/-! ### How a cycle goes -/

/-- What asking the sources ends with, by whether a call has failed. -/
def Tells (failure : Option TopologyError) (o : Outcome) : Prop :=
  match failure with
  | none => ∃ s, o = .loaded s
  | some e => o = .failed e

/-- Asking the sources from a place on goes as their calls do. -/
theorem askFrom_follows (peers : Peers) (hopen : c.etcd.isReleased = false) (names : List String)
    (source : Nat) (found : Snapshot) (hnow : now ≤ deadline) :
    ∃ failure, Course (verdict peers c) deadline (callsFrom names source) now
        (callsMade peers c ((sources peers).askFrom deadline names source found now c).effects)
        ((sources peers).askFrom deadline names source found now c).time failure ∧
      Tells failure ((sources peers).askFrom deadline names source found now c).value := by
  induction names generalizing source found now with
  | nil => exact ⟨none, .done now, found, rfl⟩
  | cons name rest ih =>
    have hquery := query_follows peers hopen source hnow
    cases hvalue : (query peers c source now deadline).value with
    | error e =>
      have hfailed : ((sources peers).finish c ((sources peers).begin c source now deadline)).1.value =
          .failed e := by
        simp [sources, Conversation.outcome, hvalue]
      rw [Conversation.Follows, hvalue] at hquery
      rw [(sources peers).askFrom_cons_of_failed hfailed, callsMade_queried]
      exact ⟨some e, hquery.append_of_failed _, rfl⟩
    | ok part =>
      have hloaded : ((sources peers).finish c ((sources peers).begin c source now deadline)).1.value =
          .loaded part := by
        simp [sources, Conversation.outcome, hvalue]
      have hin : (query peers c source now deadline).time ≤ deadline := hquery.time_le hnow
      rw [Conversation.Follows, hvalue] at hquery
      rw [(sources peers).askFrom_cons_of_loaded hloaded, Sources.Pass.after, callsMade_append,
        callsMade_queried]
      obtain ⟨failure, hrest, htells⟩ := ih (source + 1) (found ++ part) hin
      exact ⟨failure, hquery.append hrest, htells⟩

/-- How a cycle ends after the first of its calls have succeeded and taken these times: with a snapshot when
these were all calls, and else as the call after them fails. -/
def CycleEndsAfter (peers : Peers) (c : Clients) (start : Instant) (interval : Duration)
    (delays : List Duration) (time : Instant) (o : Outcome) : Prop :=
  match cycleCalls[delays.length]? with
  | none => time = start + delays.sum ∧ ∃ s, o = .loaded s
  | some call => ∃ e, o = .failed e ∧
      CallFails (verdict peers c) (start + interval) call (start + delays.sum) time e

/-- **One deadline bounds the whole cycle.**  A cycle of a cluster whose sources are open goes through the
four calls in turn, whenever and however each of them is answered.  It is over an interval after it has
begun.  The calls that it makes are those that succeed, whose times have a sum within the interval, and
the first that does not.  When all four succeed there is a snapshot; else the cycle fails with the error
of that one call, when it has come, or at the deadline with a timeout that names the call and tells what
the calls before have left of the interval.  This is what a worker of a discoverer goes through that
begins then, if the clock can show the deadline. -/
theorem cycle_has_one_deadline (peers : Peers) (c : Clients) (hopen : c.etcd.isReleased = false)
    (start : Instant) (interval : Duration) :
    ((sources peers).aggregate (start + interval) start c).time ≤ start + interval ∧
    (∃ delays, Succeed (verdict peers c) cycleCalls start delays ∧ delays.sum ≤ interval ∧
      callsMade peers c ((sources peers).aggregate (start + interval) start c).effects =
        cycleCalls.zip (delays.scanl (· + ·) start) ∧
      CycleEndsAfter peers c start interval delays
        ((sources peers).aggregate (start + interval) start c).time
        ((sources peers).aggregate (start + interval) start c).value) ∧
    ∀ (setup : Setup) (sh : Shared), setup.sources = sourceNames → setup.interval = interval →
      sh.now = start → Instant.add? start interval = some (start + interval) →
      Worker.Completes (sources peers) setup sh c
        ((sources peers).aggregate (start + interval) start c) := by
  have hnow : start ≤ start + interval := Nat.le_add_right start interval
  obtain ⟨failure, hcourse, htells⟩ :=
    askFrom_follows peers hopen sourceNames 0 [] hnow
  rw [callsFrom_sourceNames] at hcourse
  refine ⟨hcourse.time_le hnow, ?_, ?_⟩
  · obtain ⟨delays, hsucceed, hsum, hmade, hends⟩ := hcourse.exists_delays hnow
    refine ⟨delays, hsucceed, Nat.le_of_add_le_add_left hsum, hmade, ?_⟩
    unfold CycleEndsAfter
    unfold EndsAfter at hends
    cases hcall : cycleCalls[delays.length]? with
    | none =>
      simp only [hcall] at hends
      obtain ⟨htime, rfl⟩ := hends
      exact ⟨htime, htells⟩
    | some call =>
      simp only [hcall] at hends
      obtain ⟨e, hfails, rfl⟩ := hends
      exact ⟨e, htells, hfails⟩
  · rintro setup sh hsources rfl rfl hclock
    exact Worker.completes_aggregate (sources peers) setup sh hclock hsources.symm

/-- The registries of a small cluster, where the health of the members is never told. -/
def hungPeers : Peers :=
  { smallPeers with pd := fun l now => if l = .health then none else smallPeers.pd l now }

/-- The third call waits for what is left of the interval, and the fourth is not made. -/
theorem hungHealth_fails_the_cycle : smallClients.etcd.isReleased = false ∧
    callsMade hungPeers smallClients
        ((sources hungPeers).aggregate (5 + 10) 5 smallClients).effects =
      [(.tidbEntries, 5), (.listing .members, 6), (.listing .health, 7)] ∧
    ((sources hungPeers).aggregate (5 + 10) 5 smallClients).time = 15 ∧
    ((sources hungPeers).aggregate (5 + 10) 5 smallClients).value =
      .failed (.timeout 8 "GET /health") := by
  obtain ⟨-, ⟨delays, hsucceed, -, hmade, hends⟩, -⟩ :=
    cycle_has_one_deadline hungPeers smallClients rfl 5 10
  have hentries : verdict hungPeers smallClients .tidbEntries 5 = some ⟨1, none⟩ := rfl
  have hmembers : verdict hungPeers smallClients (.listing .members) 6 = some ⟨1, none⟩ := by
    decide +kernel
  have hhealth : verdict hungPeers smallClients (.listing .health) 7 = none := by decide +kernel
  have hdelays : delays = [1, 1] := by
    cases hsucceed with
    | nil =>
      obtain ⟨e, -, hfails⟩ := hends
      exact absurd hfails (not_callFails_of_succeeds hentries (by decide))
    | cons hanswer hrest =>
      obtain rfl := congrArg Delayed.delay (Option.some.inj (hanswer.symm.trans hentries))
      cases hrest with
      | nil =>
        obtain ⟨e, -, hfails⟩ := hends
        exact absurd hfails (not_callFails_of_succeeds hmembers (by decide))
      | cons hanswer hrest =>
        obtain rfl := congrArg Delayed.delay (Option.some.inj (hanswer.symm.trans hmembers))
        cases hrest with
        | nil => rfl
        | cons hanswer hrest => exact absurd (hanswer.symm.trans hhealth) (by simp)
  subst hdelays
  obtain ⟨e, hvalue, hfails⟩ := hends
  generalize ((sources hungPeers).aggregate (5 + 10) 5 smallClients).time = time at hfails ⊢
  cases hfails with
  | failed hanswer => exact absurd (hanswer.symm.trans hhealth) (by simp)
  | late hlate => exact ⟨rfl, hmade, rfl, hvalue⟩

end ClusterTopology.Cluster
