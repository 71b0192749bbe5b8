import ClusterTopology.Proofs.Discoverer.Cycles
import ClusterTopology.Proofs.Discoverer.Starts
/-!
One cycle at a time.

Starts race, loops panic and are spawned again, closes leave workers behind, and still the queries of a
run come one after the other.  The questions and answers of cycles are marks on a track, with the joins
and publications between them, and `Flight` says which tracks there can be: a cycle begins where the
one before has landed, and asks a source when the one before has answered.

`State.On` says of every place in which the tasks can be on which leg of its flight the cycle then is, and
which workers have been left behind.  It is the invariant: `State.On.step` goes by cases on the rules of
`Transition`, and says that a step adds its marks to the track so that the flight goes on, or leaves the
track as it is.  What a reader wants to know of a track, that the first query has a join and a publication
in front of it and that a later source has an answer of the one before, is read off `Flight` alone.
-/

namespace ClusterTopology.Discoverer

variable {setup : Setup}

/-! ### Tracks -/

/-- What a cycle does, as far as it matters for the order of queries. -/
inductive Mark where
  /-- The query of a source begins. -/
  | asked (source : Nat)
  | answered (o : Outcome)
  | joined
  | published
deriving DecidableEq, Repr

def markOf? : Effect → Option Mark
  | .queried source _ _ => some (.asked source)
  | .event (.published _ _) => some .published
  | _ => none

def Action.marks : Action → List Mark
  | .supervise _ (.control .join) => [.joined]
  | a => a.answers.map .answered

/-- The marks of a step: an answer comes before the question that follows it. -/
def marksOf (taken : Taken) : List Mark := taken.1.marks ++ taken.2.filterMap markOf?

def trackOf (tr : List Taken) : List Mark := tr.flatMap marksOf

inductive Leg where
  /-- No cycle has gone off, or the last one is published. -/
  | landed
  | asking (source : Nat)
  | found (source : Nat)
  /-- A source has failed. -/
  | failed
  | joined
deriving DecidableEq, Repr

/-- The tracks there can be, the latest mark first, with where they lead. -/
inductive Flight : List Mark → Leg → Prop where
  | nil : Flight [] .landed
  | first {ms : List Mark} (h : Flight ms .landed) : Flight (.asked 0 :: ms) (.asking 0)
  | found {ms : List Mark} {i : Nat} (s : Snapshot) (h : Flight ms (.asking i)) :
      Flight (.answered (.loaded s) :: ms) (.found i)
  | next {ms : List Mark} {i : Nat} (h : Flight ms (.found i)) :
      Flight (.asked (i + 1) :: ms) (.asking (i + 1))
  | failed {ms : List Mark} {i : Nat} {o : Outcome} (ho : ∀ s, o ≠ .loaded s)
      (h : Flight ms (.asking i)) : Flight (.answered o :: ms) .failed
  | joined {ms : List Mark} {leg : Leg} (hleg : leg = .landed ∨ leg = .failed ∨ ∃ i, leg = .found i)
      (h : Flight ms leg) : Flight (.joined :: ms) .joined
  | published {ms : List Mark} (h : Flight ms .joined) : Flight (.published :: ms) .landed

theorem Flight.earlier {later earlier : List Mark} {leg : Leg} (h : Flight (later ++ earlier) leg) :
    ∃ leg, Flight earlier leg := by
  induction later generalizing leg with
  | nil => exact ⟨leg, h⟩
  | cons m later ih => cases h <;> exact ih ‹_›

theorem Flight.before_landed {ms : List Mark} (h : Flight ms .landed) :
    ms = [] ∨ ∃ past, ms = .published :: .joined :: past := by
  cases h with
  | nil => exact .inl rfl
  | published h =>
    cases h with
    | joined hleg h => exact .inr ⟨_, rfl⟩

theorem Flight.before_found {ms : List Mark} {i : Nat} (h : Flight ms (.found i)) :
    ∃ s past, ms = .answered (.loaded s) :: .asked i :: past := by
  cases h with
  | found s h =>
    cases h with
    | first h => exact ⟨s, _, rfl⟩
    | next h => exact ⟨s, _, rfl⟩

/-- What comes before the first query of a cycle. -/
theorem Flight.before_first {later ms : List Mark} {leg : Leg}
    (h : Flight (later ++ .asked 0 :: ms) leg) :
    ms = [] ∨ ∃ past, ms = .published :: .joined :: past := by
  obtain ⟨leg, h⟩ := h.earlier
  cases h with
  | first h => exact h.before_landed

/-- What comes before the later queries of a cycle. -/
theorem Flight.before_next {later ms : List Mark} {leg : Leg} {i : Nat}
    (h : Flight (later ++ .asked (i + 1) :: ms) leg) :
    ∃ s past, ms = .answered (.loaded s) :: .asked i :: past := by
  obtain ⟨leg, h⟩ := h.earlier
  cases h with
  | next h => exact h.before_found

/-! ### Where tasks are on the way -/

def Worker.On (leg : Leg) : Worker → Prop
  | .spawned => leg = .landed
  | .asking a => leg = .asking a.position
  | .gathered _ => leg = .landed ∨ ∃ i, leg = .found i
  | .ended _ => leg = .landed ∨ leg = .failed ∨ ∃ i, leg = .found i

def Loop.On (leg : Leg) : Loop → Prop
  | .cycling _ w => w.On leg
  | .publishing _ _ => leg = .joined
  | .ended => True
  | _ => leg = .landed

/-- A supervisor that has no cycles to come can be anywhere: its last cycle may have been left behind. -/
def Supervisor.On (leg : Leg) : Supervisor → Prop
  | .watching l => l.On leg
  | .returned => True
  | _ => leg = .landed

structure State.On (leg : Leg) (s : State) : Prop where
  supervisors : ∀ v ∈ s.supervisors, v.On leg
  strays : ∀ w ∈ s.strays, w.On leg
  none : s.supervisors = [] → leg = .landed

theorem filterMap_markOf_ofEvents {events : List Event}
    (h : ∀ count components, .published count components ∉ events) :
    (Effect.ofEvents events).filterMap markOf? = [] := by
  rw [List.filterMap_eq_nil_iff]
  intro e he
  obtain ⟨event, hevent, rfl⟩ := List.mem_map.mp he
  cases event with
  | published count components => exact absurd hevent (h count components)
  | _ => rfl

/-- A step of a worker brings its cycle on. -/
theorem Worker.Goes.flies {sh : Shared} {m : WorkerMove} {w : Worker} {t : Turn Worker} {leg : Leg}
    {ms : List Mark} (hgoes : Goes setup sh m w t) (hon : w.On leg) (hflight : Flight ms leg) :
    ∃ leg', Flight ((m.answers.map Mark.answered ++ t.effects.filterMap markOf?).reverse ++ ms)
      leg' ∧ t.task.On leg' := by
  cases hgoes with
  | overflow _ => exact ⟨leg, hflight, .inl hon⟩
  | begin _ =>
    obtain rfl : leg = .landed := hon
    cases hsources : setup.sources with
    | nil => exact ⟨.landed, hflight, .inl rfl⟩
    | cons name rest => exact ⟨.asking 0, .first hflight, rfl⟩
  | answer a o =>
    obtain rfl : leg = .asking a.position := hon
    cases o with
    | loaded s =>
      have hfound : Flight (.answered (.loaded s) :: ms) (.found a.position) := .found s hflight
      cases hrest : a.rest with
      | nil =>
        refine ⟨.found a.position, ?_, ?_⟩
        · simpa [Aggregation.answer, Aggregation.ask, hrest, enter, WorkerMove.answers,
            Effect.ofEvents, markOf?, List.filterMap_cons] using hfound
        · simp [Aggregation.answer, Aggregation.ask, hrest, enter, On]
      | cons name rest =>
        refine ⟨.asking (a.position + 1), ?_, ?_⟩
        · simpa [Aggregation.answer, Aggregation.ask, hrest, enter, WorkerMove.answers,
            Effect.ofEvents, markOf?, List.filterMap_cons] using hfound.next
        · simp [Aggregation.answer, Aggregation.ask, hrest, enter, On]
    | failed e => exact ⟨.failed, .failed (by simp) hflight, .inr (.inl rfl)⟩
    | panicked p => exact ⟨.failed, .failed (by simp) hflight, .inr (.inl rfl)⟩
  | store s =>
    refine ⟨leg, hflight, ?_⟩
    rcases hon with hlanded | hfound
    · exact .inl hlanded
    · exact .inr (.inr hfound)

theorem marksOf_eq_nil {a : Action} {es : List Effect} (ha : a.marks = [])
    (hes : es.filterMap markOf? = []) : marksOf (a, es) = [] := by
  simp [marksOf, ha, hes]

theorem marksOf_report (count components : Nat) (isFirst : Bool) (o : Outcome) :
    marksOf (.supervise 0 (.control .report),
      Effect.ofEvents (.published count components :: Loop.cycleEvents isFirst o)) = [.published] := by
  cases o <;> cases isFirst <;> rfl

/-- A step of the control loop brings its cycle on, and a worker that it leaves behind is where the
cycle is. -/
theorem Loop.Goes.flies {sh : Shared} {m : LoopMove} {l : Loop} {t : Turn Loop} {leg : Leg}
    {ms : List Mark} (hgoes : Goes setup sh m l t) (hon : l.On leg) (hflight : Flight ms leg) :
    ∃ leg', Flight ((marksOf (.supervise 0 (.control m), t.effects)).reverse ++ ms) leg' ∧
      t.task.On leg' ∧ ∀ w ∈ t.strays, w.On leg' := by
  have hstay {l' : Loop} {strays : List Worker} (hes : t.effects.filterMap markOf? = [])
      (ha : (Action.supervise 0 (.control m)).marks = []) (hon' : l'.On leg)
      (hstrays : ∀ w ∈ strays, w.On leg) :
      ∃ leg', Flight ((marksOf (.supervise 0 (.control m), t.effects)).reverse ++ ms) leg' ∧
        l'.On leg' ∧ ∀ w ∈ strays, w.On leg' := by
    rw [marksOf_eq_nil ha hes]
    exact ⟨leg, hflight, hon', hstrays⟩
  cases hgoes with
  | launch => exact hstay rfl rfl hon (by simp [Turn.quiet])
  | work ticker hgoes =>
    obtain ⟨leg', hflight', hon'⟩ := hgoes.flies hon hflight
    refine ⟨leg', hflight', hon', ?_⟩
    cases hgoes <;> simp [Turn.map, Turn.quiet]
  | join ticker o =>
    refine ⟨.joined, ?_, rfl, by simp [Turn.reporting]⟩
    have hnone : (Effect.ofEvents (workerEvents o)).filterMap markOf? = [] := by
      apply filterMap_markOf_ofEvents
      cases o <;> simp [workerEvents]
    simpa [marksOf, Action.marks, Turn.reporting, hnone] using hflight.joined hon
  | abandon ticker w hclosed =>
    refine hstay ?_ rfl trivial ?_
    · cases ticker <;> rfl
    · intro w' hw'
      rw [List.mem_singleton.mp hw']
      exact hon
  | deposit ticker f h => exact hstay rfl rfl hon (by simp)
  | report h hdue =>
    obtain rfl : leg = .joined := hon
    refine ⟨.landed, ?_, rfl, by simp [Turn.reporting]⟩
    simpa [Turn.reporting, marksOf_report] using hflight.published
  | reportOverflow h hadd =>
    obtain rfl : leg = .joined := hon
    refine ⟨.landed, ?_, rfl, by simp [Turn.reporting]⟩
    simpa [Turn.reporting, marksOf_report] using hflight.published
  | @stop l due notified hwaits hclosed => exact hstay rfl rfl trivial (by simp [Turn.reporting])
  | @tick l due notified hwaits hdue =>
    obtain rfl : leg = .landed := by cases hwaits <;> exact hon
    exact hstay rfl rfl rfl (by simp [Turn.quiet])
  | refreshStored due h => exact hstay rfl rfl hon (by simp [Turn.reporting])
  | refreshWoken due => exact hstay rfl rfl hon (by simp [Turn.reporting])
  | park due hopen hdue hpermit => exact hstay rfl rfl hon (by simp [Turn.quiet])
  | @crash l due notified hwaits p =>
    obtain rfl : leg = .landed := by cases hwaits <;> exact hon
    exact hstay rfl rfl rfl (by simp [Turn.quiet])

theorem Supervisor.Goes.flies {sh : Shared} {m : SupervisorMove} {v : Supervisor}
    {t : Turn Supervisor} {leg : Leg} {ms : List Mark} (hgoes : Goes setup sh m v t) (hon : v.On leg)
    (hflight : Flight ms leg) :
    ∃ leg', Flight ((marksOf (.supervise 0 m, t.effects)).reverse ++ ms) leg' ∧
      t.task.On leg' ∧ ∀ w ∈ t.strays, w.On leg' := by
  cases hgoes with
  | spawn => exact ⟨leg, hflight, hon, by simp [Turn.quiet]⟩
  | control hgoes => exact hgoes.flies hon hflight
  | finish => exact ⟨leg, hflight, trivial, by simp [Turn.quiet]⟩
  | pause p => exact ⟨leg, hflight, hon, by simp [Turn.reporting]⟩
  | wake h => exact ⟨leg, hflight, hon, by simp [Turn.quiet]⟩
  | leave time hclosed => exact ⟨leg, hflight, trivial, by simp [Turn.quiet]⟩

theorem marksOf_of_isOfClient {a : Action} {es : List Effect} (ha : a.isOfClient = true)
    (hes : ∀ e ∈ es, e.isOfClient = true) : marksOf (a, es) = [] := by
  refine marksOf_eq_nil ?_ ?_
  · cases a <;> first | rfl | cases ha
  · rw [List.filterMap_eq_nil_iff]
    intro e he
    have hclient := hes e he
    cases e with
    | event event => cases event <;> first | rfl | cases hclient
    | _ => first | rfl | cases hclient

theorem Supervisor.IsOver.on {v : Supervisor} (h : v.IsOver) (leg : Leg) : v.On leg := by
  cases v with
  | watching l =>
    cases l with
    | ended => trivial
    | _ => exact h.elim
  | returned => trivial
  | _ => exact h.elim

theorem Supervisor.Served.on {vs vs' : List Supervisor} {leg : Leg} (h : Served vs vs')
    (hon : ∀ v ∈ vs, v.On leg) (hnone : vs = [] → leg = .landed) :
    (∀ v ∈ vs', v.On leg) ∧ (vs' = [] → leg = .landed) := by
  cases h with
  | kept vs => exact ⟨hon, hnone⟩
  | spawned =>
    refine ⟨?_, by simp⟩
    intro v hv
    rw [List.mem_singleton.mp hv]
    exact hnone rfl
  | woken due =>
    refine ⟨?_, by simp⟩
    intro v hv
    rw [List.mem_singleton.mp hv]
    exact hon (.watching (.parked due false)) (List.mem_singleton_self _)

theorem State.On.new (now : Instant) : (State.new now).On .landed := by
  refine ⟨?_, ?_, fun _ => rfl⟩
  · intro v hv
    cases hv
  · intro w hw
    cases hw

/-- **A step brings the one cycle there is on its way, or leaves it where it is.** -/
theorem State.On.step {s s' : State} {a : Action} {es : List Effect} {cs : List Cycle} {leg : Leg}
    {ms : List Mark} (hsole : s.IsSole) (hstanding : Standing setup.sources.length s cs)
    (hon : s.On leg) (hflight : Flight ms leg) (hgoes : Goes setup s a s' es) :
    ∃ leg', Flight ((marksOf (a, es)).reverse ++ ms) leg' ∧ s'.On leg' := by
  cases hgoes.taskStep hsole with
  | @supervise m v t hv hmoves =>
    have hone := adopt_supervisors hv t
    rcases hstanding.strays_cases with hstrays | ⟨v', w, hv', hover, hstrays⟩
    · obtain ⟨leg', hflight', htask, hleft⟩ :=
        hmoves.flies (hon.supervisors v (by simp [hv])) hflight
      refine ⟨leg', hflight', ?_, ?_, ?_⟩
      · simpa [hone] using htask
      · simpa [adopt, hstrays] using hleft
      · simp [hone]
    · -- a worker has been left behind, so the supervisor only ends
      obtain rfl : v' = v := by simpa [hv'] using hv
      obtain ⟨rfl, rfl⟩ := hmoves.over hover
      refine ⟨leg, hflight, ?_, ?_, ?_⟩
      · intro v hv
        rw [hone, List.mem_singleton] at hv
        rw [hv]
        trivial
      · simpa [adopt, Turn.quiet] using hon.strays
      · simp [hone]
  | @stray j m w t hw hmoves =>
    rcases hstanding.strays_cases with hstrays | ⟨v, w', hv, hover, hstrays⟩
    · simp [hstrays] at hw
    · have hmem : w ∈ s.strays := List.mem_of_getElem? hw
      obtain ⟨leg', hflight', htask⟩ := hmoves.flies (hon.strays w hmem) hflight
      refine ⟨leg', hflight', ?_, ?_, by simp [hv]⟩
      · simpa [hv] using hover.on leg'
      · obtain ⟨rfl, -⟩ : j = 0 ∧ w' = w := by simpa [hstrays, List.getElem?_singleton] using hw
        simpa [hstrays] using htask
  | discard hj =>
    refine ⟨leg, hflight, hon.supervisors, ?_, hon.none⟩
    intro w hw
    exact hon.strays w (List.mem_of_mem_eraseIdx hw)
  | client hclient hcurrent hstrays hserved hes =>
    rw [marksOf_of_isOfClient hclient hes]
    obtain ⟨hsupervisors, hnone⟩ := hserved.on hon.supervisors hon.none
    exact ⟨leg, hflight, hsupervisors, hstrays ▸ hon.strays, hnone⟩

/-- The track of a run is a flight. -/
theorem flight_of_run {now : Instant} {as : List Action} {s : State} {es : List Effect}
    (hrun : run setup (State.new now) as = some (s, es)) :
    ∃ leg, Flight (trackOf (trace setup (State.new now) as)).reverse leg := by
  have hkept := reached_induction
    (P := fun s tr => Standing setup.sources.length s (cyclesOf tr) ∧
      ∃ leg, Flight (trackOf tr).reverse leg ∧ s.On leg)
    ⟨.idle .nil rfl (by simp [State.new]), .landed, .nil, .new now⟩ ?_ hrun
  · obtain ⟨⟨-, leg, hflight, -⟩, -⟩ := hkept
    exact ⟨leg, hflight⟩
  · intro s s' tr a es hsole h hgoes
    obtain ⟨hstanding, leg, hflight, hon⟩ := h
    obtain ⟨leg', hflight', hon'⟩ := hon.step hsole hstanding hflight hgoes
    refine ⟨?_, leg', ?_, hon'⟩
    · rw [cyclesOf_append_singleton]
      exact (hstanding.step hsole hgoes).1
    · simpa [trackOf] using hflight'

/-! ### At most one of each -/

/-- Whether a supervisor waits for a live control loop. -/
def Supervisor.isLooping : Supervisor → Bool
  | .watching l => l.isAlive
  | _ => false

def Supervisor.worker? : Supervisor → Option Worker
  | .watching (.cycling _ w) => some w
  | _ => none

theorem Supervisor.IsOver.not_isLooping {v : Supervisor} (h : v.IsOver) : v.isLooping = false := by
  cases v with
  | watching l =>
    cases l with
    | ended => rfl
    | _ => exact h.elim
  | _ => rfl

/-- Live control loops and workers left behind are one together. -/
theorem Standing.countP_isLooping {n : Nat} {s : State} {cs : List Cycle} (hsole : s.IsSole)
    (h : Standing n s cs) : s.supervisors.countP Supervisor.isLooping + s.strays.length ≤ 1 := by
  rcases h.strays_cases with hnone | ⟨v, w, hv, hover, hstrays⟩
  · have hle := List.countP_le_length (p := Supervisor.isLooping) (l := s.supervisors)
    rcases hsole.nil_or_singleton with hnil | ⟨v, hv⟩
    · simp [hnone, hnil]
    · rw [hv] at hle
      simpa [hnone, hv] using hle
  · simp [hv, hstrays, hover.not_isLooping]

/-- **One cycle at a time.**  Of all starts one comes back well, once it is no longer under way, and all
others are refused; a start under way can always come back.  There is never more than one live
control loop, nor more than one worker that is not left behind, nor a worker left behind beside a
live loop.  The first query of a cycle is the first of all, or what comes right before it is that the
cycle before has been joined and published; and the query of each other source follows right after the
answer of the source before it, which has found something out. -/
theorem one_cycle_at_a_time {now : Instant} {as : List Action} {s : State} {es : List Effect}
    (hrun : run setup (State.new now) as = some (s, es)) :
    (es.count (.returned .started) + s.starts = min (as.countP Action.isStart) 1 ∧
      es.count (.returned .alreadyStarted) = as.countP Action.isStart - 1 ∧
      ∀ k c, s.calls[k]? = some c → c.isStart = true →
        ∃ n s' es', run setup s (List.replicate n (.proceed k)) = some (s', es') ∧
          .returned .started ∈ es') ∧
    (s.supervisors.countP Supervisor.isLooping + s.strays.length ≤ 1 ∧
      (s.supervisors.filterMap Supervisor.worker?).length ≤ 1) ∧
    (∀ past rest, trackOf (trace setup (State.new now) as) = past ++ .asked 0 :: rest →
      past = [] ∨ ∃ before, past = before ++ [.joined, .published]) ∧
    ∀ i past rest, trackOf (trace setup (State.new now) as) = past ++ .asked (i + 1) :: rest →
      ∃ before found, past = before ++ [.asked i, .answered (.loaded found)] := by
  have hsole : s.IsSole := isSole_of_reaches ⟨now, as, hrun⟩
  obtain ⟨-, -, hreturned, hrefused⟩ := startsStand_of_run hrun
  obtain ⟨leg, hflight⟩ := flight_of_run hrun
  have hsplit {past rest : List Mark} {m : Mark}
      (htrack : trackOf (trace setup (State.new now) as) = past ++ m :: rest) :
      Flight (rest.reverse ++ m :: past.reverse) leg := by
    simpa [htrack] using hflight
  refine ⟨⟨hreturned, hrefused, ?_⟩, ⟨?_, ?_⟩, ?_, ?_⟩
  · intro k c hcall hc
    exact exists_run_of_start hcall hc
  · exact (standing_of_run hrun).1.countP_isLooping hsole
  · have hle := List.length_filterMap_le Supervisor.worker? s.supervisors
    rcases hsole.nil_or_singleton with hnil | ⟨v, hv⟩
    · simp [hnil]
    · simpa [hv] using hle
  · intro past rest htrack
    rcases (hsplit htrack).before_first with hnone | ⟨before, hbefore⟩
    · exact .inl (List.reverse_eq_nil_iff.mp hnone)
    · exact .inr ⟨before.reverse, by simpa using List.reverse_eq_iff.mp hbefore⟩
  · intro i past rest htrack
    obtain ⟨found, before, hbefore⟩ := (hsplit htrack).before_next
    exact ⟨before.reverse, found, by simpa using List.reverse_eq_iff.mp hbefore⟩

/-- Two starts that race, a cycle, a panic of the control loop, a cycle of the next loop, and one that a
close leaves behind while its second source is asked. -/
def racingRun : List Action :=
  let work (m : WorkerMove) : Action := loopStep (.work m)
  [.start, .start, .proceed 0, .proceed 0, .supervise 0 .spawn, loopStep .launch, work .begin,
    work (.answer (.loaded [])), work (.answer (.loaded [])), work .store, loopStep .join,
    loopStep .report, loopStep (.crash .other), .supervise 0 .observe, .elapse Supervisor.backoff,
    .supervise 0 .wake, .supervise 0 .spawn, loopStep .launch, work .begin,
    work (.answer (.panicked .other)), loopStep .join, loopStep .report, .elapse 10, .close,
    loopStep .tick, work .begin, work (.answer (.loaded [])), loopStep .abandon,
    .stray 0 (.answer (.loaded [])), .supervise 0 .observe, .start]

def lastFlight : List Mark :=
  [.asked 0, .answered (.loaded []), .asked 1, .answered (.loaded [])]

theorem racingRun_flies_one_at_a_time :
    ∃ s es, run twoSources (State.new 0) racingRun = some (s, es) ∧
      es.count (.returned .started) = 1 ∧ es.count (.returned .alreadyStarted) = 2 ∧
      s.supervisors.countP Supervisor.isLooping + s.strays.length ≤ 1 ∧
      ∃ before, trackOf (trace twoSources (State.new 0) racingRun) =
        before ++ [.joined, .published] ++ lastFlight := by
  have hend : (run twoSources (State.new 0) racingRun).map (fun r => r.1.starts) = some 0 := by
    decide +kernel
  obtain ⟨⟨s, es⟩, hrun, hdone⟩ := Option.map_eq_some_iff.mp hend
  have hmade : racingRun.countP Action.isStart = 3 := rfl
  obtain ⟨⟨hstarted, hrefused, -⟩, ⟨hlive, -⟩, hfirst, -⟩ := one_cycle_at_a_time hrun
  rw [hmade, hdone] at hstarted
  rw [hmade] at hrefused
  have htrack : trackOf (trace twoSources (State.new 0) racingRun) =
      (trackOf (trace twoSources (State.new 0) racingRun)).take 10 ++ lastFlight := by
    decide +kernel
  have hsome : (trackOf (trace twoSources (State.new 0) racingRun)).take 10 ≠ [] := by
    decide +kernel
  refine ⟨s, es, hrun, hstarted, hrefused, hlive, ?_⟩
  rcases hfirst _ _ htrack with hnone | ⟨before, hbefore⟩
  · exact absurd hnone hsome
  · exact ⟨before, hbefore ▸ htrack⟩

end ClusterTopology.Discoverer
