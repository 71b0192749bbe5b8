import ClusterTopology.Config.Basic
import ClusterTopology.Proofs.Discoverer.Ticks
import ClusterTopology.Proofs.Discoverer.Cycles
import ClusterTopology.Proofs.Discoverer.Starts
/-!
What a period that the clock cannot show does to a discoverer.

A cycle adds the period to the clock for its deadline, and a control loop does for its first tick.  As long
as both sums can be shown nothing panics that does not panic by itself.  When the period is too long for
the clock, and no configuration is refused for that, every cycle panics before it asks a source, and every
loop panics before it comes to its wait.

The two halves have the same shape.  `isCalm` says of an action that it brings no panic with it, and of a
place that none has come to it; every step keeps that as long as the sums have a reading at the end of the
run, since the clock only moves forward.  `Idle` is the opposite invariant: no worker has asked anybody, no
loop has come to its wait, and what is published is empty, which every step keeps once the sums have no
reading.  The last part finds both cases among the configurations that are accepted, where the period is any
number of seconds that 64 bits can hold but zero.
-/

namespace ClusterTopology

/-- Whether an effect is the report of a panic, of a cycle or of the control loop. -/
def Effect.isPanic : Effect → Bool
  | .event (.cyclePanicked _) | .event (.loopPanicked _) => true
  | _ => false

theorem Effect.not_isPanic_of_isOfClient {e : Effect} (h : e.isOfClient = true) :
    e.isPanic = false := by
  unfold isOfClient at h
  split at h <;> first | rfl | cases h

/-! ### Sums on the clock -/

namespace Instant

theorem secs_add_ofSecs (t : Instant) (n : Nat) :
    Duration.secs (t + Duration.ofSecs n) = Duration.secs t + n :=
  Nat.add_mul_div_right t n (by decide)

/-- The clock can show a number of seconds after `t` when it can show that many seconds. -/
theorem isSome_add?_ofSecs_iff {t : Instant} {n : Nat} :
    (add? t (Duration.ofSecs n)).isSome = true ↔ Duration.secs t + n < secsLimit := by
  rw [add?, secs_add_ofSecs]
  split <;> simp_all

/-- What the clock can show later it can show now. -/
theorem isSome_add?_of_le {t u : Instant} {d : Duration} (hle : t ≤ u)
    (h : (add? u d).isSome = true) : (add? t d).isSome = true := by
  obtain ⟨v, hv⟩ := Option.isSome_iff_exists.mp h
  have hlt := (add?_eq_some_iff.mp hv).1
  rw [Option.isSome_iff_exists]
  exact ⟨t + d, add?_eq_some_iff.mpr
    ⟨Nat.lt_of_le_of_lt (Nat.add_le_add_right hle d) hlt, rfl⟩⟩

theorem add?_eq_none_of_le {t u : Instant} {d : Duration} (hle : t ≤ u) (h : add? t d = none) :
    add? u d = none := by
  by_contra hsome
  have := isSome_add?_of_le hle (Option.isSome_iff_ne_none.mpr hsome)
  simp [h] at this

end Instant

namespace Discoverer

variable {setup : Setup}

/-! ### While the clock can show the sums -/

/-- Whether an action brings no panic with it: no source answers with one, and the control loop does not
panic at its wait. -/
def Action.isCalm : Action → Bool
  | .supervise _ (.control (.crash _)) => false
  | .supervise _ (.control (.work (.answer (.panicked _)))) => false
  | _ => true

def Worker.isCalm : Worker → Bool
  | .ended (.panicked _) => false
  | _ => true

def Loop.isCalm : Loop → Bool
  | .cycling _ w => w.isCalm
  | .panicked _ => false
  | _ => true

def Supervisor.isCalm : Supervisor → Bool
  | .watching l => l.isCalm
  | .pausing _ => false
  | _ => true

theorem Worker.not_isPanic_of_mem_enter {now : Instant} {stage : Aggregation.Stage} {e : Effect}
    (he : e ∈ (enter now stage).2) : e.isPanic = false := by
  match stage with
  | .asking a =>
    rw [List.mem_singleton.mp he]
    rfl
  | .ended (.loaded s) => cases he
  | .ended (.failed error) => cases he
  | .ended (.panicked p) => cases he

theorem Worker.Goes.not_isPanic {sh : Shared} {m : WorkerMove} {w : Worker} {t : Turn Worker}
    (hgoes : Goes setup sh m w t) : ∀ e ∈ t.effects, e.isPanic = false := by
  intro e he
  cases hgoes with
  | overflow _ => cases he
  | begin _ => exact not_isPanic_of_mem_enter he
  | answer a o =>
    rcases List.mem_append.mp he with hevent | henter
    · obtain ⟨event, hevent, rfl⟩ := List.mem_map.mp hevent
      cases o <;> simp_all [Aggregation.answer, Effect.isPanic]
    · exact not_isPanic_of_mem_enter henter
  | store s =>
    rw [List.mem_singleton.mp he]
    rfl

theorem Worker.isCalm_enter_ask (now deadline : Instant) (found : Snapshot) (position : Nat)
    (names : List String) :
    (enter now (Aggregation.ask deadline found position names)).1.isCalm = true := by
  cases names <;> rfl

theorem Worker.Goes.isCalm {sh : Shared} {m : WorkerMove} {w : Worker} {t : Turn Worker}
    (hgoes : Goes setup sh m w t) (hfits : (Instant.add? sh.now setup.interval).isSome = true)
    (hm : ∀ p, m ≠ .answer (.panicked p)) : t.task.isCalm = true := by
  cases hgoes with
  | overflow hadd => simp [hadd] at hfits
  | begin _ => exact isCalm_enter_ask _ _ _ _ _
  | answer a o =>
    cases o with
    | loaded s => exact isCalm_enter_ask _ _ _ _ _
    | failed e => rfl
    | panicked p => exact absurd rfl (hm p)
  | store s => rfl

theorem Loop.Goes.calm {sh : Shared} {m : LoopMove} {l : Loop} {t : Turn Loop}
    (hgoes : Goes setup sh m l t) (hfits : (Instant.add? sh.now setup.interval).isSome = true)
    (ha : (Action.supervise 0 (.control m)).isCalm = true) (hcalm : l.isCalm = true) :
    t.task.isCalm = true ∧ ∀ e ∈ t.effects, e.isPanic = false := by
  have hreport (count components : Nat) (isFirst : Bool) (o : Outcome) :
      ∀ e ∈ Effect.ofEvents (.published count components :: cycleEvents isFirst o),
        e.isPanic = false := by
    cases o <;> cases isFirst <;> simp [cycleEvents, Effect.ofEvents, Effect.isPanic]
  cases hgoes with
  | @work m w t ticker hgoes =>
    refine ⟨hgoes.isCalm hfits ?_, hgoes.not_isPanic⟩
    rintro p rfl
    cases ha
  | join ticker o =>
    cases o with
    | panicked p => cases hcalm
    | _ => exact ⟨rfl, by simp [Turn.reporting, workerEvents, Effect.ofEvents]⟩
  | abandon ticker w hclosed => exact ⟨rfl, by cases ticker <;> simp [Effect.isPanic]⟩
  | report hdone hdue => exact ⟨rfl, hreport _ _ _ _⟩
  | reportOverflow hdone hadd => simp [hadd] at hfits
  | crash hwaits p => cases ha
  | _ => exact ⟨rfl, by simp [Turn.quiet, Turn.reporting, Effect.ofEvents, Effect.isPanic]⟩

theorem Supervisor.Goes.calm {sh : Shared} {m : SupervisorMove} {v : Supervisor}
    {t : Turn Supervisor} (hgoes : Goes setup sh m v t)
    (hfits : (Instant.add? sh.now setup.interval).isSome = true)
    (ha : (Action.supervise 0 m).isCalm = true) (hcalm : v.isCalm = true) :
    t.task.isCalm = true ∧ ∀ e ∈ t.effects, e.isPanic = false := by
  cases hgoes with
  | spawn => exact ⟨rfl, by simp [Turn.quiet]⟩
  | control hgoes => exact hgoes.calm hfits ha hcalm
  | finish => exact ⟨rfl, by simp [Turn.quiet]⟩
  | pause p => cases hcalm
  | wake h => cases hcalm
  | leave time hclosed => cases hcalm

/-- While the clock can show the sums, a step without a panic of its own makes none. -/
theorem State.Goes.calm {s s' : State} {a : Action} {es : List Effect} (hsole : s.IsSole)
    (hgoes : Goes setup s a s' es)
    (hfits : (Instant.add? s.shared.now setup.interval).isSome = true) (ha : a.isCalm = true)
    (hcalm : ∀ v ∈ s.supervisors, v.isCalm = true) :
    (∀ v ∈ s'.supervisors, v.isCalm = true) ∧ ∀ e ∈ es, e.isPanic = false := by
  cases hgoes.taskStep hsole with
  | @supervise m v t hv hmoves =>
    rw [adopt_supervisors hv]
    simpa using hmoves.calm hfits ha (hcalm v (by simp [hv]))
  | stray hw hmoves => exact ⟨hcalm, hmoves.not_isPanic⟩
  | discard hj => exact ⟨hcalm, by simp⟩
  | client _ hcurrent hstrays hserved hes =>
    refine ⟨?_, fun e he => Effect.not_isPanic_of_isOfClient (hes e he)⟩
    generalize s.supervisors = vs at hserved hcalm
    generalize s'.supervisors = vs' at hserved
    cases hserved with
    | kept vs => exact hcalm
    | spawned => simp [Supervisor.isCalm]
    | woken due => simp [Supervisor.isCalm, Loop.isCalm]

/-- **Nothing panics because of the clock** as long as that can show the sums at the end of a run. -/
theorem calm_of_run {as : List Action} {s s' : State} {es : List Effect} (hsole : s.IsSole)
    (hcalm : ∀ v ∈ s.supervisors, v.isCalm = true) (hrun : run setup s as = some (s', es))
    (hfits : (Instant.add? s'.shared.now setup.interval).isSome = true)
    (has : ∀ a ∈ as, a.isCalm = true) :
    (∀ v ∈ s'.supervisors, v.isCalm = true) ∧ ∀ e ∈ es, e.isPanic = false := by
  induction as generalizing s es with
  | nil =>
    cases hrun
    exact ⟨hcalm, by simp⟩
  | cons a as ih =>
    -- the clock only goes forward, so it can show the sums at every step
    have hnow : s.shared.now ≤ s'.shared.now := by
      rw [now_of_run hrun]
      exact Nat.le_add_right _ _
    obtain ⟨s₁, es₁, es₂, hfirst, hmore, rfl⟩ := run_cons_eq_some_iff.mp hrun
    have hgoes := State.goes_of_step hfirst
    obtain ⟨hcalm₁, hes₁⟩ := hgoes.calm hsole (Instant.isSome_add?_of_le hnow hfits)
      (has a List.mem_cons_self) hcalm
    obtain ⟨hcalm₂, hes₂⟩ := ih (hsole.step hgoes) hcalm₁ hmore fun b hb =>
      has b (List.mem_cons_of_mem _ hb)
    exact ⟨hcalm₂, List.forall_mem_append.mpr ⟨hes₁, hes₂⟩⟩

end Discoverer

/-! ### When the clock cannot show the sums -/

/-- Whether an effect can be one of a discoverer that never comes to ask: no source is asked and nothing
is stored, mailboxes are written with nothing, and what panics does so because of the clock. -/
def Effect.isIdle : Effect → Bool
  | .queried _ _ _ | .stored _ => false
  | .deposited _ s => s.isEmpty
  | .event (.cyclePanicked m) | .event (.loopPanicked m) => m == Panic.clockOverflow.message
  | _ => true

theorem Effect.isIdle_of_isOfClient {e : Effect} (h : e.isOfClient = true) : e.isIdle = true := by
  unfold isOfClient at h
  split at h <;> first | rfl | cases h

namespace Discoverer

/-- Whether a worker has asked nobody: it has yet to begin, or has panicked because of the clock. -/
def Worker.isIdle : Worker → Bool
  | .spawned => true
  | .ended o => o == .panicked .clockOverflow
  | _ => false

/-- Whether a loop has never come to its wait, and has nothing to publish. -/
def Loop.isIdle : Loop → Bool
  | .launched | .ended => true
  | .cycling ticker w => ticker.isNone && w.isIdle
  | .publishing ticker f => ticker.isNone && f.snapshot.isEmpty
  | .panicked p => p == .clockOverflow
  | .choosing _ | .parked _ _ => false

def Supervisor.isIdle : Supervisor → Bool
  | .watching l => l.isIdle
  | _ => true

theorem Loop.Waits.not_isIdle {l : Loop} {due : Instant} {notified : Bool} (h : l.Waits due notified) :
    l.isIdle = false := by
  cases h <;> rfl

theorem Worker.Goes.idle {sh : Shared} {m : WorkerMove} {w : Worker} {t : Turn Worker}
    (hgoes : Goes setup sh m w t) (hadd : Instant.add? sh.now setup.interval = none)
    (hidle : w.isIdle = true) : t = .quiet (.ended (.panicked .clockOverflow)) sh := by
  cases hgoes with
  | overflow _ => rfl
  | begin hsome => simp [hadd] at hsome
  | answer a o => cases hidle
  | store s => cases hidle

theorem Loop.Goes.idle {sh : Shared} {m : LoopMove} {l : Loop} {t : Turn Loop}
    (hgoes : Goes setup sh m l t) (hadd : Instant.add? sh.now setup.interval = none)
    (hcurrent : sh.current = []) (hidle : l.isIdle = true) :
    t.task.isIdle = true ∧ t.shared.current = [] ∧ (∀ w ∈ t.strays, w.isIdle = true) ∧
      ∀ e ∈ t.effects, e.isIdle = true := by
  have hwaiting {l : Loop} {due : Instant} {notified : Bool} (hwaits : l.Waits due notified) :
      l.isIdle ≠ true := by
    simp [hwaits.not_isIdle]
  cases hgoes with
  | launch => exact ⟨rfl, hcurrent, by simp [Turn.quiet], by simp [Turn.quiet]⟩
  | @work m w t ticker hgoes =>
    simp only [isIdle, Bool.and_eq_true] at hidle
    obtain rfl := hgoes.idle hadd hidle.2
    refine ⟨?_, hcurrent, by simp [Turn.map, Turn.quiet], by simp [Turn.map, Turn.quiet]⟩
    simp [Turn.map, Turn.quiet, isIdle, Worker.isIdle, hidle.1]
  | join ticker o =>
    simp only [isIdle, Worker.isIdle, Bool.and_eq_true, beq_iff_eq] at hidle
    obtain ⟨hticker, rfl⟩ := hidle
    refine ⟨?_, hcurrent, by simp [Turn.reporting], ?_⟩
    · simp [Turn.reporting, isIdle, hticker, hcurrent]
    · simp [Turn.reporting, workerEvents, Effect.ofEvents, Effect.isIdle]
  | abandon ticker w hclosed =>
    simp only [isIdle, Bool.and_eq_true] at hidle
    exact ⟨rfl, hcurrent, by simpa using hidle.2, by cases ticker <;> simp [Effect.isIdle]⟩
  | deposit ticker f hlt =>
    refine ⟨hidle, hcurrent, by simp, ?_⟩
    simp only [isIdle, Bool.and_eq_true] at hidle
    simpa [Effect.isIdle] using hidle.2
  | report hdone hdue =>
    simp only [isIdle, Bool.and_eq_true, Option.isNone_iff_eq_none] at hidle
    simp [hidle.1, hadd] at hdue
  | @reportOverflow f hdone hadd =>
    refine ⟨rfl, hcurrent, by simp [Turn.reporting], ?_⟩
    cases f.outcome <;>
      simp [Turn.reporting, cycleEvents, Effect.ofEvents, Effect.isIdle]
  | stop hwaits hclosed => exact absurd hidle (hwaiting hwaits)
  | tick hwaits hdue => exact absurd hidle (hwaiting hwaits)
  | crash hwaits p => exact absurd hidle (hwaiting hwaits)
  | refreshStored due hpermit => cases hidle
  | refreshWoken due => cases hidle
  | park due hopen hdue hpermit => cases hidle

theorem Supervisor.Goes.idle {sh : Shared} {m : SupervisorMove} {v : Supervisor}
    {t : Turn Supervisor} (hgoes : Goes setup sh m v t)
    (hadd : Instant.add? sh.now setup.interval = none) (hcurrent : sh.current = [])
    (hidle : v.isIdle = true) :
    t.task.isIdle = true ∧ t.shared.current = [] ∧ (∀ w ∈ t.strays, w.isIdle = true) ∧
      ∀ e ∈ t.effects, e.isIdle = true := by
  cases hgoes with
  | control hgoes => exact hgoes.idle hadd hcurrent hidle
  | pause p =>
    obtain rfl : p = .clockOverflow := by simpa [Supervisor.isIdle, Loop.isIdle] using hidle
    exact ⟨rfl, hcurrent, by simp [Turn.reporting],
      by simp [Turn.reporting, Effect.ofEvents, Effect.isIdle]⟩
  | _ => exact ⟨rfl, hcurrent, by simp [Turn.quiet], by simp [Turn.quiet]⟩

/-- A discoverer that has never asked a source: none of its loops has come to its wait. -/
structure State.Idle (s : State) : Prop where
  supervisors : ∀ v ∈ s.supervisors, v.isIdle = true
  strays : ∀ w ∈ s.strays, w.isIdle = true
  current : s.shared.current = []

theorem State.Idle.step {s s' : State} {a : Action} {es : List Effect} (hsole : s.IsSole)
    (h : s.Idle) (hgoes : Goes setup s a s' es)
    (hadd : Instant.add? s.shared.now setup.interval = none) :
    s'.Idle ∧ ∀ e ∈ es, e.isIdle = true := by
  obtain ⟨hsupervisors, hstrays, hcurrent⟩ := h
  cases hgoes.taskStep hsole with
  | @supervise m v t hv hmoves =>
    obtain ⟨htask, hcurrent', hleft, hes⟩ := hmoves.idle hadd hcurrent (hsupervisors v (by simp [hv]))
    refine ⟨⟨?_, List.forall_mem_append.mpr ⟨hstrays, hleft⟩, hcurrent'⟩, hes⟩
    rw [adopt_supervisors hv]
    simpa using htask
  | @stray j m w t hw hmoves =>
    obtain rfl := hmoves.idle hadd (hstrays w (List.mem_of_getElem? hw))
    refine ⟨⟨hsupervisors, ?_, hcurrent⟩, by simp [Turn.quiet]⟩
    intro w' hw'
    rcases List.mem_or_eq_of_mem_set hw' with hmem | rfl
    · exact hstrays w' hmem
    · rfl
  | discard hj =>
    exact ⟨⟨hsupervisors, fun w hw => hstrays w (List.mem_of_mem_eraseIdx hw), hcurrent⟩, by simp⟩
  | client _ hsame hsameStrays hserved hes =>
    refine ⟨⟨?_, hsameStrays ▸ hstrays, hsame.trans hcurrent⟩,
      fun e he => Effect.isIdle_of_isOfClient (hes e he)⟩
    generalize s.supervisors = vs at hserved hsupervisors
    generalize s'.supervisors = vs' at hserved
    cases hserved with
    | kept vs => exact hsupervisors
    | spawned => simp [Supervisor.isIdle]
    | woken due => simp [Supervisor.isIdle, Loop.isIdle] at hsupervisors

/-- **No source is ever asked** by a discoverer whose period the clock cannot show to begin with. -/
theorem idle_of_run {as : List Action} {s s' : State} {es : List Effect} (hsole : s.IsSole)
    (h : s.Idle) (hadd : Instant.add? s.shared.now setup.interval = none)
    (hrun : run setup s as = some (s', es)) : s'.Idle ∧ ∀ e ∈ es, e.isIdle = true := by
  induction as generalizing s es with
  | nil =>
    cases hrun
    exact ⟨h, by simp⟩
  | cons a as ih =>
    obtain ⟨s₁, es₁, es₂, hfirst, hmore, rfl⟩ := run_cons_eq_some_iff.mp hrun
    have hgoes := State.goes_of_step hfirst
    have hnow : s.shared.now ≤ s₁.shared.now := by
      rw [hgoes.now_eq]
      exact Nat.le_add_right _ _
    obtain ⟨h₁, hes₁⟩ := h.step hsole hgoes hadd
    obtain ⟨h₂, hes₂⟩ := ih (hsole.step hgoes) h₁ (Instant.add?_eq_none_of_le hnow hadd) hmore
    exact ⟨h₂, List.forall_mem_append.mpr ⟨hes₁, hes₂⟩⟩

/-! ### Accepted configurations -/

/-- An accepted configuration has a period, so a discoverer can be built with it. -/
theorem exists_setup_of_check {c : Config} (haccepted : c.check = .ok ()) (sources : List String) :
    ∃ setup, Setup.make sources c.discovery.interval = .ok setup ∧
      setup.interval = Duration.ofSecs c.discovery.refreshInterval.toNat := by
  have hnonzero : c.discovery.refreshInterval ≠ 0 := by
    rintro hzero
    cases hpd : c.pd.validate with
    | error e => simp [Config.check, hpd, bind, Except.bind] at haccepted
    | ok u =>
      cases hsecurity : c.security.validate with
      | error e => simp [Config.check, hpd, hsecurity, bind, Except.bind] at haccepted
      | ok u =>
        simp [Config.check, hpd, hsecurity, bind, Except.bind, Config.Discovery.validate, hzero]
          at haccepted
  have hpos : 0 < c.discovery.interval := by
    have hnat : c.discovery.refreshInterval.toNat ≠ 0 := by
      intro hzero
      exact hnonzero (UInt64.toNat_inj.mp hzero)
    exact Nat.mul_pos (Nat.pos_of_ne_zero hnat) (by decide)
  exact ⟨⟨sources, c.discovery.interval, hpos⟩, dif_pos hpos, rfl⟩

/-- **What the clock makes of an accepted period.**  An accepted configuration has some period of whole
seconds, and nothing bounds it.  As long as the clock can show that many seconds more at the end of a run,
nothing in the run panics but what brings its own panic with it.  When it cannot show them where the
discoverer is built, no run ever asks a source: every cycle panics before, every loop panics before it
comes to its wait, nothing is stored, and mailboxes are written with nothing. -/
theorem clock_bounds_accepted_period {c : Config} (haccepted : c.check = .ok ())
    (sources : List String) :
    ∃ setup, Setup.make sources c.discovery.interval = .ok setup ∧
      ∀ (now : Instant) (as : List Action) (s : State) (es : List Effect),
        run setup (State.new now) as = some (s, es) →
        (Duration.secs s.shared.now + c.discovery.refreshInterval.toNat < Instant.secsLimit →
          (∀ a ∈ as, a.isCalm = true) →
          (∀ v ∈ s.supervisors, v.isCalm = true) ∧ ∀ e ∈ es, e.isPanic = false) ∧
        (Instant.secsLimit ≤ Duration.secs now + c.discovery.refreshInterval.toNat →
          s.Idle ∧ ∀ e ∈ es, e.isIdle = true) := by
  obtain ⟨setup, hmake, hinterval⟩ := exists_setup_of_check haccepted sources
  refine ⟨setup, hmake, ?_⟩
  intro now as s es hrun
  refine ⟨?_, ?_⟩
  · intro hlt hcalm
    refine calm_of_run (State.isSole_new now) (by simp [State.new]) hrun ?_ hcalm
    rw [hinterval]
    exact Instant.isSome_add?_ofSecs_iff.mpr hlt
  · intro hle
    refine idle_of_run (State.isSole_new now) ⟨by simp [State.new], by simp [State.new], rfl⟩ ?_ hrun
    by_contra hsome
    rw [hinterval] at hsome
    have hlt := Instant.isSome_add?_ofSecs_iff.mp (Option.isSome_iff_ne_none.mpr hsome)
    exact Nat.not_lt.mpr hle hlt

/-- A cycle of a discoverer that has just been started, the panic of its loop, and the next loop. -/
def panickingCycle : List Action :=
  untilFirstCycle ++ [loopStep (.work .begin), loopStep .join, loopStep .report, .supervise 0 .observe,
    .elapse Supervisor.backoff, .supervise 0 .wake, .supervise 0 .spawn]

/-- The default configuration with a period of some seconds. -/
def withPeriod (seconds : UInt64) : Config :=
  { Config.default with discovery := { Config.default.discovery with refreshInterval := seconds } }

/-- What the default configuration makes of one source. -/
def calmSetup : Setup := ⟨["etcd"], (withPeriod 30).discovery.interval, by decide +kernel⟩

/-- What the longest period that a text of a configuration can give makes of one source. -/
def longSetup : Setup :=
  ⟨["etcd"], (withPeriod 9223372036854775807).discovery.interval, by decide +kernel⟩

theorem default_period_is_calm : (withPeriod 30).check = .ok () ∧
    ∃ s es, run calmSetup (State.new 1000000000) (untilFirstCycle ++ loadedCycle ++ [loopStep .report]) =
        some (s, es) ∧
      Duration.secs s.shared.now + (withPeriod 30).discovery.refreshInterval.toNat <
        Instant.secsLimit ∧
      (∀ a ∈ untilFirstCycle ++ loadedCycle ++ [loopStep .report], a.isCalm = true) ∧
      ∀ e ∈ es, e.isPanic = false := by
  have haccepted : (withPeriod 30).check = .ok () := by decide +kernel
  have hmade : Setup.make ["etcd"] (withPeriod 30).discovery.interval = .ok calmSetup :=
    dif_pos calmSetup.interval_pos
  have hend : (run calmSetup (State.new 1000000000)
      (untilFirstCycle ++ loadedCycle ++ [loopStep .report])).map (·.1.shared.now) =
        some 1000000000 := by decide +kernel
  have hcalm : ∀ a ∈ untilFirstCycle ++ loadedCycle ++ [loopStep .report], a.isCalm = true := by
    decide +kernel
  obtain ⟨⟨s, es⟩, hrun, hnow⟩ := Option.map_eq_some_iff.mp hend
  have hlt : Duration.secs s.shared.now + (withPeriod 30).discovery.refreshInterval.toNat <
      Instant.secsLimit := by
    rw [show s.shared.now = 1000000000 from hnow]
    decide
  obtain ⟨setup, hmake, hruns⟩ := clock_bounds_accepted_period haccepted ["etcd"]
  obtain rfl : setup = calmSetup := Except.ok.inj (hmake.symm.trans hmade)
  exact ⟨haccepted, s, es, hrun, hlt, hcalm, ((hruns _ _ _ _ hrun).1 hlt hcalm).2⟩

/-- **An accepted period makes cycles and loops panic.**  No action here brings a panic with it, and the
clock shows one second. -/
theorem accepted_period_panics : (withPeriod 9223372036854775807).check = .ok () ∧
    Setup.make ["etcd"] (withPeriod 9223372036854775807).discovery.interval = .ok longSetup ∧
    (∀ a ∈ panickingCycle, a.isCalm = true) ∧
    ∃ s es, run longSetup (State.new 1000000000) panickingCycle = some (s, es) ∧
      .event (.cyclePanicked "overflow when adding duration to instant") ∈ es ∧
      .event (.loopPanicked "overflow when adding duration to instant") ∈ es ∧
      s.supervisors = [.watching .launched] := by
  have hend : (run longSetup (State.new 1000000000) panickingCycle).map
      (fun r => (r.1.supervisors, r.2)) = some ([.watching .launched],
        [.returned .started, .event (.cyclePanicked "overflow when adding duration to instant"),
          .event (.published 0 0),
          .event (.loopPanicked "overflow when adding duration to instant")]) := by
    decide +kernel
  obtain ⟨⟨s, es⟩, hrun, hlast⟩ := Option.map_eq_some_iff.mp hend
  obtain ⟨hloop, rfl⟩ := Prod.mk.inj hlast
  exact ⟨by decide +kernel, dif_pos longSetup.interval_pos, by decide +kernel, s, _, hrun, by simp,
    by simp, hloop⟩

end Discoverer

end ClusterTopology
