import ClusterTopology.Aggregation
import ClusterTopology.Proofs.Tidb.Entries
import ClusterTopology.Tidb.Client
import ClusterTopology.Proofs.Discoverer.Closing
import ClusterTopology.Proofs.Discoverer.Cycles
import ClusterTopology.Proofs.Discoverer.Following
import ClusterTopology.Simulation.Run
/-!
Closing is exhaustive, whatever fails.

A close goes through all sources although some of them fail, and any number of closes may be under way at the
same time.  Each of them closes every source once, in order, and comes back with the first failure that has
come to it.  The discoverer counts as closed from the moment that the first was made.

One source holds something that a close releases: the client of etcd.  It may be asked and closed in any order
and as often as anyone likes.  The first close releases it and reports that; every later close finds nothing to
release, and every later query is refused without a word to etcd.

`ClosesAll` is the invariant of one close: what it has done so far is a `Ledger` of the sources that have
been told and of their answers.  `OwnStep` says which steps are its own, and all others leave it alone
whatever they are, which is why nothing has to be known about the other closes.
-/

/-! ## The client of etcd in use -/

namespace ClusterTopology

theorem Conversation.mem_events_mapLogged {α β : Type} {c : Conversation α} {f : α → Logged β}
    {e : Event} (h : e ∈ (c.mapLogged f).events) :
    e ∈ c.events ∨ ∃ a, c.value = .ok a ∧ e ∈ (f a).events := by
  unfold mapLogged at h
  split at h
  · exact .inl h
  · next a hvalue => exact (List.mem_append.mp h).imp id fun he => ⟨a, hvalue, he⟩

namespace Tidb

/-! ### Reports of a query -/

/-- What is reported of entries is what is wrong with them, and nothing else. -/
theorem Reports.not_released {entries : List Entry} {events : List Event} (h : Reports entries events) :
    .etcdClientReleased ∉ events := by
  induction h with
  | nil => simp
  | skipped _ _ ih => simpa using ih
  | quiet _ _ ih => exact ih

namespace Client

variable (peer : Peer) (unixNanos : Instant → Int) (deadline now : Instant) (c : Client)

/-- A client that has been released refuses to be asked, and asks nobody. -/
theorem components_of_released {c : Client} (h : c.isReleased = true) :
    c.components peer unixNanos deadline now = .refused now (.closed "etcd") := by
  rw [components, instances, if_pos h]
  rfl

theorem not_released_components :
    .etcdClientReleased ∉ (c.components peer unixNanos deadline now).events := by
  intro hmem
  rcases Conversation.mem_events_mapLogged hmem with hmem | ⟨is, -, hmem⟩
  · unfold instances at hmem
    split at hmem
    · cases hmem
    · rcases Conversation.mem_events_mapLogged hmem with hmem | ⟨entries, -, hmem⟩
      · cases hmem
      · exact (reports_ofEntries _ _ entries).not_released hmem
  · cases hmem

/-! ### Any number of uses -/

inductive Use where
  | query (deadline now : Instant)
  | close
deriving DecidableEq, Repr

/-- A client after a use of it, and what is reported on it. -/
def use : Use → Logged Client
  | .query deadline now => ⟨c, (c.components peer unixNanos deadline now).events⟩
  | .close => c.close

def useAll (c : Client) : List Use → Logged Client
  | [] => pure c
  | u :: us => do
    let c ← c.use peer unixNanos u
    useAll c us

/-- A use releases a client when it is the close of one that is open, and reports that then. -/
theorem use_spec (u : Use) :
    ((c.use peer unixNanos u).value.isReleased = true ↔ c.isReleased = true ∨ u = .close) ∧
      (c.use peer unixNanos u).events.count .etcdClientReleased =
        if c.isReleased = false ∧ u = .close then 1 else 0 := by
  cases u with
  | query deadline now =>
    have hnone := List.count_eq_zero.mpr (not_released_components peer unixNanos deadline now c)
    simp [use, hnone]
  | close => cases hopen : c.isReleased <;> simp [use, close, hopen]

theorem useAll_cons (u : Use) (us : List Use) :
    c.useAll peer unixNanos (u :: us) =
      ⟨((c.use peer unixNanos u).value.useAll peer unixNanos us).value,
        (c.use peer unixNanos u).events ++
          ((c.use peer unixNanos u).value.useAll peer unixNanos us).events⟩ := rfl

/-- **A client is released by the first close among its uses**, and that is reported once. -/
theorem useAll_spec (us : List Use) :
    ((c.useAll peer unixNanos us).value.isReleased = true ↔ c.isReleased = true ∨ .close ∈ us) ∧
      (c.useAll peer unixNanos us).events.count .etcdClientReleased =
        if c.isReleased = false ∧ .close ∈ us then 1 else 0 := by
  induction us generalizing c with
  | nil => simp [useAll, pure]
  | cons u us ih =>
    obtain ⟨hvalue, hcount⟩ := use_spec peer unixNanos c u
    obtain ⟨hvalues, hcounts⟩ := ih (c.use peer unixNanos u).value
    rw [useAll_cons]
    refine ⟨?_, ?_⟩
    · rw [hvalues, hvalue, List.mem_cons, or_assoc, @eq_comm _ u]
    · rw [List.count_append, hcount, hcounts]
      have hopen : (c.use peer unixNanos u).value.isReleased = false ↔
          c.isReleased = false ∧ u ≠ .close := by
        rw [← Bool.not_eq_true, hvalue, not_or, Bool.not_eq_true]
      -- either this use is the close that counts, or one of the uses after it may be
      by_cases hclose : u = .close
      · subst hclose
        simp [hopen]
      · simp [hopen, hclose, Ne.symm hclose]

end Client

end Tidb

end ClusterTopology

/-! ## Closes in a run -/

namespace ClusterTopology.Discoverer

open ClusterTopology.Sources (Release)

variable {setup : Setup}

/-! ### The steps of one close -/

/-- What a step of the close at place `k` can be. -/
inductive State.OwnStep (setup : Setup) (s : State) (k : Nat) (a : Action) (s' : State)
    (es : List Effect) : Call → Prop where
  | taken {i : Nat} (hanswer : a.answer? = none) (hcalls : s'.calls = s.calls.set k (.joining i))
      (hes : es = []) : OwnStep setup s k a s' es .stopping
  | entered {c : Call} (hanswer : a.answer? = none)
      (hstate : s' = (s.enterClosing k [] (Closing.start setup.sources)).1)
      (hes : es = (s.enterClosing k [] (Closing.start setup.sources)).2)
      (hwaits : ∀ c', c ≠ .closing c') : OwnStep setup s k a s' es c
  | answered {c : Closing} {r : Except TopologyError Unit} (hanswer : a.answer? = some r)
      (hstate : s' = (s.enterClosing k (c.answer r).events (c.answer r).value).1)
      (hes : es = (s.enterClosing k (c.answer r).events (c.answer r).value).2) :
      OwnStep setup s k a s' es (.closing c)

theorem State.Goes.ownStep {s s' : State} {a : Action} {es : List Effect} {k : Nat} {c : Call}
    (hgoes : Goes setup s a s' es) (ha : a.call? = some k) (hcall : s.calls[k]? = some c)
    (hc : c.isClose = true) : OwnStep setup s k a s' es c := by
  cases hgoes with
  | subscribed hcall' =>
    cases ha
    rw [hcall] at hcall'
    cases hcall'
    cases hc
  | spawned hcall' =>
    cases ha
    rw [hcall] at hcall'
    cases hcall'
    cases hc
  | left hcall' =>
    cases ha
    rw [hcall] at hcall'
    cases hcall'
    cases hc
  | taken hcall' _ =>
    cases ha
    rw [hcall] at hcall'
    cases hcall'
    exact .taken rfl rfl rfl
  | unsupervised hcall' _ =>
    cases ha
    rw [hcall] at hcall'
    cases hcall'
    exact .entered rfl rfl rfl (by simp)
  | joined hcall' _ =>
    cases ha
    rw [hcall] at hcall'
    cases hcall'
    exact .entered rfl rfl rfl (by simp)
  | sourceClosed r hcall' =>
    cases ha
    rw [hcall] at hcall'
    cases hcall'
    exact .answered rfl rfl rfl
  | _ => cases ha

/-! ### One close, from place to place -/

/-- What has come of the first sources: their places, and the answers that have come from them. -/
structure Ledger (rs : List Release) (answers : List (Except TopologyError Unit)) : Prop where
  positions : rs.map Release.position = List.range rs.length
  answers : rs.map Release.answer = answers.map fun r => ⟨r, []⟩

theorem Ledger.nil : Ledger [] [] := ⟨rfl, rfl⟩

theorem Ledger.concat {rs : List Release} {answers : List (Except TopologyError Unit)}
    (h : Ledger rs answers) (name : String) (answer : Except TopologyError Unit) :
    Ledger (rs ++ [⟨rs.length, name, ⟨answer, []⟩⟩]) (answers ++ [answer]) :=
  ⟨by simp [h.positions, List.range_succ], by simp [h.answers]⟩

/-- A close at the end: it reports that the discoverer is closed, unless a source has failed, and comes
back with the first failure. -/
def farewell (failure : Option TopologyError) : List Effect :=
  (if failure = none then [.event .discovererClosed] else []) ++ [.returned (.closed failure)]

/-- How far a close that is followed has come: it has not told any source yet, or some sources have
answered and the next has been told, or all have answered and it has come back. -/
inductive ClosesAll (setup : Setup) (s : State) (f : Followed) : Prop where
  | waiting {k : Nat} {c : Call} (hplace : f.place = some k) (hcall : s.calls[k]? = some c)
      (hc : c.isClose = true) (hwaits : ∀ c', c ≠ .closing c') (hanswers : f.answers = [])
      (heffects : f.effects = [])
  | closing {k : Nat} {c : Closing} {rs : List Release} (hplace : f.place = some k)
      (hcall : s.calls[k]? = some (.closing c)) (hledger : Ledger rs f.answers)
      (hnames : rs.map Release.name ++ c.name :: c.rest = setup.sources)
      (hposition : c.position = rs.length) (hfailure : c.failure = Release.firstFailure rs)
      (heffects : f.effects = rs.flatMap Release.told ++ [.closed c.position])
  | returned {rs : List Release} (hplace : f.place = none) (hledger : Ledger rs f.answers)
      (hnames : rs.map Release.name = setup.sources)
      (heffects : f.effects = rs.flatMap Release.told ++ farewell (Release.firstFailure rs))

theorem State.enterClosing_ended (s : State) (k : Nat) (events : List Event)
    (failure : Option TopologyError) :
    (s.enterClosing k events (.ended failure)).2 = Effect.ofEvents events ++ farewell failure := by
  cases failure <;> simp [enterClosing, finish, farewell, Effect.ofEvents]

/-- A close that has the answers of the first sources goes on with those that are left. -/
theorem closesAll_enter {s : State} {k : Nat} {c : Call} (hcall : s.calls[k]? = some c)
    {rs : List Release} {answers : List (Except TopologyError Unit)} (hledger : Ledger rs answers)
    {rest : List String} (hnames : rs.map Release.name ++ rest = setup.sources) {past : List Effect}
    {events : List Event} (hpast : past ++ Effect.ofEvents events = rs.flatMap Release.told) :
    let entered := s.enterClosing k events (Closing.next (Release.firstFailure rs) rs.length rest)
    ClosesAll setup entered.1
      ⟨if entered.2.any Effect.isReturned then none else some k, answers, past ++ entered.2⟩ := by
  intro entered
  cases rest with
  | nil =>
    have heffects : entered.2 = Effect.ofEvents events ++ farewell (Release.firstFailure rs) :=
      s.enterClosing_ended k events _
    refine .returned ?_ hledger (by simpa using hnames) ?_
    · simp [heffects, farewell, Effect.isReturned]
    · rw [heffects, ← List.append_assoc, hpast]
  | cons name rest =>
    have hk := (List.getElem?_eq_some_iff.mp hcall).1
    have heffects : entered.2 = Effect.ofEvents events ++ [.closed rs.length] := rfl
    have hnext : entered.1.calls[k]? =
        some (.closing ⟨Release.firstFailure rs, rs.length, name, rest⟩) :=
      List.getElem?_set_self hk
    refine .closing ?_ hnext hledger hnames rfl rfl ?_
    · simp [heffects, Effect.any_isReturned_ofEvents, Effect.isReturned]
    · rw [heffects, ← List.append_assoc, hpast]

/-- **A close goes on through its places**, whatever else happens and whoever else closes. -/
theorem ClosesAll.step {s s' : State} {f : Followed} {a : Action} {es : List Effect}
    (h : ClosesAll setup s f) (hgoes : State.Goes setup s a s' es) :
    ClosesAll setup s' (f.see (a, es)) := by
  cases h with
  | @waiting k c hplace hcall hc hwaits hanswers heffects =>
    by_cases ha : a.call? = some k
    · rw [Followed.see_own hplace ha]
      cases hgoes.ownStep ha hcall hc with
      | @taken i hanswer hcalls hes =>
        have hk := (List.getElem?_eq_some_iff.mp hcall).1
        refine .waiting (k := k) (c := .joining i) ?_ ?_ rfl (by simp) ?_ ?_
        · simp [hes]
        · rw [hcalls, List.getElem?_set_self hk]
        · simp [hanswers, hanswer]
        · simp [heffects, hes]
      | entered hanswer hstate hes hwaits' =>
        have hnames : [].map Release.name ++ setup.sources = setup.sources := rfl
        have hpast : [] ++ Effect.ofEvents [] = [].flatMap Release.told := rfl
        have hentered := closesAll_enter hcall .nil hnames hpast
        rw [hstate, hes, hanswers, heffects, hanswer]
        exact hentered
      | answered hanswer hstate hes => exact absurd rfl (hwaits _)
    · obtain ⟨k', hsee, hcall'⟩ := hgoes.callStep.see_of_ne hplace hcall ha
      rw [hsee]
      exact .waiting rfl hcall' hc hwaits hanswers heffects
  | @closing k c rs hplace hcall hledger hnames hposition hfailure heffects =>
    by_cases ha : a.call? = some k
    · rw [Followed.see_own hplace ha]
      cases hgoes.ownStep ha hcall rfl with
      | entered hanswer hstate hes hwaits => exact absurd rfl (hwaits c)
      | @answered c r hanswer hstate hes =>
        -- the answer goes into the ledger, and the close is put before the sources that are left
        generalize hlast : Release.mk rs.length c.name (Logged.mk r []) = last
        have hafter := c.answer_eq (Logged.mk r [])
        rw [hposition, hfailure, hlast, ← Release.firstFailure_concat] at hafter
        have hledger' : Ledger (rs ++ [last]) (f.answers ++ [r]) := hlast ▸ hledger.concat c.name r
        have hnames' : (rs ++ [last]).map Release.name ++ c.rest = setup.sources := by
          simpa [← hlast] using hnames
        have hpast : f.effects ++ Effect.ofEvents (c.answer r).events =
            (rs ++ [last]).flatMap Release.told := by
          simp [heffects, hafter, Release.told, hposition, ← hlast]
        have hentered := closesAll_enter hcall hledger' hnames' hpast
        rw [hstate, hes, hanswer]
        simp only [hafter, List.length_append, List.length_singleton] at hentered ⊢
        exact hentered
    · obtain ⟨k', hsee, hcall'⟩ := hgoes.callStep.see_of_ne hplace hcall ha
      rw [hsee]
      exact .closing rfl hcall' hledger hnames hposition hfailure heffects
  | returned hplace hledger hnames heffects =>
    have hsee : f.see (a, es) = f := by simp [Followed.see, hplace]
    rw [hsee]
    exact .returned hplace hledger hnames heffects

/-! ### Whole runs -/

/-- The close that a run begins with, followed to the end of the run. -/
def followClose (setup : Setup) (s : State) (as : List Action) : Followed :=
  follow s.calls.length (trace setup s (.close :: as))

/-- A close is on its way through the sources, or through with them, at the end of every run. -/
theorem closesAll_of_run {s₀ s : State} {as : List Action} {es : List Effect}
    (hrun : run setup s₀ (.close :: as) = some (s, es)) :
    ClosesAll setup s (followClose setup s₀ as) := by
  obtain ⟨s₁, es₁, es₂, hasked, hrest, rfl⟩ := run_cons_eq_some_iff.mp hrun
  have htrace : trace setup s₀ (.close :: as) = [(.close, es₁)] ++ trace setup s₁ as := by
    simp [trace, hasked]
  rw [followClose, htrace]
  refine run_induction (P := fun s tr => ClosesAll setup s (follow s₀.calls.length tr)) ?_ hrest ?_
  · intro s s' tr a es h hgoes
    rw [follow_concat]
    exact h.step hgoes
  · cases State.goes_of_step hasked with
    | close hheld => exact .waiting rfl List.getElem?_concat_length rfl (by simp) rfl rfl

/-- What is closed stays closed. -/
theorem closed_of_run_close {s₀ s : State} {as : List Action} {es : List Effect}
    (hrun : run setup s₀ (.close :: as) = some (s, es)) : s.shared.closed = true := by
  obtain ⟨s₁, es₁, es₂, hasked, hrest, rfl⟩ := run_cons_eq_some_iff.mp hrun
  refine run_state_induction (P := fun s => s.shared.closed = true) (A := fun _ => True)
    (fun h _ hgoes => hgoes.closed_of_closed h) (by simp) hrest ?_
  cases State.goes_of_step hasked
  rfl

/-! ### The client of etcd among the sources -/

/-- The uses of the client of etcd that effects stand for, where it is the source at place `i`. -/
def usesAt (i : Nat) (es : List Effect) : List Tidb.Client.Use :=
  es.filterMap fun
    | .queried j time deadline => if j = i then some (.query deadline time) else none
    | .closed j => if j = i then some .close else none
    | _ => none

theorem close_mem_usesAt {i : Nat} {es : List Effect} (h : .closed i ∈ es) : .close ∈ usesAt i es :=
  List.mem_filterMap.mpr ⟨.closed i, h, by simp⟩

/-- **Main result: closing is exhaustive, whatever fails.**  Closing all sources tells each of them once,
in order, warns of each that fails, and results in the failure of the first that has failed, so in none
just when none has.  A close of a discoverer, wherever it is made and whatever else goes on, other closes
included, leaves the discoverer closed for good.  When it has come back, every source has answered it
once; it has told the sources and warned in the same way, has reported that the discoverer is closed
just when none has failed, and has come back with the first failure.  And when the client of etcd is one
of the sources, it has been released: whatever uses of it there have been before, and whatever uses
follow, it refuses every query, and its release is reported once in all. -/
theorem closing_is_exhaustive {ω κ : Type} (S : Sources ω κ) (w : ω) {s₀ s : State} {as : List Action}
    {es : List Effect} (hrun : run setup s₀ (.close :: as) = some (s, es)) :
    ((S.releases w).map Release.name = S.names w ∧
      (S.releases w).map Release.position = List.range (S.names w).length ∧
      (S.closeAll w).2.2 = (S.releases w).flatMap Release.told ∧
      (S.closeAll w).1 = Release.firstFailure (S.releases w) ∧
      ((S.closeAll w).1 = none ↔ ∀ r ∈ S.releases w, r.answer.value = .ok ())) ∧
    s.shared.closed = true ∧
    ((followClose setup s₀ as).place = none →
      (∃ rs, Ledger rs (followClose setup s₀ as).answers ∧ rs.map Release.name = setup.sources ∧
        (followClose setup s₀ as).effects =
          rs.flatMap Release.told ++ farewell (Release.firstFailure rs)) ∧
      ∀ i < setup.sources.length, ∀ (peer : Tidb.Peer) (unixNanos : Instant → Int) (c : Tidb.Client)
        (earlier later : List Tidb.Client.Use), c.isReleased = false →
        (∀ deadline now,
          (c.useAll peer unixNanos (earlier ++ usesAt i es ++ later)).value.components peer unixNanos
            deadline now = .refused now (.closed "etcd")) ∧
        (c.useAll peer unixNanos (earlier ++ usesAt i es ++ later)).events.count
          .etcdClientReleased = 1) := by
  obtain ⟨hnames, hpositions, hfailure, heffects⟩ := S.closeAll_exhaustive w
  refine ⟨⟨hnames, hpositions, heffects, hfailure, ?_⟩, closed_of_run_close hrun, ?_⟩
  · rw [hfailure]
    exact Release.firstFailure_eq_none_iff
  intro hback
  cases closesAll_of_run hrun with
  | waiting hplace _ _ _ _ _ =>
    rw [hback] at hplace
    cases hplace
  | closing hplace _ _ _ _ _ _ =>
    rw [hback] at hplace
    cases hplace
  | @returned rs _ hledger hnames heffects =>
    refine ⟨⟨rs, hledger, hnames, heffects⟩, ?_⟩
    intro i hi peer unixNanos c earlier later hopen
    -- the source at place `i` is one of those that the close has told
    have hclosed : .closed i ∈ (followClose setup s₀ as).effects := by
      have hmem : i ∈ rs.map Release.position := by
        rw [hledger.positions, List.mem_range]
        simpa [← hnames] using hi
      obtain ⟨r, hr, rfl⟩ := List.mem_map.mp hmem
      rw [heffects]
      exact List.mem_append_left _ (List.mem_flatMap.mpr ⟨r, hr, List.mem_cons_self⟩)
    have huse : .close ∈ earlier ++ usesAt i es ++ later := by
      have hmem := mem_effectsOf_of_mem_follow hclosed
      rw [effectsOf_trace hrun] at hmem
      simp [close_mem_usesAt hmem]
    obtain ⟨hreleased, hcount⟩ :=
      Tidb.Client.useAll_spec peer unixNanos c (earlier ++ usesAt i es ++ later)
    refine ⟨fun deadline now => ?_, by rw [hcount, if_pos ⟨hopen, huse⟩]⟩
    exact Tidb.Client.components_of_released _ _ _ _ (hreleased.mpr (.inr huse))

/-- Two closes side by side, the second of which etcd fails; the first comes back while the second waits
for the other source. -/
def sideBySide : List Action :=
  [.proceed 0, .proceed 1, .sourceClosed 1 (.error (.closed "etcd")), .sourceClosed 0 (.ok ()),
    .sourceClosed 0 (.ok ()), .sourceClosed 0 (.ok ())]

/-- The second of two closes comes back with the failure of etcd when it has closed both sources. -/
theorem sideBySide_is_exhaustive :
    ∃ s₀ s es, run twoSources (State.new 0) [.close] = some (s₀, []) ∧
      run twoSources s₀ (.close :: sideBySide) = some (s, es) ∧ s.shared.closed = true ∧
      (∃ rs, Ledger rs [.error (.closed "etcd"), .ok ()] ∧ rs.map Release.name = ["etcd", "pd"] ∧
        (followClose twoSources s₀ sideBySide).effects =
          rs.flatMap Release.told ++ farewell (Release.firstFailure rs)) ∧
      ∀ (peer : Tidb.Peer) (unixNanos : Instant → Int) (later : List Tidb.Client.Use),
        ((Tidb.Client.mk false).useAll peer unixNanos ([] ++ usesAt 0 es ++ later)).events.count
          .etcdClientReleased = 1 := by
  have hend : (run twoSources (State.new 0) [.close]).bind (fun r₀ =>
      (run twoSources r₀.1 (.close :: sideBySide)).map fun _ =>
        (r₀.2, (followClose twoSources r₀.1 sideBySide).place,
          (followClose twoSources r₀.1 sideBySide).answers)) =
      some ([], none, [.error (.closed "etcd"), .ok ()]) := by rfl
  obtain ⟨⟨s₀, es₀⟩, hbefore, hend⟩ := Option.bind_eq_some_iff.mp hend
  obtain ⟨⟨s, es⟩, hrun, hend⟩ := Option.map_eq_some_iff.mp hend
  simp only [Prod.mk.injEq] at hend
  obtain ⟨rfl, hback, hanswers⟩ := hend
  obtain ⟨-, hclosed, hover⟩ := closing_is_exhaustive Simulation.scripted [] hrun
  obtain ⟨⟨rs, hledger, hnames, heffects⟩, huses⟩ := hover hback
  rw [hanswers] at hledger
  refine ⟨s₀, s, es, hbefore, hrun, hclosed, ⟨rs, hledger, hnames, heffects⟩, ?_⟩
  intro peer unixNanos later
  exact (huses 0 (by decide) peer unixNanos ⟨false⟩ [] later rfl).2

end ClusterTopology.Discoverer
