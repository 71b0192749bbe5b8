import Mathlib.Data.List.Nodup
import ClusterTopology.Proofs.Mailbox.Board
/-!
A registry and its mailboxes are a list of one-slot boxes.

The proof has two halves that meet in the run of a board.  Every step of an exchange is a step of the
board with the same reply, because the counters of each box show the history of its slot.  And
whatever a board does, its histories fit the publications: what has been put into a box are the
publications that were for it, in order.

The steps of a board are rules first, `Goes`, so that both halves go by cases on them.  `Models` ties an
exchange to the board that it shows, box by box: the counters are lengths of histories.  `Lawful` says that
what has been put into each box is what it has been due, `reached`: the publications that are over and were
for it, and the one under way if that has come to the box.  `Recorded` ties a board to the log of the run.
Each of the three has a lemma for one step, and the induction over the operations of a run carries all of
them at once.
-/

namespace ClusterTopology

/-! ### The steps of a board as rules -/

namespace Board

inductive Goes (b : Board) : Op → Board → Reply → Prop where
  | register (hopen : b.isOpen = true) :
      Goes b .register { b with slots := b.slots ++ [.empty] } (.mailbox b.slots.length)
  | copy (s : Snapshot) (hopen : b.isOpen = true) (hnone : b.current = none) :
      Goes b (.copy s) { b with current := some (⟨b.past.length, s, b.slots.length⟩, 0) }
        (.copied b.slots.length)
  | deposit {y : Issue} {done : Nat} (hcurrent : b.current = some (y, done))
      (hlt : done < y.count) :
      Goes b .deposit
        { b with slots := b.slots.modify done (·.deposit y), current := some (y, done + 1) } .nothing
  | finish {y : Issue} {done : Nat} (hcurrent : b.current = some (y, done))
      (hle : y.count ≤ done) :
      Goes b .finish { b with past := b.past ++ [y], current := none } (.written y.count)
  | hasPending {i : Nat} {v : Slot} (hv : b.slot? i = some v) :
      Goes b (.hasPending i) b (.pending v.content.isSome)
  | tryReceive {i : Nat} {v : Slot} (hv : b.slot? i = some v) :
      Goes b (.tryReceive i) (b.set i v.take) (.found (v.content.map (·.snapshot)))
  | receive {i : Nat} {v : Slot} (hv : b.slot? i = some v) :
      Goes b (.receive i) (b.set i v.take)
        (.receipt ((v.content.map fun y => .snapshot y.snapshot).getD b.nothingUnread))
  | giveUp {i : Nat} {v : Slot} (hv : b.slot? i = some v) :
      Goes b (.giveUp i) (b.set i { v with held := false }) .nothing
  | drop (hopen : b.isOpen = true) (hnone : b.current = none) :
      Goes b .drop { b with isOpen := false } .nothing

theorem goes_of_step {b b' : Board} {op : Op} {reply : Reply}
    (h : b.step op = some (b', reply)) : Goes b op b' reply := by
  cases op with
  | register =>
    simp only [step, Option.ite_none_right_eq_some, Option.some.injEq, Prod.mk.injEq] at h
    obtain ⟨hopen, rfl, rfl⟩ := h
    exact .register hopen
  | copy s =>
    simp only [step, Option.ite_none_right_eq_some, Option.some.injEq, Prod.mk.injEq,
      Bool.and_eq_true, Option.isNone_iff_eq_none] at h
    obtain ⟨⟨hopen, hnone⟩, rfl, rfl⟩ := h
    exact .copy s hopen hnone
  | deposit =>
    simp only [step, Option.bind_eq_bind, Option.bind_eq_some_iff, Prod.exists,
      Option.ite_none_right_eq_some, Option.some.injEq, Prod.mk.injEq] at h
    obtain ⟨y, done, hcurrent, hlt, rfl, rfl⟩ := h
    exact .deposit hcurrent hlt
  | finish =>
    simp only [step, Option.bind_eq_bind, Option.bind_eq_some_iff, Prod.exists,
      Option.ite_none_left_eq_some, Option.some.injEq, Prod.mk.injEq, Nat.not_lt] at h
    obtain ⟨y, done, hcurrent, hle, rfl, rfl⟩ := h
    exact .finish hcurrent hle
  | hasPending i =>
    simp only [step, Option.map_eq_some_iff, Prod.mk.injEq] at h
    obtain ⟨v, hv, rfl, rfl⟩ := h
    exact .hasPending hv
  | tryReceive i =>
    simp only [step, Option.map_eq_some_iff, Prod.mk.injEq] at h
    obtain ⟨v, hv, rfl, rfl⟩ := h
    exact .tryReceive hv
  | receive i =>
    simp only [step, Option.map_eq_some_iff, Prod.mk.injEq] at h
    obtain ⟨v, hv, rfl, rfl⟩ := h
    exact .receive hv
  | giveUp i =>
    simp only [step, Option.map_eq_some_iff, Prod.mk.injEq] at h
    obtain ⟨v, hv, rfl, rfl⟩ := h
    exact .giveUp hv
  | drop =>
    simp only [step, Option.ite_none_right_eq_some, Option.some.injEq, Prod.mk.injEq,
      Bool.and_eq_true, Option.isNone_iff_eq_none] at h
    obtain ⟨⟨hopen, hnone⟩, rfl, rfl⟩ := h
    exact .drop hopen hnone

theorem slot?_eq_some {b : Board} {i : Nat} {v : Slot} (h : b.slot? i = some v) :
    b.slots[i]? = some v ∧ v.held = true :=
  Option.filter_eq_some_iff.mp h

/-! ### Histories fit the publications -/

/-- The publication under way, if box `i` has it. -/
def arrived (b : Board) (i : Nat) : List Issue :=
  match b.current with
  | some (y, done) => if i < done then [y] else []
  | none => []

/-- What box `i` must have got: every publication that is over and was for it, and the one under way if
it has come to the box. -/
def reached (b : Board) (i : Nat) : List Issue :=
  b.past.filter (fun y => decide (i < y.count)) ++ b.arrived i

/-- The histories of a board fit together. -/
structure Lawful (b : Board) : Prop where
  slots : ∀ v ∈ b.slots, v.Lawful
  deposited : ∀ i v, b.slots[i]? = some v → v.deposited = b.reached i
  places : b.issues.map (·.place) = List.range b.issues.length
  counts : ∀ y ∈ b.issues, y.count ≤ b.slots.length
  done : ∀ y done, b.current = some (y, done) → done ≤ y.count

theorem lawful_empty : empty.Lawful := by
  refine ⟨?_, ?_, rfl, ?_, ?_⟩ <;> simp [empty, issues]

theorem Lawful.set {b : Board} (h : b.Lawful) {i : Nat} {v v' : Slot} (hv : b.slot? i = some v)
    (hlawful : v'.Lawful) (hdeposited : v'.deposited = v.deposited) : (b.set i v').Lawful := by
  obtain ⟨hget, -⟩ := slot?_eq_some hv
  obtain ⟨hi, -⟩ := List.getElem?_eq_some_iff.mp hget
  refine ⟨?_, ?_, h.places, ?_, h.done⟩
  · intro u hu
    rcases List.mem_or_eq_of_mem_set hu with hmem | rfl
    · exact h.slots u hmem
    · exact hlawful
  · intro j u hu
    by_cases hij : i = j
    · subst hij
      obtain rfl : v' = u := by simpa [Board.set, hi] using hu
      rw [hdeposited]
      exact h.deposited i v hget
    · exact h.deposited j u (by simpa [Board.set, List.getElem?_set_ne hij] using hu)
  · intro y hy
    simpa [Board.set] using h.counts y hy

theorem Lawful.slot {b : Board} (h : b.Lawful) {i : Nat} {v : Slot} (hv : b.slot? i = some v) :
    v.Lawful :=
  h.slots v (List.mem_of_getElem? (slot?_eq_some hv).1)

/-- No publication reaches a box that is not there. -/
theorem Lawful.reached_eq_nil {b : Board} (h : b.Lawful) {i : Nat} (hi : b.slots.length ≤ i) :
    b.reached i = [] := by
  have hpast : b.past.filter (fun y => decide (i < y.count)) = [] := by
    rw [List.filter_eq_nil_iff]
    intro y hy
    have := h.counts y (List.mem_append_left _ hy)
    simp only [decide_eq_true_eq]
    omega
  rcases hcurrent : b.current with _ | ⟨y, done⟩
  · simp [reached, hpast, arrived, hcurrent]
  · have hcount := h.counts y (by simp [issues, hcurrent])
    have hdone := h.done y done hcurrent
    have hnot : ¬ i < done := by omega
    simp [reached, hpast, arrived, hcurrent, hnot]

/-- **Every step of a board keeps its histories fitting together.** -/
theorem Lawful.step {b b' : Board} {op : Op} {reply : Reply} (h : b.Lawful)
    (hgoes : Goes b op b' reply) : b'.Lawful := by
  cases hgoes with
  | register hopen =>
    refine ⟨?_, ?_, h.places, ?_, h.done⟩
    · intro v hv
      rcases List.mem_append.mp hv with hmem | hnew
      · exact h.slots v hmem
      · exact (List.mem_singleton.mp hnew) ▸ Slot.lawful_empty
    · intro i v hv
      rcases Nat.lt_or_ge i b.slots.length with hlt | hge
      · exact h.deposited i v (by simpa [List.getElem?_append_left hlt] using hv)
      · obtain rfl : Slot.empty = v := by
          rw [List.getElem?_append_right hge] at hv
          exact List.mem_singleton.mp (List.mem_of_getElem? hv) ▸ rfl
        exact (h.reached_eq_nil hge).symm
    · intro y hy
      have := h.counts y hy
      simp only [List.length_append, List.length_singleton]
      omega
  | copy s hopen hnone =>
    have hissues : b.issues = b.past := by simp [issues, hnone]
    refine ⟨h.slots, ?_, ?_, ?_, ?_⟩
    · intro i v hv
      simpa [reached, arrived, hnone] using h.deposited i v hv
    · have hplaces := h.places
      rw [hissues] at hplaces
      simp [issues, hplaces, List.range_succ]
    · intro y hy
      rcases List.mem_append.mp hy with hmem | hnew
      · exact h.counts y (hissues ▸ hmem)
      · simp only [Option.map_some, Option.toList_some, List.mem_singleton] at hnew
        exact Nat.le_of_eq (congrArg Issue.count hnew)
    · intro y done hcurrent
      cases hcurrent
      exact Nat.zero_le _
  | @deposit y done hcurrent hlt =>
    have hat : ∀ i v, (b.slots.modify done (·.deposit y))[i]? = some v →
        ∃ u, b.slots[i]? = some u ∧ v = if done = i then u.deposit y else u := by
      intro i v hv
      rw [List.getElem?_modify, Option.map_eq_map, Option.map_eq_some_iff] at hv
      obtain ⟨u, hu, rfl⟩ := hv
      exact ⟨u, hu, rfl⟩
    refine ⟨?_, ?_, ?_, ?_, ?_⟩
    · intro v hv
      obtain ⟨i, hi⟩ := List.mem_iff_getElem?.mp hv
      obtain ⟨u, hu, rfl⟩ := hat i v hi
      have hlawful := h.slots u (List.mem_of_getElem? hu)
      split
      · exact hlawful.deposit y
      · exact hlawful
    · intro i v hv
      obtain ⟨u, hu, rfl⟩ := hat i v hv
      have hdeposited := h.deposited i u hu
      by_cases hi : done = i
      · -- the box is the one written now: it did not have the publication before
        subst hi
        simp only [reached, arrived, hcurrent, Nat.lt_irrefl, if_false, List.append_nil] at hdeposited
        simp [Slot.deposit, hdeposited, reached, arrived]
      · have hsame : i < done + 1 ↔ i < done := by omega
        simpa [hi, reached, arrived, hcurrent, hsame] using hdeposited
    · simpa [issues, hcurrent] using h.places
    · simpa [issues, hcurrent] using h.counts
    · intro z m hz
      cases hz
      exact hlt
  | @finish y done hcurrent hle =>
    obtain rfl : done = y.count := Nat.le_antisymm (h.done y done hcurrent) hle
    refine ⟨h.slots, ?_, ?_, ?_, ?_⟩
    · intro i v hv
      have hdeposited := h.deposited i v hv
      simpa [reached, arrived, hcurrent, List.filter_append, List.filter_singleton,
        Bool.cond_decide] using hdeposited
    · simpa [issues, hcurrent] using h.places
    · simpa [issues, hcurrent] using h.counts
    · intro z m hz
      cases hz
  | hasPending hv => exact h
  | tryReceive hv => exact h.set hv (h.slot hv).take (Slot.take_deposited _)
  | receive hv => exact h.set hv (h.slot hv).take (Slot.take_deposited _)
  | giveUp hv => exact h.set hv (h.slot hv).giveUp rfl
  | drop hopen hnone => exact ⟨h.slots, h.deposited, h.places, h.counts, h.done⟩

end Board

/-! ### An exchange goes as a board goes -/

/-- How an exchange shows a board. -/
structure Exchange.Models (x : Exchange) (b : Board) : Prop where
  size : x.registry.size = b.slots.length
  boxes : ∀ (i : Nat) (box : Box) (v : Slot),
    x.registry.boxes[i]? = some box → b.slots[i]? = some v → box.Models v
  publication : x.publication = b.current.map fun c => ⟨c.1.snapshot, c.1.count, c.2⟩
  isOpen : x.isOpen = b.isOpen

theorem Registry.giveUp_eq_set {r : Registry} {i : Nat} {box : Box} (h : r.boxes[i]? = some box) :
    r.giveUp i = r.set i { box with held := false } := by
  simp [giveUp, set, List.modify_eq_set_getElem?, h]

namespace Exchange

theorem models_empty : Exchange.Models .empty .empty :=
  ⟨rfl, by simp [empty, Registry.empty], rfl, rfl⟩

theorem Models.slot? {x : Exchange} {b : Board} (h : x.Models b) {i : Nat} {box : Box}
    (hbox : x.registry.box? i = some box) : ∃ v, b.slot? i = some v ∧ box.Models v := by
  obtain ⟨hget, hheld⟩ := Option.filter_eq_some_iff.mp hbox
  obtain ⟨hi, -⟩ := List.getElem?_eq_some_iff.mp hget
  have hi' : i < b.slots.length := h.size ▸ hi
  have hv : b.slots[i]? = some b.slots[i] := List.getElem?_eq_getElem hi'
  have hmodels := h.boxes i box _ hget hv
  exact ⟨b.slots[i], Option.filter_eq_some_iff.mpr ⟨hv, hmodels.held ▸ hheld⟩, hmodels⟩

theorem Models.set {x : Exchange} {b : Board} (h : x.Models b) (i : Nat) {box : Box} {v : Slot}
    (hbox : box.Models v) :
    Exchange.Models { x with registry := x.registry.set i box } (b.set i v) := by
  refine ⟨?_, ?_, h.publication, h.isOpen⟩
  · simpa [Board.set] using h.size
  · intro j box' v' hbox' hv'
    simp only [Registry.set, List.getElem?_set] at hbox'
    simp only [Board.set, List.getElem?_set] at hv'
    by_cases hij : i = j
    · have hbox' : box = box' := by
        simp only [hij, if_true, Option.ite_none_right_eq_some, Option.some.injEq] at hbox'
        exact hbox'.2
      have hv' : v = v' := by
        simp only [hij, if_true, Option.ite_none_right_eq_some, Option.some.injEq] at hv'
        exact hv'.2
      exact hbox' ▸ hv' ▸ hbox
    · rw [if_neg hij] at hbox' hv'
      exact h.boxes j box' v' hbox' hv'

theorem Models.register {x : Exchange} {b : Board} (h : x.Models b) :
    Exchange.Models { x with registry := x.registry.register }
      { b with slots := b.slots ++ [.empty] } := by
  refine ⟨by simp [h.size], ?_, h.publication, h.isOpen⟩
  intro i box v hbox hv
  have hsize : x.registry.boxes.length = b.slots.length := h.size
  simp only [Registry.register, List.getElem?_append, hsize] at hbox
  simp only [List.getElem?_append] at hv
  split at hbox
  · next hlt =>
    rw [if_pos hlt] at hv
    exact h.boxes i box v hbox hv
  · next hge =>
    rw [if_neg hge] at hv
    obtain rfl := List.mem_singleton.mp (List.mem_of_getElem? hbox)
    obtain rfl := List.mem_singleton.mp (List.mem_of_getElem? hv)
    exact Box.models_empty

theorem Models.deposit {x : Exchange} {b : Board} (h : x.Models b) {y : Issue} {done : Nat} :
    Exchange.Models
      { x with
        registry := x.registry.deposit done y.snapshot
        publication := some ⟨y.snapshot, y.count, done + 1⟩ }
      { b with slots := b.slots.modify done (·.deposit y), current := some (y, done + 1) } := by
  refine ⟨by simp [h.size], ?_, rfl, h.isOpen⟩
  intro i box v hbox hv
  rw [Registry.deposit, List.getElem?_modify, Option.map_eq_map, Option.map_eq_some_iff] at hbox
  rw [List.getElem?_modify, Option.map_eq_map, Option.map_eq_some_iff] at hv
  obtain ⟨box, hbox, rfl⟩ := hbox
  obtain ⟨v, hv, rfl⟩ := hv
  have hmodels := h.boxes i box v hbox hv
  split
  · exact hmodels.deposit y
  · exact hmodels

/-- **Every step of an exchange is a step of the board that it shows, with the same reply.** -/
theorem Models.step {x x' : Exchange} {b : Board} {op : Op} {reply : Reply} (h : x.Models b)
    (hb : b.Lawful) (hstep : x.step op = some (x', reply)) :
    ∃ b', b.step op = some (b', reply) ∧ x'.Models b' := by
  cases op with
  | register =>
    simp only [Exchange.step, Option.ite_none_right_eq_some, Option.some.injEq, Prod.mk.injEq]
      at hstep
    obtain ⟨hopen, rfl, rfl⟩ := hstep
    exact ⟨_, by simp [Board.step, ← h.isOpen, hopen, h.size], h.register⟩
  | copy s =>
    simp only [Exchange.step, Option.ite_none_right_eq_some, Option.some.injEq, Prod.mk.injEq,
      Bool.and_eq_true, Option.isNone_iff_eq_none] at hstep
    obtain ⟨⟨hopen, hnone⟩, rfl, rfl⟩ := hstep
    have hcurrent := Option.map_eq_none_iff.mp (h.publication.symm.trans hnone)
    exact ⟨{ b with current := some (⟨b.past.length, s, b.slots.length⟩, 0) },
      by simp [Board.step, ← h.isOpen, hopen, hcurrent, h.size],
      h.size, h.boxes, by simp [h.size], h.isOpen⟩
  | deposit =>
    rcases hcurrent : b.current with _ | ⟨y, done⟩
    · simp [Exchange.step, h.publication, hcurrent] at hstep
    · simp only [Exchange.step, h.publication, hcurrent, Option.map_some, Option.bind_eq_bind,
        Option.bind_some, Option.ite_none_right_eq_some, Option.some.injEq, Prod.mk.injEq] at hstep
      obtain ⟨hlt, rfl, rfl⟩ := hstep
      exact ⟨_, by simp [Board.step, hcurrent, hlt], h.deposit⟩
  | finish =>
    rcases hcurrent : b.current with _ | ⟨y, done⟩
    · simp [Exchange.step, h.publication, hcurrent] at hstep
    · simp only [Exchange.step, h.publication, hcurrent, Option.map_some, Option.bind_eq_bind,
        Option.bind_some, Option.ite_none_left_eq_some, Option.some.injEq, Prod.mk.injEq] at hstep
      obtain ⟨hle, rfl, rfl⟩ := hstep
      exact ⟨{ b with past := b.past ++ [y], current := none }, by simp [Board.step, hcurrent, hle],
        h.size, h.boxes, rfl, h.isOpen⟩
  | hasPending i =>
    simp only [Exchange.step, Registry.hasPending?, Option.map_map, Option.map_eq_some_iff,
      Function.comp_apply, Prod.mk.injEq] at hstep
    obtain ⟨box, hbox, rfl, rfl⟩ := hstep
    obtain ⟨v, hv, hmodels⟩ := h.slot? hbox
    exact ⟨b, by simp [Board.step, hv, hmodels.hasPending (hb.slot hv)], h⟩
  | tryReceive i =>
    simp only [Exchange.step, Registry.tryReceive?, Option.bind_eq_bind, Option.pure_def,
      Option.map_eq_some_iff, Option.bind_eq_some_iff, Option.some.injEq] at hstep
    obtain ⟨r, ⟨box, hbox, rfl⟩, hr⟩ := hstep
    cases hr
    obtain ⟨v, hv, hmodels⟩ := h.slot? hbox
    exact ⟨b.set i v.take, by simp [Board.step, hv, Box.tryReceive, hmodels.unread (hb.slot hv)],
      h.set i (hmodels.look (hb.slot hv))⟩
  | receive i =>
    simp only [Exchange.step, Registry.receive?, Option.bind_eq_bind, Option.pure_def,
      Option.map_eq_some_iff, Option.bind_eq_some_iff, Option.some.injEq] at hstep
    obtain ⟨r, ⟨box, hbox, rfl⟩, hr⟩ := hstep
    cases hr
    obtain ⟨v, hv, hmodels⟩ := h.slot? hbox
    have hunread := hmodels.unread (hb.slot hv)
    rcases hcontent : v.content with _ | y
    · -- the wait goes on or ends, and nobody looks at the box
      have htake : v.take = v := by simp [Slot.take, hcontent]
      have hreceive : box.receive x.isOpen = (b.nothingUnread, box) := by
        simp [Box.receive, hunread, hcontent, Board.nothingUnread, h.isOpen]
      rw [hreceive]
      exact ⟨b.set i v, by simp [Board.step, hv, hcontent, htake], h.set i hmodels⟩
    · have hreceive : box.receive x.isOpen = (.snapshot y.snapshot, box.look) := by
        simp [Box.receive, hunread, hcontent]
      rw [hreceive]
      exact ⟨b.set i v.take, by simp [Board.step, hv, hcontent],
        h.set i (hmodels.look (hb.slot hv))⟩
  | giveUp i =>
    simp only [Exchange.step, Option.map_eq_some_iff, Prod.mk.injEq] at hstep
    obtain ⟨box, hbox, rfl, rfl⟩ := hstep
    obtain ⟨v, hv, hmodels⟩ := h.slot? hbox
    rw [Registry.giveUp_eq_set (Option.filter_eq_some_iff.mp hbox).1]
    exact ⟨b.set i { v with held := false }, by simp [Board.step, hv], h.set i hmodels.giveUp⟩
  | drop =>
    simp only [Exchange.step, Option.ite_none_right_eq_some, Option.some.injEq, Prod.mk.injEq,
      Bool.and_eq_true, Option.isNone_iff_eq_none] at hstep
    obtain ⟨⟨hopen, hnone⟩, rfl, rfl⟩ := hstep
    have hcurrent := Option.map_eq_none_iff.mp (h.publication.symm.trans hnone)
    exact ⟨{ b with isOpen := false }, by simp [Board.step, ← h.isOpen, hopen, hcurrent],
      h.size, h.boxes, h.publication, rfl⟩

end Exchange

/-! ### What a log shows of a board -/

namespace Board

def readBy (b : Board) (i : Nat) : List Issue := (b.slots[i]?.map (·.read)).getD []

theorem readBy_of_slot {b : Board} {i : Nat} {v : Slot} (hv : b.slots[i]? = some v) :
    b.readBy i = v.read := by
  simp [readBy, hv]

theorem readBy_set {b : Board} {i : Nat} {v : Slot} (hv : b.slot? i = some v) (v' : Slot) (j : Nat) :
    (b.set i v').readBy j = if i = j then v'.read else b.readBy j := by
  obtain ⟨hi, -⟩ := List.getElem?_eq_some_iff.mp (slot?_eq_some hv).1
  by_cases hij : i = j
  · subst hij
    simp [readBy, set, hi]
  · simp [readBy, set, List.getElem?_set_ne hij, hij]

theorem readBy_register (b : Board) (i : Nat) :
    readBy { b with slots := b.slots ++ [.empty] } i = b.readBy i := by
  rcases Nat.lt_trichotomy i b.slots.length with hlt | rfl | hgt
  · simp [readBy, List.getElem?_append_left hlt]
  · simp [readBy, Slot.empty]
  · have hle : (b.slots ++ [Slot.empty]).length ≤ i := by
      simp only [List.length_append, List.length_singleton]
      omega
    simp [readBy, List.getElem?_eq_none hle, List.getElem?_eq_none (Nat.le_of_lt hgt)]

theorem readBy_deposit (b : Board) (y : Issue) (done : Nat) (current : Option (Issue × Nat))
    (i : Nat) :
    readBy { b with slots := b.slots.modify done (·.deposit y), current } i = b.readBy i := by
  by_cases hi : done = i
  · subst hi
    rcases hv : b.slots[done]? with _ | v <;> simp [readBy, hv, Slot.deposit]
  · simp [readBy, List.getElem?_modify_ne _ _ hi]

theorem readBy_giveUp {b : Board} {i : Nat} {v : Slot} (hv : b.slot? i = some v) (j : Nat) :
    (b.set i { v with held := false }).readBy j = b.readBy j := by
  rw [readBy_set hv]
  split
  · next hij => rw [← hij, readBy_of_slot (slot?_eq_some hv).1]
  · rfl

/-- What a log says of the publications and the reads of a board. -/
structure Recorded (b : Board) (log : Log) : Prop where
  mailboxes : b.slots.length = log.registrations
  publications : b.issues.map (fun y => (y.snapshot, y.count)) = log.publications
  returned : b.past.map (·.count) = log.returned
  reads : ∀ i, (b.readBy i).map (·.snapshot) = log.reads i

theorem recorded_empty : empty.Recorded [] := ⟨rfl, rfl, rfl, fun _ => rfl⟩

/-- What a step changes for the log is what the log shows of the step. -/
theorem Recorded.append {b b' : Board} {log more : Log} (h : b.Recorded log)
    (hmailboxes : b'.slots.length = b.slots.length + more.registrations)
    (hpublications : b'.issues.map (fun y => (y.snapshot, y.count)) =
      b.issues.map (fun y => (y.snapshot, y.count)) ++ more.publications)
    (hreturned : b'.past.map (·.count) = b.past.map (·.count) ++ more.returned)
    (hreads : ∀ i, (b'.readBy i).map (·.snapshot) = (b.readBy i).map (·.snapshot) ++ more.reads i) :
    b'.Recorded (log ++ more) where
  mailboxes := by rw [hmailboxes, h.mailboxes, Log.registrations_append]
  publications := by rw [hpublications, h.publications, Log.publications_append]
  returned := by rw [hreturned, h.returned, Log.returned_append]
  reads i := by rw [hreads, h.reads, Log.reads_append]

theorem map_readBy_set_take {b : Board} {i : Nat} {v : Slot} (hv : b.slot? i = some v) (j : Nat) :
    ((b.set i v.take).readBy j).map (·.snapshot) =
      (b.readBy j).map (·.snapshot) ++
        if i = j then (v.content.map (·.snapshot)).toList else [] := by
  rw [readBy_set hv]
  by_cases hij : i = j
  · subst hij
    rw [if_pos rfl, if_pos rfl, readBy_of_slot (slot?_eq_some hv).1, Slot.take_read]
    rcases v.content with _ | y <;> simp
  · simp [hij]

theorem Recorded.step {b b' : Board} {log : Log} {op : Op} {reply : Reply} (h : b.Recorded log)
    (hgoes : Goes b op b' reply) : b'.Recorded (log ++ [(op, reply)]) := by
  cases hgoes with
  | register hopen =>
    refine h.append (by simp [Log.registrations]) (by simp [Log.publications, issues])
      (by simp [Log.returned]) fun i => ?_
    simp [Log.reads, Log.readBy, readBy_register]
  | copy s hopen hnone =>
    refine h.append (by simp [Log.registrations]) (by simp [Log.publications, issues, hnone])
      (by simp [Log.returned]) fun i => ?_
    simp [Log.reads, Log.readBy, readBy]
  | @deposit y done hcurrent hlt =>
    refine h.append (by simp [Log.registrations]) (by simp [Log.publications, issues, hcurrent])
      (by simp [Log.returned]) fun i => ?_
    simp [Log.reads, Log.readBy, readBy_deposit]
  | finish hcurrent hle =>
    refine h.append (by simp [Log.registrations]) (by simp [Log.publications, issues, hcurrent])
      (by simp [Log.returned]) fun i => ?_
    simp [Log.reads, Log.readBy, readBy]
  | hasPending hv =>
    refine h.append (by simp [Log.registrations]) (by simp [Log.publications])
      (by simp [Log.returned]) fun i => ?_
    simp [Log.reads, Log.readBy]
  | @tryReceive i v hv =>
    refine h.append (by simp [Log.registrations, set]) (by simp [Log.publications, issues, set])
      (by simp [Log.returned, set]) fun j => ?_
    rw [map_readBy_set_take hv, Log.reads_tryReceive]
  | @receive i v hv =>
    refine h.append (by simp [Log.registrations, set]) (by simp [Log.publications, issues, set])
      (by simp [Log.returned, set]) fun j => ?_
    rw [map_readBy_set_take hv]
    rcases v.content with _ | y
    · have hnone : Log.reads [(.receive i, .receipt b.nothingUnread)] j = [] := by
        unfold nothingUnread
        split <;> rfl
      simp [hnone]
    · simp [Log.reads_receive]
  | giveUp hv =>
    refine h.append (by simp [Log.registrations, set]) (by simp [Log.publications, issues, set])
      (by simp [Log.returned, set]) fun j => ?_
    simp [Log.reads, Log.readBy, readBy_giveUp hv]
  | drop hopen hnone =>
    refine h.append (by simp [Log.registrations]) (by simp [Log.publications, issues])
      (by simp [Log.returned]) fun i => ?_
    simp [Log.reads, Log.readBy, readBy]

/-! ### Whole runs -/

theorem Lawful.lt_count_of_mem_reached {b : Board} (h : b.Lawful) {i : Nat} {y : Issue}
    (hy : y ∈ b.reached i) : i < y.count := by
  rcases List.mem_append.mp hy with hpast | harrived
  · exact of_decide_eq_true (List.mem_filter.mp hpast).2
  · rcases hcurrent : b.current with _ | ⟨z, done⟩
    · simp [arrived, hcurrent] at harrived
    · have hdone := h.done z done hcurrent
      simp only [arrived, hcurrent, List.mem_ite_nil_right, List.mem_singleton] at harrived
      obtain ⟨hlt, rfl⟩ := harrived
      omega

theorem reached_sublist_issues (b : Board) (i : Nat) : (b.reached i).Sublist b.issues := by
  refine List.filter_sublist.append ?_
  rcases hcurrent : b.current with _ | ⟨y, done⟩
  · simp [arrived, hcurrent]
  · simp only [arrived, hcurrent, Option.map_some, Option.toList_some]
    split
    · exact List.Sublist.refl _
    · exact List.nil_sublist _

/-- What a board, reached by a run, says of the exchange that has made the run and of its log. -/
structure Explains (b : Board) (x : Exchange) (log : Log) : Prop where
  /-- A mailbox counts what has been put into it, and what is unread in it is the last of what has been
  put into it since its last successful read, or nothing. -/
  unread : ∀ (i : Nat) (box : Box), x.registry.boxes[i]? = some box → ∃ v, b.slots[i]? = some v ∧
    box.Models v ∧ box.unread = v.since.getLast?.map (·.snapshot)
  /-- Something is pending just when a read without waiting would come back with it. -/
  pending : ∀ i, x.registry.hasPending? i = (x.registry.tryReceive? i).map (·.1.isSome)
  /-- A wait ends without a snapshot just when the registry is gone and nothing is unread. -/
  ended : ∀ (i : Nat) (box : Box), x.registry.box? i = some box →
    ((x.registry.receive? i x.isOpen).map (·.1) = some .ended ↔
      x.isOpen = false ∧ box.unread = none)
  /-- A reader reads publications in their order, and none of them twice. -/
  reads : ∀ (i : Nat) (v : Slot), b.slots[i]? = some v →
    v.read.Sublist b.issues ∧ v.read.Nodup ∧ v.read.map (·.snapshot) = log.reads i
  /-- The publications are those that have begun, each for the boxes that it has copied. -/
  publications : b.issues.Nodup ∧
    b.issues.map (fun y => (y.snapshot, y.count)) = log.publications
  /-- A publication that is over has been put into every box registered before it. -/
  delivered : ∀ (i : Nat) (v : Slot), b.slots[i]? = some v →
    ∀ y ∈ b.past, i < y.count → y ∈ v.deposited
  /-- No publication is put into a box registered after it. -/
  undelivered : ∀ (i : Nat) (v : Slot), b.slots[i]? = some v →
    ∀ y, y.count ≤ i → y ∉ v.deposited
  /-- A publication returns how many boxes it has copied. -/
  returned : b.past.map (·.count) = log.returned
  /-- All boxes that have been registered are counted, given up ones included. -/
  mailboxes : x.registry.size = log.registrations

theorem explains_of_models {b : Board} {x : Exchange} {log : Log} (hmodels : x.Models b)
    (hlawful : b.Lawful) (hrecorded : b.Recorded log) : b.Explains x log := by
  have hplaces : (b.issues.map Issue.place).Nodup := hlawful.places ▸ List.nodup_range
  have hnodup : b.issues.Nodup := List.Nodup.of_map Issue.place hplaces
  have hread : ∀ (i : Nat) (v : Slot), b.slots[i]? = some v → v.read.Sublist b.issues := by
    intro i v hv
    obtain ⟨before, hdeposited, hread⟩ := (hlawful.slots v (List.mem_of_getElem? hv)).history
    have hbefore : before.Sublist v.deposited := hdeposited ▸ List.sublist_append_left _ _
    rw [hlawful.deposited i v hv] at hbefore
    exact (hread.trans hbefore).trans (b.reached_sublist_issues i)
  refine ⟨?_, ?_, ?_, ?_, ⟨hnodup, hrecorded.publications⟩, ?_, ?_, hrecorded.returned, ?_⟩
  · intro i box hbox
    obtain ⟨hi, -⟩ := List.getElem?_eq_some_iff.mp hbox
    have hi' : i < b.slots.length := hmodels.size ▸ hi
    have hv : b.slots[i]? = some b.slots[i] := List.getElem?_eq_getElem hi'
    have hslot := hlawful.slots _ (List.getElem_mem hi')
    have hshows := hmodels.boxes i box _ hbox hv
    exact ⟨_, hv, hshows, (hshows.unread hslot).trans (by rw [hslot.content])⟩
  · intro i
    rcases hbox : x.registry.box? i with _ | box
    · simp [Registry.hasPending?, Registry.tryReceive?, hbox]
    · obtain ⟨v, hv, hshows⟩ := hmodels.slot? hbox
      have hslot := hlawful.slot hv
      simp [Registry.hasPending?, Registry.tryReceive?, Box.tryReceive, hbox,
        hshows.hasPending hslot, hshows.unread hslot]
  · intro i box hbox
    rcases hunread : box.unread with _ | s <;> cases hopen : x.isOpen <;>
      simp [Registry.receive?, Box.receive, hbox, hunread]
  · intro i v hv
    refine ⟨hread i v hv, hnodup.sublist (hread i v hv), ?_⟩
    rw [← readBy_of_slot hv]
    exact hrecorded.reads i
  · intro i v hv y hy hlt
    rw [hlawful.deposited i v hv]
    exact List.mem_append_left _ (List.mem_filter.mpr ⟨hy, decide_eq_true hlt⟩)
  · intro i v hv y hle hmem
    rw [hlawful.deposited i v hv] at hmem
    have := hlawful.lt_count_of_mem_reached hmem
    omega
  · exact hmodels.size.trans hrecorded.mailboxes

end Board

/-- `Exchange.Models.step` along a run. -/
theorem Exchange.Models.run {x x' : Exchange} {b : Board} {past log : Log} {ops : List Op}
    (hmodels : x.Models b) (hlawful : b.Lawful) (hrecorded : b.Recorded past)
    (hrun : x.run ops = some (x', log)) :
    ∃ b', b.run ops = some (b', log) ∧ x'.Models b' ∧ b'.Lawful ∧ b'.Recorded (past ++ log) := by
  induction ops generalizing x b past log with
  | nil =>
    cases hrun
    exact ⟨b, rfl, hmodels, hlawful, by simpa using hrecorded⟩
  | cons op ops ih =>
    obtain ⟨x₁, reply, rest, hstep, hrest, rfl⟩ := Exchange.run_cons_eq_some_iff.mp hrun
    obtain ⟨b₁, hb₁, hmodels₁⟩ := hmodels.step hlawful hstep
    have hgoes := Board.goes_of_step hb₁
    obtain ⟨b', hb', hmodels', hlawful', hrecorded'⟩ :=
      ih hmodels₁ (hlawful.step hgoes) (hrecorded.step hgoes) hrest
    exact ⟨b', Board.run_cons_of_step hb₁ hb', hmodels', hlawful', by simpa using hrecorded'⟩

/-- **A registry and its mailboxes are a list of one-slot boxes of which the most recent deposit wins.**
Whatever clients, readers and the publisher do in whatever order, the replies are those of a
board, and the board explains what is unread, what has been read and what has been published. -/
theorem registry_refines_board {ops : List Op} {x : Exchange} {log : Log}
    (hrun : Exchange.empty.run ops = some (x, log)) :
    ∃ b, Board.empty.run ops = some (b, log) ∧ b.Explains x log := by
  obtain ⟨b, hb, hmodels, hlawful, hrecorded⟩ :=
    Exchange.models_empty.run Board.lawful_empty Board.recorded_empty hrun
  exact ⟨b, hb, Board.explains_of_models hmodels hlawful (by simpa using hrecorded)⟩

/-- A mailbox that is registered while a publication goes on gets the next one only.  The other is given
up, and the registry is dropped with something unread. -/
def lateMailbox : List Op :=
  [.register, .copy [], .register, .deposit, .hasPending 0, .finish, .tryReceive 1, .tryReceive 0,
    .receive 0, .giveUp 0, .copy [⟨.pd, "10.0.0.2", 2379, 2379⟩], .deposit, .receive 1, .deposit,
    .finish, .drop, .receive 1, .receive 1]

theorem lateMailbox_refines_board :
    ∃ x log, Exchange.empty.run lateMailbox = some (x, log) ∧
      ∃ b, Board.empty.run lateMailbox = some (b, log) ∧ b.Explains x log := by
  have hsome : (Exchange.empty.run lateMailbox).isSome = true := by rfl
  obtain ⟨⟨x, log⟩, hrun⟩ := Option.isSome_iff_exists.mp hsome
  exact ⟨x, log, hrun, registry_refines_board hrun⟩

end ClusterTopology
