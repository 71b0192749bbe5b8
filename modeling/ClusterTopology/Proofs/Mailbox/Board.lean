import Mathlib.Data.List.Basic
import Mathlib.Tactic.Common
import ClusterTopology.Mailbox
/-!
A registry at work, and what it and its mailboxes are for: a list of one-slot boxes.

Clients register mailboxes, read them and give them up while one publisher at a time hands out snapshots.  A
publication is no single step: it copies the list of boxes first, and then writes the boxes that it has copied,
one after the other.  Everything else can happen in between, but that the registry is dropped: the publisher
still holds it.

A board has no counters.  A box on it holds the publication that nobody has read yet, or nothing, and remembers
what has been put into it and what has been taken out.  An exchange and a board go through the same steps with
the same replies, so whatever holds of the boxes of a board holds of what readers of mailboxes get to see.

The two halves of the module define the exchange and the board; `Box.Models` at its end ties one box to one
slot by the counters, and every operation on a box keeps that.  What is proved of whole runs is in
`Proofs.Mailbox.Refinement`.
-/

namespace ClusterTopology

/-! ## Exchanges -/

/-- A publication under way: what it hands out, how many boxes it has copied, and how many of them it
has written. -/
structure Publication where
  snapshot : Snapshot
  count : Nat
  done : Nat
deriving DecidableEq, Repr

/-- A registry with its mailboxes and its publisher. -/
structure Exchange where
  registry : Registry
  publication : Option Publication
  /-- Whether the registry has not been dropped. -/
  isOpen : Bool
deriving DecidableEq, Repr

/-- A step of the registry, of its publisher, or of a reader of box `i`. -/
inductive Op where
  | register
  /-- A publication begins: the list of boxes is copied. -/
  | copy (s : Snapshot)
  /-- The publisher writes the next of the boxes that it has copied. -/
  | deposit
  /-- The publisher has written all of them, and returns. -/
  | finish
  | hasPending (i : Nat)
  | tryReceive (i : Nat)
  /-- A wait is looked at.  One that is pending may be looked at again, or be abandoned. -/
  | receive (i : Nat)
  | giveUp (i : Nat)
  /-- The registry is dropped. -/
  | drop
deriving DecidableEq, Repr

inductive Reply where
  | nothing
  | mailbox (i : Nat)
  /-- So many boxes have been copied. -/
  | copied (n : Nat)
  /-- The publisher returns so many boxes. -/
  | written (n : Nat)
  | pending (b : Bool)
  | found (s : Option Snapshot)
  | receipt (r : Receipt)
deriving DecidableEq, Repr

/-- The steps that have been taken, in order, each with its reply. -/
abbrev Log := List (Op × Reply)

namespace Log

/-- What the reader of box `i` has got with a step. -/
def readBy (i : Nat) : Op × Reply → Option Snapshot
  | (.tryReceive j, .found s) => if j = i then s else none
  | (.receive j, .receipt (.snapshot s)) => if j = i then some s else none
  | _ => none

def reads (log : Log) (i : Nat) : List Snapshot := log.filterMap (readBy i)

/-- The publications that have begun, in order, each with the number of boxes that it has copied. -/
def publications (log : Log) : List (Snapshot × Nat) := log.filterMap fun
  | (.copy s, .copied n) => some (s, n)
  | _ => none

def returned (log : Log) : List Nat := log.filterMap fun
  | (_, .written n) => some n
  | _ => none

def registrations (log : Log) : Nat := log.countP (·.1 = .register)

theorem reads_append (log more : Log) (i : Nat) :
    reads (log ++ more) i = log.reads i ++ more.reads i :=
  List.filterMap_append

theorem publications_append (log more : Log) :
    publications (log ++ more) = log.publications ++ more.publications :=
  List.filterMap_append

theorem returned_append (log more : Log) :
    returned (log ++ more) = log.returned ++ more.returned :=
  List.filterMap_append

theorem registrations_append (log more : Log) :
    registrations (log ++ more) = log.registrations + more.registrations :=
  List.countP_append

theorem reads_tryReceive (i j : Nat) (found : Option Snapshot) :
    reads [(.tryReceive i, .found found)] j = if i = j then found.toList else [] := by
  by_cases hij : i = j <;> cases found <;> simp [reads, readBy, hij]

theorem reads_receive (i j : Nat) (s : Snapshot) :
    reads [(.receive i, .receipt (.snapshot s))] j = if i = j then [s] else [] := by
  by_cases hij : i = j <;> simp [reads, readBy, hij]

end Log

namespace Exchange

def empty : Exchange := ⟨.empty, none, true⟩

def step (x : Exchange) : Op → Option (Exchange × Reply)
  | .register =>
    if x.isOpen then
      some ({ x with registry := x.registry.register }, .mailbox x.registry.size)
    else none
  | .copy s =>
    if x.isOpen && x.publication.isNone then
      some ({ x with publication := some ⟨s, x.registry.size, 0⟩ }, .copied x.registry.size)
    else none
  | .deposit => do
    let p ← x.publication
    if p.done < p.count then
      some ({ x with
        registry := x.registry.deposit p.done p.snapshot
        publication := some { p with done := p.done + 1 } }, .nothing)
    else none
  | .finish => do
    let p ← x.publication
    if p.done < p.count then none else some ({ x with publication := none }, .written p.count)
  | .hasPending i => (x.registry.hasPending? i).map fun b => (x, .pending b)
  | .tryReceive i =>
    (x.registry.tryReceive? i).map fun (found, registry) => ({ x with registry }, .found found)
  | .receive i =>
    (x.registry.receive? i x.isOpen).map fun (r, registry) => ({ x with registry }, .receipt r)
  | .giveUp i =>
    (x.registry.box? i).map fun _ => ({ x with registry := x.registry.giveUp i }, .nothing)
  | .drop =>
    if x.isOpen && x.publication.isNone then some ({ x with isOpen := false }, .nothing) else none

def run : Exchange → List Op → Option (Exchange × Log)
  | x, [] => some (x, [])
  | x, op :: ops => do
    let (x, reply) ← x.step op
    let (x, log) ← run x ops
    return (x, (op, reply) :: log)

theorem run_cons_eq_some_iff {x x' : Exchange} {op : Op} {ops : List Op} {log : Log} :
    run x (op :: ops) = some (x', log) ↔
      ∃ x₁ reply rest, x.step op = some (x₁, reply) ∧ run x₁ ops = some (x', rest) ∧
        log = (op, reply) :: rest := by
  simp only [run, Option.bind_eq_bind, Option.bind_eq_some_iff, Prod.exists, Option.pure_def,
    Option.some.injEq, Prod.mk.injEq]
  constructor
  · rintro ⟨x₁, reply, hstep, x₂, rest, hrun, rfl, rfl⟩
    exact ⟨x₁, reply, rest, hstep, hrun, rfl⟩
  · rintro ⟨x₁, reply, rest, hstep, hrun, rfl⟩
    exact ⟨x₁, reply, hstep, x', rest, hrun, rfl, rfl⟩

/-! ### A publication that nothing comes between -/

theorem run_deposits (x : Exchange) (r : Registry) (s : Snapshot) (done left : Nat) :
    run { x with registry := r.depositFirst s done, publication := some ⟨s, done + left, done⟩ }
        (List.replicate left .deposit ++ [.finish]) =
      some ({ x with registry := r.depositFirst s (done + left), publication := none },
        List.replicate left (.deposit, .nothing) ++ [(.finish, .written (done + left))]) := by
  induction left generalizing done with
  | zero => simp [run, step]
  | succ left ih =>
    have hnext := ih (done + 1)
    rw [Registry.depositFirst_succ, show done + 1 + left = done + (left + 1) by omega] at hnext
    simp [List.replicate_succ, run, step, hnext]

/-- A publication that nothing comes between puts the snapshot into every box there is, and returns how
many there are. -/
theorem run_publication (x : Exchange) (s : Snapshot) (hopen : x.isOpen = true)
    (hnone : x.publication = none) :
    x.run (.copy s :: (List.replicate x.registry.size .deposit ++ [.finish])) =
      some ({ x with registry := x.registry.publish s },
        (.copy s, .copied x.registry.size) ::
          (List.replicate x.registry.size (.deposit, .nothing) ++
            [(.finish, .written x.registry.size)])) := by
  have hdeposits := run_deposits x x.registry s 0 x.registry.size
  simp only [Nat.zero_add, Registry.depositFirst, List.range_zero, List.foldl_nil] at hdeposits
  have hstep : x.step (.copy s) =
      some ({ x with publication := some ⟨s, x.registry.size, 0⟩ }, .copied x.registry.size) := by
    simp [step, hopen, hnone]
  simp only [run, hstep, hdeposits, Option.bind_eq_bind, Option.bind_some, Option.pure_def]
  rw [Registry.publish, Registry.depositFirst, ← hnone]

end Exchange

/-! ## Boards -/

/-! ### One-slot boxes -/

/-- A publication that has begun: its place among all of them, its snapshot, and how many boxes it is
for. -/
structure Issue where
  place : Nat
  snapshot : Snapshot
  count : Nat
deriving DecidableEq, Repr

/-- A box with one slot, and its history. -/
structure Slot where
  content : Option Issue
  /-- Whether the reader still holds its end. -/
  held : Bool
  /-- Everything that has been put into the slot, in order. -/
  deposited : List Issue
  /-- What has been put into it since the last successful read, in order. -/
  since : List Issue
  /-- Everything that has been read, in order. -/
  read : List Issue
deriving DecidableEq, Repr

namespace Slot

def empty : Slot := ⟨none, true, [], [], []⟩

def deposit (v : Slot) (y : Issue) : Slot :=
  { v with content := some y, deposited := v.deposited ++ [y], since := v.since ++ [y] }

/-- The slot after a read, which is successful when it holds something. -/
def take (v : Slot) : Slot :=
  match v.content with
  | some y => { v with content := none, since := [], read := v.read ++ [y] }
  | none => v

@[simp] theorem take_deposited (v : Slot) : v.take.deposited = v.deposited := by
  unfold take
  split <;> rfl

theorem take_read (v : Slot) : v.take.read = v.read ++ v.content.toList := by
  unfold take
  rcases v.content with _ | y <;> simp

/-- What a slot holds is the last of what has been put into it since the last successful read, and what
has been read are some of the issues put into it before that, in order. -/
structure Lawful (v : Slot) : Prop where
  content : v.content = v.since.getLast?
  history : ∃ before, v.deposited = before ++ v.since ∧ v.read.Sublist before

theorem lawful_empty : empty.Lawful := ⟨rfl, [], rfl, List.Sublist.refl _⟩

theorem Lawful.deposit {v : Slot} (h : v.Lawful) (y : Issue) : (v.deposit y).Lawful := by
  obtain ⟨before, hdeposited, hread⟩ := h.history
  refine ⟨by simp [Slot.deposit], before, ?_, hread⟩
  simp [Slot.deposit, hdeposited]

theorem Lawful.take {v : Slot} (h : v.Lawful) : v.take.Lawful := by
  obtain ⟨before, hdeposited, hread⟩ := h.history
  rcases hcontent : v.content with _ | y
  · simpa [Slot.take, hcontent] using h
  · have hlast : v.since.getLast? = some y := h.content ▸ hcontent
    have hmem : [y].Sublist v.since := List.singleton_sublist.mpr (List.mem_of_getLast? hlast)
    refine ⟨by simp [Slot.take, hcontent], before ++ v.since, ?_, ?_⟩
    · simp [Slot.take, hcontent, hdeposited]
    · simpa [Slot.take, hcontent] using hread.append hmem

theorem Lawful.giveUp {v : Slot} (h : v.Lawful) : { v with held := false }.Lawful :=
  ⟨h.content, h.history⟩

end Slot

/-! ### Boxes in their order -/

/-- The boxes in the order in which they were registered, the publications that are over, and the one
that is under way with the number of boxes that have it. -/
structure Board where
  slots : List Slot
  past : List Issue
  current : Option (Issue × Nat)
  isOpen : Bool
deriving DecidableEq, Repr

namespace Board

def empty : Board := ⟨[], [], none, true⟩

def issues (b : Board) : List Issue := b.past ++ (b.current.map (·.1)).toList

/-- Box `i`, if it was ever handed out and its reader still holds it. -/
def slot? (b : Board) (i : Nat) : Option Slot := b.slots[i]?.filter (·.held)

def set (b : Board) (i : Nat) (v : Slot) : Board := { b with slots := b.slots.set i v }

/-- What a wait for a box that holds nothing comes to. -/
def nothingUnread (b : Board) : Receipt := if b.isOpen then .pending else .ended

def step (b : Board) : Op → Option (Board × Reply)
  | .register =>
    if b.isOpen then some ({ b with slots := b.slots ++ [.empty] }, .mailbox b.slots.length)
    else none
  | .copy s =>
    if b.isOpen && b.current.isNone then
      some ({ b with current := some (⟨b.past.length, s, b.slots.length⟩, 0) },
        .copied b.slots.length)
    else none
  | .deposit => do
    let (y, done) ← b.current
    if done < y.count then
      some ({ b with slots := b.slots.modify done (·.deposit y), current := some (y, done + 1) },
        .nothing)
    else none
  | .finish => do
    let (y, done) ← b.current
    if done < y.count then none
    else some ({ b with past := b.past ++ [y], current := none }, .written y.count)
  | .hasPending i => (b.slot? i).map fun v => (b, .pending v.content.isSome)
  | .tryReceive i => (b.slot? i).map fun v => (b.set i v.take, .found (v.content.map (·.snapshot)))
  | .receive i => (b.slot? i).map fun v =>
    (b.set i v.take, .receipt ((v.content.map fun y => .snapshot y.snapshot).getD b.nothingUnread))
  | .giveUp i => (b.slot? i).map fun v => (b.set i { v with held := false }, .nothing)
  | .drop => if b.isOpen && b.current.isNone then some ({ b with isOpen := false }, .nothing) else none

def run : Board → List Op → Option (Board × Log)
  | b, [] => some (b, [])
  | b, op :: ops => do
    let (b, reply) ← b.step op
    let (b, log) ← run b ops
    return (b, (op, reply) :: log)

theorem run_cons_of_step {b b₁ b' : Board} {op : Op} {reply : Reply} {ops : List Op} {log : Log}
    (hstep : b.step op = some (b₁, reply)) (hrun : run b₁ ops = some (b', log)) :
    run b (op :: ops) = some (b', (op, reply) :: log) := by
  simp [run, hstep, hrun]

end Board

/-! ### Counters on both ends -/

/-- How the counters of a box show the history of a slot. -/
structure Box.Models (box : Box) (v : Slot) : Prop where
  held : box.held = v.held
  content : box.content = v.deposited.getLast?.map (·.snapshot)
  deposits : box.deposits = v.deposited.length
  seen : box.seen + v.since.length = v.deposited.length

namespace Box

theorem models_empty : Box.empty.Models .empty := ⟨rfl, rfl, rfl, rfl⟩

theorem Models.hasPending {box : Box} {v : Slot} (h : box.Models v) (hv : v.Lawful) :
    box.hasPending = v.content.isSome := by
  have hdeposits := h.deposits
  have hseen := h.seen
  rw [hv.content, Box.hasPending]
  rcases hsince : v.since with _ | ⟨y, rest⟩
  · have heq : box.deposits = box.seen := by
      simp only [hsince, List.length_nil] at hseen
      omega
    simp [heq]
  · have hne : box.deposits ≠ box.seen := by
      simp only [hsince, List.length_cons] at hseen
      omega
    rw [bne_iff_ne.mpr hne, List.getLast?_cons, Option.isSome_some]

/-- **What is unread in a box is what the slot holds.** -/
theorem Models.unread {box : Box} {v : Slot} (h : box.Models v) (hv : v.Lawful) :
    box.unread = v.content.map (·.snapshot) := by
  obtain ⟨before, hdeposited, -⟩ := hv.history
  rw [Box.unread, h.hasPending hv, h.content, hv.content, hdeposited]
  rcases hlast : v.since.getLast? with _ | y
  · simp
  · simp [List.getLast?_append, hlast]

theorem Models.deposit {box : Box} {v : Slot} (h : box.Models v) (y : Issue) :
    (box.deposit y.snapshot).Models (v.deposit y) := by
  refine ⟨h.held, ?_, ?_, ?_⟩
  · simp [Box.deposit, Slot.deposit]
  · simp [Box.deposit, Slot.deposit, h.deposits]
  · have hseen := h.seen
    simp only [Box.deposit, Slot.deposit, List.length_append, List.length_singleton]
    omega

theorem Models.look {box : Box} {v : Slot} (h : box.Models v) (hv : v.Lawful) :
    box.look.Models v.take := by
  have hdeposits := h.deposits
  rcases hcontent : v.content with _ | y
  · have hsince : v.since = [] := List.getLast?_eq_none_iff.mp (hv.content ▸ hcontent)
    refine ⟨?_, ?_, ?_, ?_⟩
    · simpa [Box.look, Slot.take, hcontent] using h.held
    · simpa [Box.look, Slot.take, hcontent] using h.content
    · simpa [Box.look, Slot.take, hcontent] using h.deposits
    · simpa [Box.look, Slot.take, hcontent, hsince] using h.deposits
  · refine ⟨?_, ?_, ?_, ?_⟩
    · simpa [Box.look, Slot.take, hcontent] using h.held
    · simpa [Box.look, Slot.take, hcontent] using h.content
    · simpa [Box.look, Slot.take, hcontent] using h.deposits
    · simpa [Box.look, Slot.take, hcontent] using h.deposits

theorem Models.giveUp {box : Box} {v : Slot} (h : box.Models v) :
    { box with held := false }.Models { v with held := false } :=
  ⟨rfl, h.content, h.deposits, h.seen⟩

end Box

end ClusterTopology
