import ClusterTopology.Component
/-!
Mailboxes: how subscribers get snapshots.

Every subscriber has a box with one slot.  A snapshot deposited in it replaces what it holds, read or
not, so a slow reader only ever sees the newest one and never holds up the writer.  A box counts the
deposits made in it, and the reader remembers the count at its last look: what it has not seen is
unread.

A `Registry` is the row of all boxes in the order of the subscriptions.  No box is ever taken out of it, so the
number of a box names its subscriber for good; a reader that gives up leaves the box behind, and what is
put there is never seen.  A publication goes to the boxes that were there when it copied their list, one after
the other, and `depositFirst` is such a publication after some of them.

Whether anybody is left who could write a box is not known here.  A wait is told so, and ends when nothing is
unread and nobody is.  That all this comes to one-slot boxes is shown in `Proofs.Mailbox.Refinement`.
-/

namespace ClusterTopology

/-! ### One box -/

/-- A box with one slot, and what its reader has seen of it. -/
structure Box where
  /-- The snapshot deposited last. -/
  content : Option Snapshot
  /-- How many snapshots have been deposited. -/
  deposits : Nat
  /-- How many had been deposited at the reader's last look. -/
  seen : Nat
  /-- Whether the reader still holds its end. -/
  held : Bool
deriving DecidableEq, Repr

inductive Receipt where
  | snapshot (s : Snapshot)
  /-- Nothing is unread, and more may come. -/
  | pending
  /-- Nothing is unread, and nothing can come any more. -/
  | ended
deriving DecidableEq, Repr

namespace Box

def empty : Box := ⟨none, 0, 0, true⟩

def deposit (b : Box) (s : Snapshot) : Box :=
  { b with content := some s, deposits := b.deposits + 1 }

def hasPending (b : Box) : Bool :=
  b.deposits != b.seen

def unread (b : Box) : Option Snapshot :=
  if b.hasPending then b.content else none

def look (b : Box) : Box :=
  { b with seen := b.deposits }

def tryReceive (b : Box) : Option Snapshot × Box :=
  (b.unread, b.look)

/-- A wait for a snapshot, looked at once.  `writable` tells whether the writer is still there. -/
def receive (b : Box) (writable : Bool) : Receipt × Box :=
  match b.unread with
  | some s => (.snapshot s, b.look)
  | none => (if writable then .pending else .ended, b)

@[simp] theorem unread_look (b : Box) : b.look.unread = none := by
  simp [unread, hasPending, look]

end Box

/-! ### All boxes -/

/-- The boxes of all subscribers, in the order of their subscriptions. -/
structure Registry where
  boxes : List Box
deriving DecidableEq, Repr

namespace Registry

def empty : Registry := ⟨[]⟩

def size (r : Registry) : Nat := r.boxes.length

/-- The registry with a box more; its number is the size before. -/
def register (r : Registry) : Registry := ⟨r.boxes ++ [.empty]⟩

def deposit (r : Registry) (i : Nat) (s : Snapshot) : Registry :=
  ⟨r.boxes.modify i fun b => b.deposit s⟩

def depositFirst (r : Registry) (s : Snapshot) (n : Nat) : Registry :=
  (List.range n).foldl (fun r i => r.deposit i s) r

def publish (r : Registry) (s : Snapshot) : Registry :=
  r.depositFirst s r.size

/-- Box `i`, if it was ever handed out and its reader still holds it. -/
def box? (r : Registry) (i : Nat) : Option Box :=
  r.boxes[i]?.filter (·.held)

def set (r : Registry) (i : Nat) (b : Box) : Registry := ⟨r.boxes.set i b⟩

def hasPending? (r : Registry) (i : Nat) : Option Bool :=
  (r.box? i).map (·.hasPending)

/-- What is unread in box `i`, taken out without waiting. -/
def tryReceive? (r : Registry) (i : Nat) : Option (Option Snapshot × Registry) := do
  let b ← r.box? i
  let (found, b) := b.tryReceive
  return (found, r.set i b)

/-- A wait for a snapshot in box `i`, looked at once. -/
def receive? (r : Registry) (i : Nat) (writable : Bool) : Option (Receipt × Registry) := do
  let b ← r.box? i
  let (found, b) := b.receive writable
  return (found, r.set i b)

def giveUp (r : Registry) (i : Nat) : Registry :=
  ⟨r.boxes.modify i fun b => { b with held := false }⟩

@[simp] theorem size_deposit (r : Registry) (i : Nat) (s : Snapshot) :
    (r.deposit i s).size = r.size := by
  simp [deposit, size]

theorem depositFirst_succ (r : Registry) (s : Snapshot) (n : Nat) :
    r.depositFirst s (n + 1) = (r.depositFirst s n).deposit n s := by
  simp [depositFirst, List.range_succ]

@[simp] theorem size_register (r : Registry) : r.register.size = r.size + 1 := by
  simp [register, size]

@[simp] theorem size_set (r : Registry) (i : Nat) (b : Box) : (r.set i b).size = r.size := by
  simp [set, size]

@[simp] theorem size_giveUp (r : Registry) (i : Nat) : (r.giveUp i).size = r.size := by
  simp [giveUp, size]

end Registry

end ClusterTopology
