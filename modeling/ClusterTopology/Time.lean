import ClusterTopology.Text.Basic
/-!
Spans of time, readings of the monotonic clock, and things that are there after a while.

Spans and readings are both counts of nanoseconds, so that arithmetic on them is arithmetic on natural
numbers.  The clock itself is narrower: it counts seconds in a signed word of 64 bits, and `Instant.add?` says
when a sum still has a reading.  A text shows a span in the largest unit that it reaches.

Nothing in this library waits.  What would be waited for is known by how long it takes, or by the time at
which it is there: `Coming` is an answer that comes after a while or never, and `Timed` one with its time.

Adding a span to a reading is the one place where this world is narrower than the natural numbers.  Whoever
adds the period of the cycles has to be ready for a sum without a reading, and what comes of that is the
subject of `Proofs.Discoverer.ClockRange`.
-/

namespace ClusterTopology

/-! ### Spans -/

/-- A span of time in nanoseconds. -/
abbrev Duration := Nat

namespace Duration

def ofMillis (n : Nat) : Duration := n * 1000000

def ofSecs (n : Nat) : Duration := n * 1000000000

def secs (d : Duration) : Nat := d / 1000000000

def subsecNanos (d : Duration) : Nat := d % 1000000000

def millis (d : Duration) : Nat := d / 1000000

/-- A number of `places` decimal places without the zeros at its end: the part of `d` below one
`unit`, read as a fraction of it. -/
def fractionText (d unit places : Nat) : String :=
  let digits := Nat.toDigits 10 (d % unit)
  let padded := List.replicate (places - digits.length) '0' ++ digits
  match (padded.reverse.dropWhile (· == '0')).reverse with
  | [] => ""
  | ds => "." ++ String.ofList ds

/-- A span in the largest of the units s, ms, µs and ns that it reaches, with a decimal fraction as
long as it has to be: `1.5s`, `100ms`, `0ns`. -/
def render (d : Duration) : String :=
  if 1000000000 ≤ d then Text.natText (d / 1000000000) ++ fractionText d 1000000000 9 ++ "s"
  else if 1000000 ≤ d then Text.natText (d / 1000000) ++ fractionText d 1000000 6 ++ "ms"
  else if 1000 ≤ d then Text.natText (d / 1000) ++ fractionText d 1000 3 ++ "µs"
  else Text.natText d ++ "ns"

end Duration

/-! ### Readings of the clock -/

/-- A reading of the monotonic clock: nanoseconds since an origin in the past. -/
abbrev Instant := Nat

namespace Instant

/-- The first number of seconds that the clock cannot show. -/
def secsLimit : Nat := 9223372036854775808

/-- The reading a span after `t`, if the clock can show it. -/
def add? (t : Instant) (d : Duration) : Option Instant :=
  if Duration.secs (t + d) < secsLimit then some (t + d) else none

theorem add?_eq_some_iff {t : Instant} {d : Duration} {u : Instant} :
    add? t d = some u ↔ t + d < secsLimit * 1000000000 ∧ u = t + d := by
  have hlt : Duration.secs (t + d) < secsLimit ↔ t + d < secsLimit * 1000000000 :=
    Nat.div_lt_iff_lt_mul (by decide)
  rw [← hlt, add?]
  by_cases h : Duration.secs (t + d) < secsLimit
  · simp [h, eq_comm]
  · simp [h]

end Instant

/-! ### What comes in time -/

structure Timed (α : Type) where
  time : Instant
  value : α
deriving Repr

/-- A value, and how long it takes until it is there. -/
structure Delayed (α : Type) where
  delay : Duration
  value : α
deriving DecidableEq, Repr

/-- Something that comes after a while or never. -/
abbrev Coming (α : Type) := Option (Delayed α)

def Coming.now {α : Type} (a : α) : Coming α := some ⟨0, a⟩

def Coming.map {α β : Type} (f : α → β) (c : Coming α) : Coming β :=
  Option.map (fun d => ⟨d.delay, f d.value⟩) c

/-- What comes after a call at `now`, with the time when it is there. -/
def Coming.since {α : Type} (now : Instant) (c : Coming α) : Option (Timed α) :=
  Option.map (fun d => ⟨now + d.delay, d.value⟩) c

end ClusterTopology
