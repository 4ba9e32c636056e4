set_option autoImplicit false
set_option relaxedAutoImplicit false

/-!
# Instants, deadlines and a clock that moves on request

Time is counted in nanoseconds, as natural numbers. An instant is a distance from some fixed
origin, a duration a distance between two instants. Every blocking call is given a **deadline**:
an instant, fixed once when an operation starts, at which the operation has to give up. Because
a deadline is an instant and not a duration, nested calls and retries cannot extend the budget.

## Main definitions

* `FramedLink.Deadline` — the instant at which a wait has to fail; `Deadline.after`,
  `Deadline.remaining`, `Deadline.expired`.
* `FramedLink.ManualClock` — a clock that stands still until told to move.

## Main results

* `FramedLink.Deadline.add_remaining` — the time left leads exactly to the deadline.
* `FramedLink.ManualClock.le_advance`, `le_advanceTo` — the clock never runs backwards.
-/

namespace FramedLink

/-- The nanoseconds of `n` milliseconds. -/
def millis (n : Nat) : Nat := n * 1000000

/-- The nanoseconds of `n` seconds. -/
def seconds (n : Nat) : Nat := n * 1000000000

/-- The longest timeout that is honoured: 365 days. Longer ones count as this one. -/
def maxTimeout : Nat := seconds (365 * 24 * 60 * 60)

/-! ## Deadlines -/

/-- The instant at which a blocking call has to fail. -/
structure Deadline where
  /-- The instant of expiry. -/
  instant : Nat
  deriving DecidableEq, Repr

namespace Deadline

/-- The deadline `timeout` after `now`. A timeout above `maxTimeout` counts as `maxTimeout`. -/
def after (now : Nat) (timeout : Nat) : Deadline := ⟨now + min timeout maxTimeout⟩

/-- The time left at `now`, zero once the deadline has been reached. -/
def remaining (d : Deadline) (now : Nat) : Nat := d.instant - now

/-- A deadline has expired as soon as its instant is reached. -/
def expired (d : Deadline) (now : Nat) : Bool := decide (d.instant ≤ now)

/-- The earlier of two deadlines. -/
def earlier (d e : Deadline) : Deadline := ⟨min d.instant e.instant⟩

/-- Deadlines are ordered by their instants. -/
instance : Ord Deadline := ⟨fun d e => compare d.instant e.instant⟩

/-- The time left carries an unexpired clock exactly to the deadline. -/
theorem add_remaining (d : Deadline) (now : Nat) : now + d.remaining now = max now d.instant := by
  simp only [remaining]
  omega

end Deadline

/-! ## The manual clock -/

/-- A clock that only moves when told to. -/
structure ManualClock where
  /-- The instant the clock shows. -/
  now : Nat
  deriving DecidableEq, Repr

namespace ManualClock

/-- Move the clock forward by `span`, at most `maxTimeout` at a time. -/
def advance (c : ManualClock) (span : Nat) : ManualClock := ⟨c.now + min span maxTimeout⟩

/-- Move the clock forward to `t`. An earlier instant is ignored. -/
def advanceTo (c : ManualClock) (t : Nat) : ManualClock := ⟨max c.now t⟩

/-- Advancing never moves the clock backwards. -/
theorem le_advance (c : ManualClock) (span : Nat) : c.now ≤ (c.advance span).now :=
  Nat.le_add_right _ _

/-- Advancing to an instant never moves the clock backwards. -/
theorem le_advanceTo (c : ManualClock) (t : Nat) : c.now ≤ (c.advanceTo t).now :=
  Nat.le_max_left _ _

end ManualClock

end FramedLink
