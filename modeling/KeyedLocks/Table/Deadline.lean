/-
When a lease ends.

Points in time are nanoseconds since the clock started. The clock cannot point
beyond a last instant, its horizon; a lease that would end later ends thirty years
from now instead. Where the horizon lies depends on how long the machine was running
before the clock started, and all that is known of it are two bounds.

A timer is coarser than the clock: it counts whole milliseconds since the clock
started, and what is set for a moment in between goes off at the next one.
-/
import KeyedLocks.Lock.Duration

set_option autoImplicit false

namespace KeyedLocks

/-- The last instant that a clock can point to. A lease of 2^63 - 1 seconds is beyond it, and one
that is ten thousand million seconds shorter is not, if it starts with the clock. -/
structure Horizon where
  last : Nat
  reached : 9223372026854775807 * second ≤ last
  passed : last < 9223372036854775807 * second
  deriving DecidableEq, Repr

/-- What stands in for a lease that would end beyond the last instant: thirty years
of 365 days. -/
def farFuture : Nat := 86400 * 365 * 30 * second

namespace Horizon

/-- The widest horizon. -/
def widest : Horizon := ⟨9223372036854775807 * second - 1, by decide, by decide⟩

/-- The end of a lease that starts at an instant. -/
def deadline (z : Horizon) (now lease : Nat) : Nat :=
  if now + lease ≤ z.last then now + lease else now + farFuture

/-- A lease never ends before it starts. -/
theorem le_deadline (z : Horizon) (now lease : Nat) : now ≤ z.deadline now lease := by
  unfold deadline
  split <;> omega

end Horizon

/-! ## The timer -/

/-- When a timer goes off that is set for a moment: the first whole millisecond that is no
earlier. -/
def nextTick (moment : Nat) : Nat := (moment + (millisecond - 1)) / millisecond * millisecond

/-- A timer never goes off early. -/
theorem le_nextTick (moment : Nat) : moment ≤ nextTick moment := by
  unfold nextTick millisecond
  omega

/-- The tick of a moment is late by less than a millisecond. -/
theorem nextTick_lt (moment : Nat) : nextTick moment < moment + millisecond := by
  unfold nextTick millisecond
  omega

theorem nextTick_mono {moment later : Nat} (le : moment ≤ later) :
    nextTick moment ≤ nextTick later := by
  unfold nextTick millisecond
  omega

/-- Where the clock stands on a whole millisecond it makes no difference that the timer is
coarser. -/
theorem nextTick_le_iff {moment now : Nat} (whole : millisecond ∣ now) :
    nextTick moment ≤ now ↔ moment ≤ now := by
  obtain ⟨n, rfl⟩ := whole
  unfold nextTick millisecond
  omega

end KeyedLocks
