/-
How long a lease lasts.

A request gives its lease as a signed magnitude and a unit. The table works with
spans: whole seconds in a 64-bit word and the nanoseconds that are left over. A
magnitude that is not positive is a span of zero, and one beyond the longest span
is cut down to it.
-/
set_option autoImplicit false

namespace KeyedLocks

/-! ## Units -/

/-- The unit of a magnitude. -/
inductive TimeUnit where
  | nanoseconds
  | microseconds
  | milliseconds
  | seconds
  | minutes
  | hours
  | days
  deriving DecidableEq, Repr, Inhabited

namespace TimeUnit

/-- All units, from the shortest to the longest. -/
def all : List TimeUnit :=
  [nanoseconds, microseconds, milliseconds, seconds, minutes, hours, days]

/-- The name of a unit. -/
def name : TimeUnit → String
  | nanoseconds => "nanoseconds"
  | microseconds => "microseconds"
  | milliseconds => "milliseconds"
  | seconds => "seconds"
  | minutes => "minutes"
  | hours => "hours"
  | days => "days"

/-- The name of a unit as a title. -/
def title : TimeUnit → String
  | nanoseconds => "Nanoseconds"
  | microseconds => "Microseconds"
  | milliseconds => "Milliseconds"
  | seconds => "Seconds"
  | minutes => "Minutes"
  | hours => "Hours"
  | days => "Days"

/-- The short name of a unit. -/
def symbol : TimeUnit → String
  | nanoseconds => "ns"
  | microseconds => "us"
  | milliseconds => "ms"
  | seconds => "s"
  | minutes => "m"
  | hours => "h"
  | days => "d"

/-- The nanoseconds in one unit. -/
def inNanoseconds : TimeUnit → Nat
  | nanoseconds => 1
  | microseconds => 1000
  | milliseconds => 1000000
  | seconds => 1000000000
  | minutes => 60 * 1000000000
  | hours => 60 * 60 * 1000000000
  | days => 24 * 60 * 60 * 1000000000

/-- The unit of a name or a short name, in any mix of upper and lower case of
ASCII. -/
def ofName? (s : String) : Option TimeUnit :=
  let given := String.ofList (s.toList.map Char.toLower)
  all.find? fun u => u.symbol == given || u.name == given

/-- The wording for a name that is no unit: it shows the name in lower case. -/
def unknownMessage (s : String) : String :=
  "invalid time unit '" ++ String.ofList (s.toList.map Char.toLower) ++ "'"

theorem mem_all (u : TimeUnit) : u ∈ all := by
  cases u <;> decide

end TimeUnit

/-! ## Spans -/

/-- The nanoseconds in one second. -/
def second : Nat := 1000000000

/-- The nanoseconds in one millisecond. -/
def millisecond : Nat := 1000000

/-- A length of time: seconds, and nanoseconds below one second. -/
structure Span where
  seconds : UInt64
  subsecond : UInt32
  subsecond_lt : subsecond.toNat < second

namespace Span

/-- No time at all. -/
def zero : Span := ⟨0, 0, by decide⟩

/-- The longest span. -/
def longest : Span := ⟨18446744073709551615, 999999999, by decide⟩

/-- A span in nanoseconds. -/
def toNanoseconds (s : Span) : Nat := s.seconds.toNat * second + s.subsecond.toNat

/-- The span of some nanoseconds, or the longest one if they are too many. -/
def ofNanoseconds (n : Nat) : Span :=
  if n / second < UInt64.size then
    ⟨UInt64.ofNat (n / second), UInt32.ofNat (n % second), by
      have : n % second < second := Nat.mod_lt _ (by decide)
      have small : second < UInt32.size := by decide
      rw [UInt32.toNat_ofNat_of_lt' (by omega)]
      exact this⟩
  else longest

@[simp] theorem toNanoseconds_zero : zero.toNanoseconds = 0 := rfl

theorem toNanoseconds_longest :
    longest.toNanoseconds = 18446744073709551615999999999 := rfl

end Span

/-! ## Durations -/

/-- A duration as a request gives it. -/
structure LockDuration where
  magnitude : Int64
  unit : TimeUnit
  deriving DecidableEq, Repr

namespace LockDuration

/-- The span of a duration. -/
def span (d : LockDuration) : Span :=
  if d.magnitude ≤ 0 then .zero
  else .ofNanoseconds (d.magnitude.toInt.toNat * d.unit.inNanoseconds)

/-- A duration in words. -/
def describe (d : LockDuration) : String := toString d.magnitude.toInt ++ " " ++ d.unit.title

end LockDuration

end KeyedLocks
