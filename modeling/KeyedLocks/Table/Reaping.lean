/-
Looking after deadlines.

The reaper takes the first record of the delay queue whose deadline has come and
takes the key away from its grant, exactly as if it had been given back. A record
whose grant is gone has no effect. One record is one step (`reap`); `settle` goes
on until no deadline is due.

Passing a key on may make a new grant that is due at once, which puts a new record
into the queue. Each step still brings the end nearer: it takes one record away,
and it adds one only when it takes one waiter away. So the records and the waiters
together bound the number of steps (`backlog`).

The clock is advanced in whole milliseconds. On its way the reaper wakes at the
first of them at which something is due; when it jumps the reaper sees the end only.
The milliseconds are counted from where the clock stands, and they are the ticks of
the timer (`nextTick`) as long as it stands on one, as it does unless a step moves it
by a part of a millisecond.
-/
import KeyedLocks.Table.Calls

set_option autoImplicit false

namespace KeyedLocks

/-- What one step of the reaper comes to: nothing is due, a record was stale, or a
grant was taken away. -/
inductive Reaped where
  | idle
  | stale (record : DelayRecord)
  | revoked (record : DelayRecord) (r : Revoked)
  deriving DecidableEq, Repr

namespace Table

/-! ## One record -/

/-- The reaper looks after the first record that is due. -/
def reap (t : Table) : Reaped × Table :=
  if t.reaper = .running then
    match t.delays.popDue t.now with
    | none => (.idle, t)
    | some (record, delays) =>
      -- The record is out of the queue before its grant is looked for, and stays out if there is
      -- none.
      match { t with delays }.revoke record.key record.grant with
      | (none, t) => (.stale record, t)
      | (some r, t) => (.revoked record r, t)
  else (.idle, t)

/-- Whether the reaper has something to do. -/
def isDue (t : Table) : Bool := t.reaper = .running && (t.delays.popDue t.now).isSome

/-! ## All that is due -/

/-- Records and waiters together. -/
def backlog (t : Table) : Nat :=
  t.delays.size + (t.slots.entries.flatMap fun e => e.2.waiters).length

/-- Up to a number of steps of the reaper, for as long as something is due. -/
def reapUpTo : Nat → Table → Table
  | 0, t => t
  | n + 1, t => if t.isDue then reapUpTo n t.reap.2 else t

/-- The reaper looks after everything that is due. -/
def settle (t : Table) : Table := reapUpTo t.backlog t

/-! ## Time -/

/-- The clock moves on by some nanoseconds. -/
def tick (t : Table) (ns : Nat) : Table := { t with now := t.now + ns }

/-- The whole milliseconds until the first deadline, if someone looks after it: one
at least, and no more than a given number. -/
def stride (t : Table) (ms : Nat) : Nat :=
  match t.reaper, t.delays.nextDeadline? with
  -- A part of a millisecond counts as a whole one, as no timer goes off early.
  | .running, some at_ => max 1 (min ms ((at_ - t.now + (millisecond - 1)) / millisecond))
  | _, _ => ms

/-- The clock goes on by some milliseconds and stops wherever something is due. The
first argument bounds the number of stops. -/
def advanceFor : Nat → Nat → Table → Table
  | 0, _, t => t
  | stops + 1, ms, t =>
    if ms = 0 then t
    else
      -- No step goes beyond the first whole millisecond at which something is due.
      let step := t.stride ms
      advanceFor stops (ms - step) (t.tick (step * millisecond)).settle

/-- Some milliseconds pass, and whatever is due on the way is looked after at the
first whole millisecond. -/
def advance (t : Table) (ms : Nat) : Table := advanceFor ms ms t.settle

/-- The clock leaps some milliseconds at once. -/
def jump (t : Table) (ms : Nat) : Table := t.tick (ms * millisecond)

/-- The reaper stops. -/
def stopReaper (t : Table) : Table :=
  if t.reaper = .running then { t with reaper := .stopped } else t

/-! ## One equation for each way -/

theorem reap_of_not_running {t : Table} (h : t.reaper ≠ .running) : t.reap = (.idle, t) := by
  simp [reap, h]

theorem reap_of_none_due {t : Table} (h : t.delays.popDue t.now = none) : t.reap = (.idle, t) := by
  simp [reap, h]

theorem reap_of_popped {t : Table} {record : DelayRecord} {rest : DelayQueue}
    (running : t.reaper = .running) (h : t.delays.popDue t.now = some (record, rest)) :
    t.reap
      = (({ t with delays := rest }.revoke record.key record.grant).1.elim (.stale record)
          (.revoked record),
        ({ t with delays := rest }.revoke record.key record.grant).2) := by
  rw [reap, if_pos running, h]
  dsimp only
  cases ({ t with delays := rest } : Table).revoke record.key record.grant with
  | mk v u => cases v <;> rfl

theorem reapUpTo_of_not_due {t : Table} (n : Nat) (h : t.isDue = false) : reapUpTo n t = t := by
  cases n <;> simp [reapUpTo, h]

theorem settle_of_not_due {t : Table} (h : t.isDue = false) : t.settle = t :=
  reapUpTo_of_not_due _ h

end Table

end KeyedLocks
