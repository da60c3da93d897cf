/-
Waiting for the first record of a delay queue.

One caller at a time asks for the next record that is due. If none is, the caller
sets its alarm to the earliest deadline and sleeps. Asleep it does not look at the
queue: a poll before the alarm finds nothing. So whoever puts in a record that is
earlier than all others has to wake the caller, who then looks again. A wake-up
that comes while nobody sleeps is kept for the next one who would fall asleep.

The alarm is a timer, and a timer goes off on whole milliseconds only. The deadline
itself is compared with the clock, to the nanosecond. So whoever starts to ask, or was
woken, finds a record as soon as it is due, and whoever sleeps may find it a little
later.

In a run records are put in, the call is started, polled and dropped, and the clock
moves on, in any order. What was put in is told by the events alone; what was
returned is what the steps answered.
-/
import KeyedLocks.Table.Deadline
import KeyedLocks.Table.DelayQueue

set_option autoImplicit false

namespace KeyedLocks

/-- Whether a caller asks for a record, and for when its alarm is set. Without an alarm
it sleeps until it is woken. -/
inductive Rest where
  | absent
  | asleep (alarm : Option Nat)
  deriving DecidableEq, Repr

/-- A delay queue, the clock, the caller who asks for a record, and whether a wake-up
is pending. -/
structure Watcher where
  queue : DelayQueue := .empty
  now : Nat := 0
  rest : Rest := .absent
  woken : Bool := false

namespace Watcher

/-- A record is put in. It wakes the caller if it comes before all others. -/
def push (w : Watcher) (key : String) (grant deadline : Nat) : Watcher :=
  let earliest :=
    match w.queue.nextDeadline? with
    | none => true
    | some first => deadline < first
  { w with queue := w.queue.push key grant deadline, woken := w.woken || earliest }

/-- The caller looks at the queue: it takes the first record if it is due, and falls
asleep otherwise. A pending wake-up only makes it look once more, at the same
queue. -/
def look (w : Watcher) : Option DelayRecord × Watcher :=
  match w.queue.popDue w.now with
  | some (r, queue) => (some r, { w with queue, rest := .absent })
  | none => (none, { w with rest := .asleep w.queue.nextDeadline?, woken := false })

/-- Whether an alarm has gone off, on the first whole millisecond it could. -/
def rings (now : Nat) : Option Nat → Bool
  | none => false
  | some at_ => nextTick at_ ≤ now

/-- A new call is started, in the place of one that may be pending. -/
def start (w : Watcher) : Option DelayRecord × Watcher := w.look

/-- The pending call is polled. It looks only if its alarm has gone off or it was
woken. -/
def poll (w : Watcher) : Option DelayRecord × Watcher :=
  match w.rest with
  | .absent => (none, w)
  | .asleep alarm =>
    -- An alarm that rings leaves a pending wake-up for the next sleep.
    if rings w.now alarm then w.look
    else if w.woken then { w with woken := false }.look
    else (none, w)

/-- The pending call is dropped. -/
def drop (w : Watcher) : Watcher := { w with rest := .absent }

/-- The clock moves on. -/
def tick (w : Watcher) (ns : Nat) : Watcher := { w with now := w.now + ns }

/-! ## Runs -/

end Watcher

/-- What can happen to a watcher. -/
inductive WatcherEvent where
  | push (key : String) (grant deadline : Nat)
  | start
  | poll
  | drop
  | tick (ns : Nat)
  deriving DecidableEq, Repr

/-- The records that were put in, numbered in their order. -/
def WatcherEvent.pushed (es : List WatcherEvent) : List DelayRecord :=
  es.foldl (fun rs e =>
    match e with
    | .push key grant deadline => rs ++ [⟨key, grant, deadline, rs.length⟩]
    | _ => rs) []

namespace Watcher

/-- One event, and the record that the call returns by it. -/
def step (w : Watcher) : WatcherEvent → Option DelayRecord × Watcher
  | .push key grant deadline => (none, w.push key grant deadline)
  | .start => w.start
  | .poll => w.poll
  | .drop => (none, w.drop)
  | .tick ns => (none, w.tick ns)

/-- The events of a run, one after the other. -/
def run (w : Watcher) : List WatcherEvent → Watcher
  | [] => w
  | e :: es => (w.step e).2.run es

/-- The records that are returned in a run, in their order. -/
def returned (w : Watcher) : List WatcherEvent → List DelayRecord
  | [] => []
  | e :: es => (w.step e).1.toList ++ (w.step e).2.returned es

theorem run_append (w : Watcher) (es fs : List WatcherEvent) :
    w.run (es ++ fs) = (w.run es).run fs := by
  induction es generalizing w with
  | nil => rfl
  | cons e es ih => exact ih _

theorem returned_append (w : Watcher) (es fs : List WatcherEvent) :
    w.returned (es ++ fs) = w.returned es ++ (w.run es).returned fs := by
  induction es generalizing w with
  | nil => rfl
  | cons e es ih => rw [List.cons_append, returned, returned, ih, List.append_assoc, run]

/-! ## Small facts -/

@[simp] theorem poll_of_absent {w : Watcher} (h : w.rest = .absent) : w.poll = (none, w) := by
  simp [poll, h]

/-- A call that is dropped takes nothing with it. -/
@[simp] theorem queue_drop (w : Watcher) : w.drop.queue = w.queue := rfl

/-- A look takes the first record exactly if it is due. -/
theorem look_fst (w : Watcher) : w.look.1 = (w.queue.popDue w.now).map Prod.fst := by
  unfold look
  split <;> rename_i h <;> simp [h]

end Watcher

end KeyedLocks
