/-
A table of locks of one kind.

For every key that is held the table has a slot: who holds it, under which grant,
and who waits for it, in the order of arrival. A key that nobody holds has no
slot, so nobody can wait for it either: whoever comes first takes it.

A caller that has to wait leaves a call behind. The call is in one of two states:
its ticket stands in the queue of its key, or the grant that was handed to it lies
ready and waits to be fetched. Fetching is up to the caller; until then a call
notices neither a grant nor that it was called off.

Grants are numbered from one and no number is used twice. If leases count, every
grant has a deadline and a record in the delay queue. Records are not taken back
when a grant ends early; a record whose grant is gone is stale and has no effect.
-/
import KeyedLocks.Lock.Request
import KeyedLocks.Table.KeyMap
import KeyedLocks.Table.Deadline
import KeyedLocks.Table.DelayQueue

set_option autoImplicit false

namespace KeyedLocks

/-! ## What a table holds -/

/-- A lock as its owner sees it when it gets it. -/
structure Grant where
  id : Nat
  owner : Owner
  holds : UInt32
  expiresAt : Option Nat
  deriving DecidableEq, Repr

/-- Who holds a key: for which request, under which grant, how many times over,
since when and until when. -/
structure Holder where
  request : Request
  grant : Nat
  holds : UInt32
  acquiredAt : Nat
  expiresAt : Option Nat
  deriving DecidableEq, Repr

/-- A holder as its owner sees it. -/
def Holder.toGrant (h : Holder) : Grant := ⟨h.grant, h.request.owner, h.holds, h.expiresAt⟩

/-- A place in the queue of a key. -/
structure Waiter where
  ticket : Nat
  request : Request
  deriving DecidableEq, Repr

/-- A key that is held: its holder, and who waits, in the order of arrival. -/
structure Slot where
  holder : Holder
  waiters : List Waiter
  deriving DecidableEq, Repr

/-- A call that had to wait. Its permit is the grant that was handed to it and that
it has not fetched yet. -/
structure Call where
  ticket : Nat
  token : String
  request : Request
  permit : Option Grant
  deriving DecidableEq, Repr

/-- Whether someone looks after deadlines: nobody ever did, someone does, or the
one who did has stopped. -/
inductive Reaper where
  | absent
  | running
  | stopped
  deriving DecidableEq, Repr

/-- A table of locks of one kind. `leased` says whether grants have deadlines, and
`horizon` how far the clock can follow them; `cancelled` are the tokens of calls that
are called off. -/
structure Table where
  kind : LockKind
  leased : Bool
  reaper : Reaper
  horizon : Horizon
  now : Nat := 0
  slots : KeyMap Slot := .empty
  lastGrant : Nat := 0
  nextTicket : Nat := 0
  delays : DelayQueue := .empty
  calls : List Call := []
  cancelled : List String := []

namespace Table

/-! ## Looking at a table -/

/-- Whether the same owner may take a key again. -/
def reentrant (t : Table) : Bool := t.kind = .reentrant

/-- The holder of a key. -/
def holder? (t : Table) (key : String) : Option Holder := (t.slots.get? key).map Slot.holder

/-- Who holds a key. -/
def owner? (t : Table) (key : String) : Option Owner :=
  (t.holder? key).map fun h => h.request.owner

/-- Whether a key is held. -/
def isLocked (t : Table) (key : String) : Bool := (t.holder? key).isSome

/-- Who waits for a key, in the order of arrival. -/
def queue (t : Table) (key : String) : List Waiter :=
  match t.slots.get? key with
  | none => []
  | some s => s.waiters

/-- How many wait for a key. -/
def waiting (t : Table) (key : String) : Nat := (t.queue key).length

/-- How many keys have a slot. -/
def trackedKeys (t : Table) : Nat := t.slots.size

/-- The call of a ticket. -/
def call? (t : Table) (ticket : Nat) : Option Call := t.calls.find? fun c => c.ticket == ticket

/-- A held key at a moment: its holder, how many wait for it, since how long it is
held, and how much time is left. -/
structure HeldKey where
  key : String
  owner : Owner
  identity : Int32
  holds : UInt32
  waiting : Nat
  heldFor : Nat
  expiresIn : Option Nat
  deriving DecidableEq, Repr

/-- A slot as it looks at a moment. Time that is over counts as none. -/
def HeldKey.ofSlot (now : Nat) (key : String) (s : Slot) : HeldKey :=
  ⟨key, s.holder.request.owner, s.holder.request.identity, s.holder.holds, s.waiters.length,
    now - s.holder.acquiredAt, s.holder.expiresAt.map fun at_ => at_ - now⟩

/-- Every held key, in the order of the keys. -/
def snapshot (t : Table) : List HeldKey :=
  t.slots.entries.map fun e => HeldKey.ofSlot t.now e.1 e.2

/-! ## New tables -/

/-- A table without deadlines. -/
def plain (kind : LockKind) (horizon : Horizon) : Table :=
  { kind, leased := false, reaper := .absent, horizon }

/-- A table whose grants have deadlines that someone looks after. -/
def timed (kind : LockKind) (horizon : Horizon) : Table :=
  { kind, leased := true, reaper := .running, horizon }

@[simp] theorem length_snapshot (t : Table) : t.snapshot.length = t.trackedKeys := by
  simp [snapshot, trackedKeys, KeyMap.size]

theorem isLocked_iff (t : Table) (key : String) :
    t.isLocked key = true ↔ (t.slots.get? key).isSome = true := by
  simp [isLocked, holder?]

/-- Whoever waits, waits for a key that is held. -/
theorem isLocked_of_waiting_pos (t : Table) (key : String) (h : 0 < t.waiting key) :
    t.isLocked key = true := by
  rw [isLocked_iff]
  unfold waiting queue at h
  cases e : t.slots.get? key with
  | none => simp [e] at h
  | some s => rfl

end Table

end KeyedLocks
