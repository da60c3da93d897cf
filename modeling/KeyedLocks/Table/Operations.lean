/-
Taking and giving back.

A key changes hands in one way only. When its grant ends, be it that the holder
gives it back, that it is taken away, or that it was handed to someone who left,
`handOn` makes the first in the queue the next holder in the same step, or frees
the key if nobody waits. So a key is never free while someone waits for it, and
nobody who comes later gets in between.
-/
import KeyedLocks.Table.Basic

set_option autoImplicit false

namespace KeyedLocks

/-! ## What comes of it -/

/-- What comes of asking for a key without waiting. -/
inductive Admission where
  | granted (g : Grant)
  | reentered (g : Grant)
  | busy (holder : Owner)
  deriving DecidableEq, Repr

/-- What comes of giving a key back: the grant ended and the key went to the next in
the queue, the owner still has holds left, or the caller is not the holder. -/
inductive Release where
  | released (ended : Nat) (next : Option Grant)
  | retained (holds : UInt32)
  | notHeld (holder : Option Owner)
  deriving DecidableEq, Repr

/-- A grant that was taken away: whose it was, and the next one. -/
structure Revoked where
  owner : Owner
  next : Option Grant
  deriving DecidableEq, Repr

/-- What comes of giving back a grant that was handed to a caller who left: the
grant ended, the owner has other holds under it, or it had ended before. -/
inductive GiveBack where
  | returned (ended : Nat) (next : Option Grant)
  | kept (holds : UInt32)
  | late
  deriving DecidableEq, Repr

namespace Table

/-! ## Making a holder -/

/-- The deadline of a grant that is made now for a request. -/
def expiry (t : Table) (r : Request) : Option Nat :=
  if t.leased then some (t.horizon.deadline t.now r.lease) else none

/-- The holder that a request becomes now. -/
def newHolder (t : Table) (r : Request) : Holder :=
  { request := r, grant := t.lastGrant + 1, holds := 1, acquiredAt := t.now,
    expiresAt := t.expiry r }

/-- The delay queue with a record for a holder that has a deadline. -/
def scheduled (t : Table) (key : String) (h : Holder) : DelayQueue :=
  match h.expiresAt with
  | none => t.delays
  | some at_ => t.delays.push key h.grant at_

/-- Makes a request the holder of a key, with the queue that is left behind it. -/
def install (t : Table) (key : String) (r : Request) (waiters : List Waiter) : Grant × Table :=
  let h := t.newHolder r
  (h.toGrant,
    { t with
      slots := t.slots.insert key ⟨h, waiters⟩
      lastGrant := h.grant
      delays := t.scheduled key h })

/-- Lays a grant ready for the call of a ticket. -/
def deliver (t : Table) (ticket : Nat) (g : Grant) : Table :=
  { t with
    calls := t.calls.map fun c => if c.ticket = ticket then { c with permit := some g } else c }

/-- Passes a key whose grant has ended to the first in its queue, or frees it. -/
def handOn (t : Table) (key : String) : List Waiter → Option Grant × Table
  | [] => (none, { t with slots := t.slots.erase key })
  | w :: rest =>
    let (g, t) := t.install key w.request rest
    (some g, t.deliver w.ticket g)

/-- Changes the number of holds of a slot. -/
def setHolds (t : Table) (key : String) (s : Slot) (holds : UInt32) : Table :=
  { t with slots := t.slots.insert key { s with holder := { s.holder with holds } } }

/-! ## Asking for a key -/

/-- Takes a key if it is free, or once more if its holder asks and may. -/
def tryAcquire (t : Table) (r : Request) : Admission × Table :=
  match t.slots.get? r.key with
  | none =>
    let (g, t) := t.install r.key r []
    (.granted g, t)
  | some s =>
    -- The queue is not asked: a holder who asks again goes before all who wait.
    if t.reentrant && s.holder.request.sameOwner r then
      let holds := s.holder.holds + 1
      (.reentered { s.holder.toGrant with holds }, t.setHolds r.key s holds)
    else (.busy s.holder.request.owner, t)

/-! ## Giving a key back -/

/-- Gives a key back for the owner of a request. -/
def release (t : Table) (r : Request) : Release × Table :=
  match t.slots.get? r.key with
  | none => (.notHeld none, t)
  | some s =>
    if s.holder.request.sameOwner r then
      -- Only where a key can be taken again can there be a hold to keep.
      if t.reentrant && 1 < s.holder.holds then
        let holds := s.holder.holds - 1
        (.retained holds, t.setHolds r.key s holds)
      else
        let (next, t) := t.handOn r.key s.waiters
        (.released s.holder.grant next, t)
    else (.notHeld (some s.holder.request.owner), t)

/-- Takes a key away from a grant, with all its holds, if the grant still holds
it. -/
def revoke (t : Table) (key : String) (grant : Nat) : Option Revoked × Table :=
  match t.slots.get? key with
  | none => (none, t)
  | some s =>
    -- The key may be held again by now, but not under a number that was given out before.
    if s.holder.grant = grant then
      let (next, t) := t.handOn key s.waiters
      (some ⟨s.holder.request.owner, next⟩, t)
    else (none, t)

/-- Gives back the one hold that a grant was handed with. Holds that the owner took
under the same grant since then are kept. -/
def giveBack (t : Table) (key : String) (grant : Nat) : GiveBack × Table :=
  match t.slots.get? key with
  | none => (.late, t)
  | some s =>
    if s.holder.grant = grant then
      -- More than one hold can only be where keys can be taken again, so the kind is not asked for.
      if 1 < s.holder.holds then
        let holds := s.holder.holds - 1
        (.kept holds, t.setHolds key s holds)
      else
        let (next, t) := t.handOn key s.waiters
        (.returned grant next, t)
    else (.late, t)

/-! ## One equation for each way -/

theorem tryAcquire_of_free {t : Table} {r : Request} (h : t.slots.get? r.key = none) :
    t.tryAcquire r = (.granted (t.install r.key r []).1, (t.install r.key r []).2) := by
  simp [tryAcquire, h]

theorem tryAcquire_of_busy {t : Table} {r : Request} {s : Slot}
    (h : t.slots.get? r.key = some s)
    (hr : (t.reentrant && s.holder.request.sameOwner r) = false) :
    t.tryAcquire r = (.busy s.holder.request.owner, t) := by
  simp [tryAcquire, h, hr]

theorem release_of_free {t : Table} {r : Request} (h : t.slots.get? r.key = none) :
    t.release r = (.notHeld none, t) := by
  simp [release, h]

theorem revoke_of_stale {t : Table} {key : String} {grant : Nat}
    (h : ∀ s, t.slots.get? key = some s → s.holder.grant ≠ grant) :
    t.revoke key grant = (none, t) := by
  unfold revoke
  split
  · rfl
  · rename_i s hs
    rw [if_neg (h s hs)]

end Table

end KeyedLocks
