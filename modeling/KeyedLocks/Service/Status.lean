/-
What a service tells about itself.

The listing goes through the kinds in their order and shows the held keys of each
in the order of the keys. Times are told in whole milliseconds and in a 64-bit
word, so of a time that is longer only the low 64 bits are told.
-/
import KeyedLocks.Lock.Listing
import KeyedLocks.Service.Basic

set_option autoImplicit false

namespace KeyedLocks

/-- A length of time in whole milliseconds, in a 64-bit word. -/
def millisecondsWord (ns : Nat) : UInt64 := UInt64.ofNat (ns / millisecond)

/-- A held key as the listing shows it. -/
def Table.HeldKey.toEntry (kind : LockKind) (h : Table.HeldKey) : ListingEntry :=
  { kind, key := h.key, owner := h.owner, holds := h.holds
    waiting := UInt64.ofNat h.waiting
    heldFor := millisecondsWord h.heldFor
    expiresIn := h.expiresIn.map millisecondsWord }

namespace Service

/-- Every held key with its kind. -/
def status (s : Service) : List (LockKind × Table.HeldKey) :=
  LockKind.all.flatMap fun k => (s.table k).snapshot.map fun h => (k, h)

/-- The listing of a service. -/
def listing (s : Service) : Listing := ⟨s.status.map fun (k, h) => h.toEntry k⟩

/-- Whether someone looks after the deadlines of timed locks. -/
def reaperRunning (s : Service) : Bool := s.timeout.reaper = .running

/-- The health of a service: it is degraded once nobody looks after deadlines. -/
def health (s : Service) : Health :=
  { status := if s.reaperRunning then "ok" else "degraded"
    heldLocks := UInt64.ofNat s.status.length
    pendingExpiries := UInt64.ofNat s.timeout.delays.size }

/-- Every key that is tracked is held, and listed once. -/
theorem length_status (s : Service) :
    s.status.length
      = s.simple.trackedKeys + s.reentrant.trackedKeys + s.timeout.trackedKeys := by
  simp [status, LockKind.all, table, Nat.add_assoc]

end Service

end KeyedLocks
