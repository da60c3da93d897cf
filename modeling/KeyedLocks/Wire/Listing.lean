/-
Listings and health records on the wire.
-/
import KeyedLocks.Wire.Names
import KeyedLocks.Lock.Listing

set_option autoImplicit false

namespace KeyedLocks.Wire

open KeyedLocks.Json

/-! ## Entries -/

/-- An entry as an object. One without a time left has no such member. -/
def entryValue (e : ListingEntry) : Value :=
  .object <|
    [("kind", kindValue e.kind), ("key", .string e.key),
      ("application", .string e.owner.application), ("thread", .string e.owner.thread),
      ("holds", .nat e.holds.toNat), ("waiting", .nat e.waiting.toNat),
      ("held_for_ms", .nat e.heldFor.toNat)]
      ++ (match e.expiresIn with
          | none => []
          | some ms => [("expires_in_ms", .nat ms.toNat)])

/-- An entry of which not all is read. -/
structure EntryDraft where
  kind : Option LockKind := none
  key : Option String := none
  application : Option String := none
  thread : Option String := none
  holds : Option UInt32 := none
  waiting : Option UInt64 := none
  heldFor : Option UInt64 := none
  expiresIn : Option UInt64 := none

def entryForm : RecordForm EntryDraft ListingEntry where
  name := "LockStatusView"
  fields := ["kind", "key", "application", "thread", "holds", "waiting", "held_for_ms",
    "expires_in_ms"]
  empty := {}
  put field v d :=
    if field = "kind" then (decodeKind v).map fun k => { d with kind := some k }
    else if field = "key" then (decodeString v).map fun s => { d with key := some s }
    else if field = "application" then
      (decodeString v).map fun s => { d with application := some s }
    else if field = "thread" then (decodeString v).map fun s => { d with thread := some s }
    else if field = "holds" then
      (decodeInteger .word32 v).map fun i => { d with holds := some (UInt32.ofNat i.toNat) }
    else if field = "waiting" then
      (decodeInteger .count v).map fun i => { d with waiting := some (UInt64.ofNat i.toNat) }
    else if field = "held_for_ms" then
      (decodeInteger .word64 v).map fun i => { d with heldFor := some (UInt64.ofNat i.toNat) }
    else
      (decodeOption (decodeInteger .word64) v).map fun ms =>
        { d with expiresIn := ms.map fun i => UInt64.ofNat i.toNat }
  finish d := do
    let kind ← wanted "kind" d.kind
    let key ← wanted "key" d.key
    let application ← wanted "application" d.application
    let thread ← wanted "thread" d.thread
    let holds ← wanted "holds" d.holds
    let waiting ← wanted "waiting" d.waiting
    let heldFor ← wanted "held_for_ms" d.heldFor
    return ⟨kind, key, ⟨application, thread⟩, holds, waiting, heldFor, d.expiresIn⟩

def decodeEntry : Reading → Decoded ListingEntry := entryForm.decode

/-! ## Listings -/

def listingValue (l : Listing) : Value :=
  .object [("locks", .array (l.locks.map entryValue))]

def listingForm : RecordForm (Option (List ListingEntry)) Listing where
  name := "LockStatusResponse"
  fields := ["locks"]
  empty := none
  put _ v _ := (decodeList decodeEntry v).map some
  finish d := (wanted "locks" d).map Listing.mk

def decodeListing : Reading → Decoded Listing := listingForm.decode

/-! ## Health -/

def healthValue (h : Health) : Value :=
  .object [("status", .string h.status), ("held_locks", .nat h.heldLocks.toNat),
    ("pending_expiries", .nat h.pendingExpiries.toNat)]

/-- A health record of which not all is read. -/
structure HealthDraft where
  status : Option String := none
  heldLocks : Option UInt64 := none
  pendingExpiries : Option UInt64 := none

def healthForm : RecordForm HealthDraft Health where
  name := "HealthResponse"
  fields := ["status", "held_locks", "pending_expiries"]
  empty := {}
  put field v d :=
    if field = "status" then (decodeString v).map fun s => { d with status := some s }
    else if field = "held_locks" then
      (decodeInteger .count v).map fun i => { d with heldLocks := some (UInt64.ofNat i.toNat) }
    else
      (decodeInteger .count v).map fun i =>
        { d with pendingExpiries := some (UInt64.ofNat i.toNat) }
  finish d := do
    let status ← wanted "status" d.status
    let heldLocks ← wanted "held_locks" d.heldLocks
    let pendingExpiries ← wanted "pending_expiries" d.pendingExpiries
    return ⟨status, heldLocks, pendingExpiries⟩

def decodeHealth : Reading → Decoded Health := healthForm.decode

end KeyedLocks.Wire
