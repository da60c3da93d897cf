/-
Requests on the wire.

The owner of a request is not a record of its own there: its two names stand
among the members of the request. So a request is read in two rounds. The first
takes the request's own fields as they come and sets every other member aside,
each read in full; the second looks for the owner among what was set aside. What
is wrong with the owner is therefore told last.
-/
import KeyedLocks.Wire.Names

set_option autoImplicit false

namespace KeyedLocks.Wire

open KeyedLocks.Json

/-! ## Durations -/

def durationValue (d : LockDuration) : Value :=
  .object [("magnitude", .int d.magnitude.toInt), ("unit", unitValue d.unit)]

/-- A duration of which not all is read. -/
structure DurationDraft where
  magnitude : Option Int64 := none
  unit : Option TimeUnit := none

def durationForm : RecordForm DurationDraft LockDuration where
  name := "LockDuration"
  fields := ["magnitude", "unit"]
  empty := {}
  put field v d :=
    if field = "magnitude" then
      (decodeInteger .int64 v).map fun i => { d with magnitude := some (Int64.ofInt i) }
    else (decodeUnit v).map fun u => { d with unit := some u }
  finish d := do
    let magnitude ← wanted "magnitude" d.magnitude
    let unit ← wanted "unit" d.unit
    return ⟨magnitude, unit⟩

def decodeDuration : Reading → Decoded LockDuration := durationForm.decode

/-! ## Owners -/

def ownerMembers (o : Owner) : List (String × Value) :=
  [("application", .string o.application), ("thread", .string o.thread)]

def ownerValue (o : Owner) : Value := .object (ownerMembers o)

/-- An owner of which not all is read. -/
structure OwnerDraft where
  application : Option String := none
  thread : Option String := none

def ownerForm : RecordForm OwnerDraft Owner where
  name := "Owner"
  fields := ["application", "thread"]
  empty := {}
  put field v d :=
    if field = "application" then
      (decodeString v).map fun s => { d with application := some s }
    else (decodeString v).map fun s => { d with thread := some s }
  finish d := do
    let application ← wanted "application" d.application
    let thread ← wanted "thread" d.thread
    return ⟨application, thread⟩

def decodeOwner : Reading → Decoded Owner := ownerForm.decode

/-- An owner among members that were set aside. -/
def decodeOwnerAside (aside : List (String × Reading)) : Decoded Owner := do
  let d ← ownerForm.readAside [] ownerForm.empty aside
  ownerForm.finish d

/-! ## Requests -/

/-- A request as an object. A request without a duration has no such member. -/
def requestValue (r : Request) : Value :=
  .object <|
    [("key", .string r.key), ("identity", .int r.identity.toInt)]
      ++ ownerMembers r.owner
      ++ [("kind", kindValue r.kind)]
      ++ (match r.duration with
          | none => []
          | some d => [("duration", durationValue d)])
      ++ [("issued_at", .nat r.issuedAt.toNat)]

/-- A request of which not all is read, and the members set aside, the last one
first. -/
structure RequestDraft where
  key : Option String := none
  identity : Option Int32 := none
  kind : Option LockKind := none
  duration : Option LockDuration := none
  issuedAt : UInt64 := 0
  aside : List (String × Reading) := []

def requestForm : RecordForm RequestDraft Request where
  name := "Request"
  fields := ["key", "identity", "kind", "duration", "issued_at"]
  empty := {}
  put field v d :=
    if field = "key" then (decodeString v).map fun s => { d with key := some s }
    else if field = "identity" then
      (decodeInteger .int32 v).map fun i => { d with identity := some (Int32.ofInt i) }
    else if field = "kind" then (decodeKind v).map fun k => { d with kind := some k }
    else if field = "duration" then
      (decodeOption decodeDuration v).map fun l => { d with duration := l }
    else (decodeInteger .word64 v).map fun i => { d with issuedAt := UInt64.ofNat i.toNat }
  -- One level is the request's own object.
  other name v d :=
    ofFault ((v.check (depthLimit - 1)).map fun () => { d with aside := (name, v) :: d.aside })
  finish d := do
    let key ← wanted "key" d.key
    let identity ← wanted "identity" d.identity
    let kind ← wanted "kind" d.kind
    let owner ← decodeOwnerAside d.aside.reverse
    return ⟨key, identity, owner, kind, d.duration, d.issuedAt⟩

/-- A request. Unlike other records it is never written as an array. -/
def decodeRequest : Reading → Decoded Request
  | .object members => requestForm.decodeMembers members
  | r => wrongType "struct Request" r

end KeyedLocks.Wire
