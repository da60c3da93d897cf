/-
Answers on the wire.
-/
import KeyedLocks.Wire.Names

set_option autoImplicit false

namespace KeyedLocks.Wire

open KeyedLocks.Json

def responseValue (r : Response) : Value :=
  .object [("key", .string r.key), ("identity", .int r.identity.toInt),
    ("success", .bool r.success), ("cause", causeValue r.cause),
    ("operation", operationValue r.operation)]

/-- An answer of which not all is read. -/
structure ResponseDraft where
  key : Option String := none
  identity : Option Int32 := none
  success : Option Bool := none
  cause : Option Cause := none
  operation : Option Operation := none

def responseForm : RecordForm ResponseDraft Response where
  name := "Response"
  fields := ["key", "identity", "success", "cause", "operation"]
  empty := {}
  put field v d :=
    if field = "key" then (decodeString v).map fun s => { d with key := some s }
    else if field = "identity" then
      (decodeInteger .int32 v).map fun i => { d with identity := some (Int32.ofInt i) }
    else if field = "success" then (decodeBool v).map fun b => { d with success := some b }
    else if field = "cause" then (decodeCause v).map fun c => { d with cause := some c }
    else (decodeOperation v).map fun o => { d with operation := some o }
  finish d := do
    let key ← wanted "key" d.key
    let identity ← wanted "identity" d.identity
    let success ← wanted "success" d.success
    let cause ← wanted "cause" d.cause
    let operation ← wanted "operation" d.operation
    return ⟨key, identity, success, cause, operation⟩

def decodeResponse : Reading → Decoded Response := responseForm.decode

end KeyedLocks.Wire
