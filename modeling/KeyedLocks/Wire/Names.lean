/-
Choices on the wire: each is written as its name.
-/
import KeyedLocks.Json.Decode
import KeyedLocks.Lock.Response

set_option autoImplicit false

namespace KeyedLocks.Wire

open KeyedLocks.Json

/-! ## Writing -/

def kindValue (k : LockKind) : Value := .string k.name

def unitValue (u : TimeUnit) : Value := .string u.name

def operationValue (o : Operation) : Value := .string o.name

def causeValue (c : Cause) : Value := .string c.name

/-! ## Reading -/

def decodeKind : Reading → Decoded LockKind :=
  decodeChoice (LockKind.all.map fun k => (k.name, k))

def decodeUnit : Reading → Decoded TimeUnit :=
  decodeChoice (TimeUnit.all.map fun u => (u.name, u))

def decodeOperation : Reading → Decoded Operation :=
  decodeChoice (Operation.all.map fun o => (o.name, o))

def decodeCause : Reading → Decoded Cause :=
  decodeChoice (Cause.all.map fun c => (c.name, c))

/-! ## What is written reads back

The names of each choice are told apart, so the name of a choice leads back to
it. -/

theorem decodeKind_name (k : LockKind) :
    decodeKind (.string (.whole k.name)) = .ok k := by
  cases k <;> rfl

theorem decodeUnit_name (u : TimeUnit) :
    decodeUnit (.string (.whole u.name)) = .ok u := by
  cases u <;> rfl

theorem decodeOperation_name (o : Operation) :
    decodeOperation (.string (.whole o.name)) = .ok o := by
  cases o <;> rfl

theorem decodeCause_name (c : Cause) :
    decodeCause (.string (.whole c.name)) = .ok c := by
  cases c <;> rfl

end KeyedLocks.Wire
