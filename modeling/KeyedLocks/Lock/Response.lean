/-
Answers.

Contention is an ordinary answer: that someone else holds a key, or that a lock
is gone, is told by a cause and is no error.
-/
import KeyedLocks.Lock.Request

set_option autoImplicit false

namespace KeyedLocks

/-- What was asked for. -/
inductive Operation where
  | tryLock
  | lock
  | unlock
  deriving DecidableEq, Repr, Inhabited

namespace Operation

/-- All operations. -/
def all : List Operation := [tryLock, lock, unlock]

/-- The name of an operation. -/
def name : Operation → String
  | tryLock => "try_lock"
  | lock => "lock"
  | unlock => "unlock"

/-- The number older clients know an operation by. They have one number for both
ways of taking a lock. -/
def code : Operation → Nat
  | tryLock => 1
  | lock => 1
  | unlock => 2

end Operation

/-- Why an operation came out as it did. -/
inductive Cause where
  | succeeded
  | alreadyLocked
  | lockExpired
  | notHeld
  deriving DecidableEq, Repr, Inhabited

namespace Cause

/-- All causes. -/
def all : List Cause := [succeeded, alreadyLocked, lockExpired, notHeld]

/-- The name of a cause. -/
def name : Cause → String
  | succeeded => "succeeded"
  | alreadyLocked => "already_locked"
  | lockExpired => "lock_expired"
  | notHeld => "not_held"

/-- A cause in words. -/
def describe : Cause → String
  | succeeded => "succeeded"
  | alreadyLocked => "lock is held by another owner"
  | lockExpired => "lock expired before it was released"
  | notHeld => "lock is not held by this owner"

end Cause

/-- The answer to a request. -/
structure Response where
  key : String
  identity : Int32
  success : Bool
  cause : Cause
  operation : Operation
  deriving DecidableEq, Repr

namespace Response

/-- A request that got what it asked for. -/
def succeeded (r : Request) (op : Operation) : Response :=
  ⟨r.key, r.identity, true, .succeeded, op⟩

/-- A request that did not. -/
def failed (r : Request) (op : Operation) (cause : Cause) : Response :=
  ⟨r.key, r.identity, false, cause, op⟩

end Response

end KeyedLocks
