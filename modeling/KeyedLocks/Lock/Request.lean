/-
Requests and their owners.

Who owns a lock is a pair of names, an application and a thread of it. A request
also carries a number of its own, which answers repeat and which decides nothing.
-/
import KeyedLocks.Text.Blank
import KeyedLocks.Lock.Kind
import KeyedLocks.Lock.Duration

set_option autoImplicit false

namespace KeyedLocks

/-! ## Owners -/

/-- Who holds a lock or asks for it. -/
structure Owner where
  application : String
  thread : String
  deriving DecidableEq, Repr, Inhabited

/-- An owner in words. -/
def Owner.describe (o : Owner) : String := o.application ++ " - " ++ o.thread

/-! ## Requests -/

/-- One attempt to take or to give back a lock. `identity` is repeated in the
answer; `issuedAt` is in milliseconds since the epoch. -/
structure Request where
  key : String
  identity : Int32
  owner : Owner
  kind : LockKind
  duration : Option LockDuration
  issuedAt : UInt64
  deriving DecidableEq, Repr

/-- Why a request is turned away before any table sees it. -/
inductive RequestError where
  | emptyKey
  | missingDuration (key : String)
  deriving DecidableEq, Repr

/-- The wording of a refusal. -/
def RequestError.message : RequestError → String
  | .emptyKey => "lock key should not be empty"
  | .missingDuration key => "timeout lock '" ++ key ++ "' requires a duration"

namespace Request

/-- Whether two requests come from one owner. -/
def sameOwner (a b : Request) : Bool := a.owner = b.owner

/-- The nanoseconds a grant for this request may last. A request without a
duration has none. -/
def lease (r : Request) : Nat :=
  match r.duration with
  | none => 0
  | some d => d.span.toNanoseconds

/-- What every request must meet: a key that is more than blanks. -/
def validate (r : Request) : Except RequestError Unit :=
  if Text.trim r.key = "" then .error .emptyKey else .ok ()

/-- What a request to take a lock must meet: a timed lock needs its duration. -/
def validateAcquire (r : Request) : Except RequestError Unit :=
  match r.validate with
  | .error e => .error e
  | .ok () =>
    if r.kind = .timeout ∧ r.duration = none then .error (.missingDuration r.key) else .ok ()

theorem validate_eq_ok_iff (r : Request) :
    r.validate = .ok () ↔ Text.isAllBlank r.key = false := by
  simp [validate, Text.trim_eq_empty_iff]

end Request

end KeyedLocks
