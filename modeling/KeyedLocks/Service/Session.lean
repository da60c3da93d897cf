/-
Sessions of a service.

A session is what the callers of a service and its clock do, one step after the other; after
every step whatever is due is looked after. A request to wait may leave a call behind. The
call is named by the kind and the key it is for and by how many requests to wait for that
pair came before it; which ticket the table drew for it is the table's own affair.

What is seen of a pair of kind and key in a session is, step by step, what was told to
whoever took the step, and the pair's entry in the listing after it.
-/
import KeyedLocks.Service.Status

set_option autoImplicit false

namespace KeyedLocks

/-! ## Steps and answers -/

/-- A request to wait, by its kind and key, and by the number of those for the same pair
that came before it. -/
structure CallName where
  kind : LockKind
  key : String
  number : Nat
  deriving DecidableEq, Repr

/-- What can happen in a session. -/
inductive ServiceEvent where
  | tryLock (r : Request)
  | unlock (r : Request)
  | lock (r : Request)
  | poll (call : CallName)
  | depart (call : CallName)
  | advance (ms : Nat)
  | jump (ms : Nat)
  | stop
  deriving DecidableEq, Repr

/-- What is told to whoever takes a step. -/
inductive Told where
  | response (r : Response)
  | failed (e : WaitError)
  | pending
  | unknown
  | done
  deriving DecidableEq, Repr

/-- The pair of kind and key that a step is about. The clock and the end are about none in
particular. -/
def ServiceEvent.about? : ServiceEvent → Option (LockKind × String)
  | .tryLock r | .unlock r | .lock r => some (r.kind, r.key)
  | .poll call | .depart call => some (call.kind, call.key)
  | .advance _ | .jump _ | .stop => none

/-- Whether a step is about a pair of kind and key, or about none in particular. -/
def ServiceEvent.concerns (kind : LockKind) (key : String) (e : ServiceEvent) : Bool :=
  e.about?.all fun p => p = (kind, key)

namespace LockProgress

/-- What is told of a wait. The ticket is not told. -/
def told : LockProgress → Told
  | .answered r => .response r
  | .failed e => .failed e
  | .waiting _ => .pending
  | .unknown => .unknown

/-- The ticket of a wait that goes on. -/
def ticket? : LockProgress → Option Nat
  | .waiting ticket => some ticket
  | _ => none

end LockProgress

/-! ## Sessions -/

/-- A request to wait that was made: for which pair, and its ticket if it had to wait. -/
structure Wait where
  kind : LockKind
  key : String
  ticket : Option Nat
  deriving DecidableEq, Repr

/-- A service, and the requests to wait that were made, in their order. -/
structure Session where
  service : Service
  waits : List Wait := []

namespace Session

/-- A session in which nothing happened yet. -/
def start (horizon : Horizon) : Session := { service := .start horizon }

/-- The tickets of the requests to wait for a pair of kind and key, in their order. -/
def tickets (s : Session) (kind : LockKind) (key : String) : List (Option Nat) :=
  (s.waits.filter fun w => w.kind = kind && w.key = key).map Wait.ticket

/-- The ticket behind the name of a call. -/
def ticket? (s : Session) (call : CallName) : Option Nat :=
  (s.tickets call.kind call.key)[call.number]?.join

/-- One step, before anything that is due is looked after. -/
def act (s : Session) : ServiceEvent → Told × Session
  | .tryLock r =>
    let (answer, service) := s.service.tryLock r
    (.response answer, { s with service })
  | .unlock r =>
    let (answer, service) := s.service.unlock r
    (.response answer, { s with service })
  | .lock r =>
    let (p, service) := s.service.lock r
    -- A request that need not wait has its place among the others all the same.
    (p.told, ⟨service, s.waits ++ [⟨r.kind, r.key, p.ticket?⟩]⟩)
  | .poll call =>
    match s.ticket? call with
    | none => (.unknown, s)
    | some ticket =>
      let (p, service) := s.service.poll ⟨call.kind, ticket⟩
      (p.told, { s with service })
  | .depart call =>
    match s.ticket? call with
    | none => (.unknown, s)
    | some ticket =>
      -- A call that was answered is not there any more.
      let there := ((s.service.table call.kind).call? ticket).isSome
      (if there then .done else .unknown,
        { s with service := s.service.depart ⟨call.kind, ticket⟩ })
  | .advance ms => (.done, { s with service := s.service.advance ms })
  | .jump ms => (.done, { s with service := s.service.jump ms })
  | .stop => (.done, { s with service := s.service.stop })

/-- Everything that is due is looked after. -/
def settle (s : Session) : Session := { s with service := s.service.settle }

/-- One step. -/
def step (s : Session) (e : ServiceEvent) : Told × Session := (s.act e).map id settle

/-- What the listing shows of a pair of kind and key. -/
def entry (s : Session) (kind : LockKind) (key : String) : List (LockKind × Table.HeldKey) :=
  s.service.status.filter fun e => e.1 = kind && e.2.key = key

end Session

/-! ## What is seen of a pair -/

/-- A step, what was told to whoever took it, and what the listing shows of a pair of kind
and key after it. -/
structure Sight where
  event : ServiceEvent
  told : Told
  entry : List (LockKind × Table.HeldKey)
  deriving DecidableEq, Repr

/-- What is seen of a pair of kind and key in a session, step by step. -/
def Session.sights (kind : LockKind) (key : String) : Session → List ServiceEvent → List Sight
  | _, [] => []
  | s, e :: es =>
    ⟨e, (s.step e).1, (s.step e).2.entry kind key⟩ :: Session.sights kind key (s.step e).2 es

end KeyedLocks
