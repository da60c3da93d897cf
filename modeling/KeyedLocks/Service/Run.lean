/-
Runs of a service.

What callers do, what the clock does and what goes on in the background are single steps here,
and they come in any order. Whoever stops a service calls off its waits; the one who looks after
deadlines notices that by himself, so he may take some more steps before he leaves. What is seen
of a service in between, settled or not, is seen after such a run.
-/
import KeyedLocks.Service.Basic
import KeyedLocks.Table.Event

set_option autoImplicit false

namespace KeyedLocks

/-- What can happen to a service. -/
inductive ServiceStep where
  | tryLock (r : Request)
  | lock (r : Request)
  | unlock (r : Request)
  | poll (c : CallRef)
  | depart (c : CallRef)
  | callOff
  | reap (kind : LockKind)
  | stopReaper (kind : LockKind)
  | tick (ns : Nat)
  deriving DecidableEq, Repr

/-- What a wait comes to once it is called off: a grant that was handed over before wins. -/
def Call.verdict (c : Call) : LockProgress :=
  match c.permit with
  | some _ => .answered (.succeeded c.request .lock)
  | none => .failed (.cancelled c.request.key)

namespace Service

/-! ## Steps and runs -/

/-- The service after a step. -/
def after (s : Service) : ServiceStep → Service
  | .tryLock r => (s.tryLock r).2
  | .lock r => (s.lock r).2
  | .unlock r => (s.unlock r).2
  | .poll c => (s.poll c).2
  | .depart c => s.depart c
  | .callOff => s.mapTables fun t => t.cancel stopToken
  | .reap kind => s.setTable (s.table kind).reap.2 kind
  | .stopReaper kind => s.setTable (s.table kind).stopReaper kind
  | .tick ns => s.mapTables fun t => t.tick ns

/-- The steps of a run, one after the other. -/
def run (s : Service) : List ServiceStep → Service
  | [] => s
  | e :: es => (s.after e).run es

/-- Stopping a service is calling off its waits and sending away those who look after deadlines. -/
theorem stop_eq_run (s : Service) :
    s.stop = s.run [.callOff, .stopReaper .simple, .stopReaper .reentrant, .stopReaper .timeout] :=
  rfl

/-! ## All waits -/

/-- The calls that wait, or whose grant lies ready. -/
def pending (s : Service) : List CallRef :=
  LockKind.all.flatMap fun kind => (s.table kind).calls.map fun c => ⟨kind, c.ticket⟩

/-- Polls some calls, one after the other. -/
def pollAll (s : Service) : List CallRef → List LockProgress × Service
  | [] => ([], s)
  | c :: cs =>
    let (answer, s) := s.poll c
    let (answers, s) := s.pollAll cs
    (answer :: answers, s)

/-- What a call comes to once it is called off. -/
def verdict (s : Service) (c : CallRef) : LockProgress :=
  ((s.table c.kind).call? c.ticket).elim .unknown Call.verdict

/-- Whether a request gets its key without waiting: the key is free, or its holder asks and may
take it again. -/
def letsIn (s : Service) (r : Request) : Bool :=
  ((s.table r.kind).holder? r.key).all fun h => r.kind = .reentrant && h.request.sameOwner r

end Service

end KeyedLocks
