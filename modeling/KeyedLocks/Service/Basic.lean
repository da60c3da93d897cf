/-
The lock service.

There is a table for each kind of lock, and a request goes to the table of its
kind. The tables know nothing of each other: a key of one kind is another key than
the same text of another kind. They share the clock, and the one who stops the
service stops all of them: every wait is called off and nobody looks after
deadlines any more.
-/
import KeyedLocks.Table.Answers

set_option autoImplicit false

namespace KeyedLocks

/-- A table for each kind of lock. -/
structure Service where
  simple : Table
  reentrant : Table
  timeout : Table

/-- A waiting call of a service: the kind of its table, and its ticket there. -/
structure CallRef where
  kind : LockKind
  ticket : Nat
  deriving DecidableEq, Repr

namespace Service

/-- A service that was just started. Only timed locks have deadlines. -/
def start (horizon : Horizon) : Service :=
  ⟨.plain .simple horizon, .plain .reentrant horizon, .timed .timeout horizon⟩

/-- The table of a kind. -/
def table (s : Service) : LockKind → Table
  | .simple => s.simple
  | .reentrant => s.reentrant
  | .timeout => s.timeout

/-- The service with another table for a kind. -/
def setTable (s : Service) (t : Table) : LockKind → Service
  | .simple => { s with simple := t }
  | .reentrant => { s with reentrant := t }
  | .timeout => { s with timeout := t }

/-- Something happens to all tables at once. -/
def mapTables (s : Service) (f : Table → Table) : Service :=
  ⟨f s.simple, f s.reentrant, f s.timeout⟩

@[simp] theorem table_setTable (s : Service) (t : Table) (k k' : LockKind) :
    (s.setTable t k).table k' = if k' = k then t else s.table k' := by
  cases k <;> cases k' <;> rfl

@[simp] theorem table_mapTables (s : Service) (f : Table → Table) (k : LockKind) :
    (s.mapTables f).table k = f (s.table k) := by
  cases k <;> rfl

/-! ## Requests -/

/-- The token that all waits of a service share. -/
def stopToken : String := "stop"

/-- Takes a key if that needs no waiting. -/
def tryLock (s : Service) (r : Request) : Response × Service :=
  let (answer, t) := (s.table r.kind).tryLock r
  (answer, s.setTable t r.kind)

/-- Gives a key back. -/
def unlock (s : Service) (r : Request) : Response × Service :=
  let (answer, t) := (s.table r.kind).unlock r
  (answer, s.setTable t r.kind)

/-- Takes a key, or waits for it. -/
def lock (s : Service) (r : Request) : LockProgress × Service :=
  let (answer, t) := (s.table r.kind).lock stopToken r
  (answer, s.setTable t r.kind)

/-- A waiting call is polled. -/
def poll (s : Service) (c : CallRef) : LockProgress × Service :=
  let (answer, t) := (s.table c.kind).pollLock c.ticket
  (answer, s.setTable t c.kind)

/-- The caller of a waiting call departs. -/
def depart (s : Service) (c : CallRef) : Service :=
  s.setTable ((s.table c.kind).depart c.ticket).2 c.kind

/-! ## Time and the end -/

/-- Everything that is due is looked after. -/
def settle (s : Service) : Service := s.mapTables Table.settle

/-- Some milliseconds pass. -/
def advance (s : Service) (ms : Nat) : Service := s.mapTables fun t => t.advance ms

/-- The clock leaps some milliseconds. -/
def jump (s : Service) (ms : Nat) : Service := s.mapTables fun t => t.jump ms

/-- The service stops: waits are called off, and deadlines are looked after no
more. -/
def stop (s : Service) : Service := s.mapTables fun t => (t.cancel stopToken).stopReaper

end Service

end KeyedLocks
