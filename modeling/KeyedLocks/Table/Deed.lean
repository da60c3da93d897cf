/-
All that can be done to a table.

An event is one step. Whoever answers callers does more at a time: a request is answered with
a response, everything that is due is looked after at once, and time passes with stops where
something is due. A deed is an event or one of these.

A round is a deed after which everything that is due is looked after. A deed may be about one
call: it is the request that draws the ticket of the call, or it polls the call or drops it.
-/
import KeyedLocks.Table.Event
import KeyedLocks.Table.Answers

set_option autoImplicit false

namespace KeyedLocks

/-! ## Deeds -/

/-- What can be done to a table. -/
inductive Deed where
  | event (e : Event)
  | tryLock (r : Request)
  | lock (token : String) (r : Request)
  | unlock (r : Request)
  | pollLock (ticket : Nat)
  | settle
  | advance (ms : Nat)
  deriving DecidableEq, Repr

/-- What comes of a deed. -/
inductive Reply where
  | outcome (o : Outcome)
  | response (r : Response)
  | progress (p : LockProgress)
  | done
  deriving DecidableEq, Repr

namespace Table

/-- One deed. -/
def perform (t : Table) : Deed → Reply × Table
  | .event e => (t.step e).map .outcome id
  | .tryLock r => (t.tryLock r).map .response id
  | .lock token r => (t.lock token r).map .progress id
  | .unlock r => (t.unlock r).map .response id
  | .pollLock ticket => (t.pollLock ticket).map .progress id
  | .settle => (.done, t.settle)
  | .advance ms => (.done, t.advance ms)

/-- Deeds one after the other: what comes of each, and the table after it. -/
def trace (t : Table) : List Deed → List (Reply × Table)
  | [] => []
  | d :: ds => t.perform d :: (t.perform d).2.trace ds

/-- The ticket that was drawn between two tables, if one was. -/
def drawn? (t u : Table) : Option Nat :=
  if u.nextTicket = t.nextTicket then none else some t.nextTicket

/-- The call that a deed is about, by its ticket: it is started, polled or dropped. -/
def about? (t : Table) : Deed → Option Nat
  | .event (.acquire token r) => t.drawn? (t.acquire token r).2
  | .lock token r => t.drawn? (t.lock token r).2
  | .event (.poll ticket) | .event (.depart ticket) | .pollLock ticket => some ticket
  | _ => none

end Table

/-! ## Rounds -/

/-- A table, and what is done to it. -/
structure Round where
  table : Table
  deed : Deed

namespace Round

/-- What comes of the deed. -/
def reply (m : Round) : Reply := (m.table.perform m.deed).1

/-- The table after the deed, when everything that is due has been looked after. -/
def after (m : Round) : Table := (m.table.perform m.deed).2.settle

/-- The call that the deed is about. -/
def about? (m : Round) : Option Nat := m.table.about? m.deed

end Round

/-- Deeds one after the other, with everything that is due looked after in between. -/
def Table.rounds (t : Table) : List Deed → List Round
  | [] => []
  | d :: ds => ⟨t, d⟩ :: (Round.mk t d).after.rounds ds

end KeyedLocks
