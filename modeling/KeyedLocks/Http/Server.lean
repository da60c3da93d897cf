/-
The server over time.

A request that comes in is answered at once, or its exchange stays open because it waits for
a key. An open exchange is looked at again and again until its answer is there or its client
has gone, and nothing else is kept of it than the call that it waits under. Exchanges have
numbers in the order in which their requests came in.

Between requests the clock moves on, the one who looks after deadlines takes his steps, and
one day the server stops, after which it answers for a while still.
-/
import KeyedLocks.Http.Handler

set_option autoImplicit false

namespace KeyedLocks.Http

/-- The call that a request waits under, if it waits. -/
def Reply.call? : Reply → Option CallRef
  | .answered _ => none
  | .waiting c => some c

/-- What can happen to a server. -/
inductive ServerEvent where
  | receive (m : Message)
  | poll (n : Nat)
  | disconnect (n : Nat)
  | reap (kind : LockKind)
  | tick (ns : Nat)
  | stop

/-- A service, and for each request that came in the call that it still waits under. -/
structure Server where
  service : Service
  exchanges : List (Option CallRef) := []

namespace Server

/-- A server that nobody has asked yet. -/
def start (horizon : Horizon) : Server := { service := .start horizon }

/-- The call behind an open exchange. -/
def exchange? (s : Server) (n : Nat) : Option CallRef := s.exchanges[n]?.join

/-- One event, and what is told to the client that it is about. A client that has gone is told
nothing. -/
def step (s : Server) : ServerEvent → Option Reply × Server
  | .receive m =>
    let (reply, service) := handle s.service m
    (some reply, ⟨service, s.exchanges ++ [reply.call?]⟩)
  | .poll n =>
    match s.exchange? n with
    | none => (none, s)
    | some c =>
      let (reply, service) := Http.poll s.service c
      (some reply, ⟨service, s.exchanges.set n reply.call?⟩)
  | .disconnect n =>
    match s.exchange? n with
    | none => (none, s)
    | some c => (none, ⟨s.service.depart c, s.exchanges.set n none⟩)
  | .reap kind =>
    (none, { s with service := s.service.setTable (s.service.table kind).reap.2 kind })
  | .tick ns => (none, { s with service := s.service.mapTables fun t => t.tick ns })
  | .stop => (none, { s with service := s.service.stop })

/-- Events one after the other. -/
def run (s : Server) : List ServerEvent → Server
  | [] => s
  | e :: es => (s.step e).2.run es

end Server

end KeyedLocks.Http
