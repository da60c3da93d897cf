/-
Waiting for a key.

A caller that finds a key busy draws a ticket, goes to the end of the queue, and
looks for its grant. It looks once at the start and again whenever it is polled. A
grant that lies ready wins even if the call was called off; without a grant, a call
that was called off leaves the queue. A caller may also depart at any time: then it
leaves the queue, or gives back the grant that was handed to it.
-/
import KeyedLocks.Table.Operations

set_option autoImplicit false

namespace KeyedLocks

/-! ## What comes of it -/

/-- What comes of asking for a key and waiting for it. -/
inductive Acquisition where
  | granted (g : Grant)
  | reentered (g : Grant)
  | waiting (ticket : Nat)
  | cancelled (key : String)
  deriving DecidableEq, Repr

/-- What a waiting call finds when it looks. -/
inductive Progress where
  | granted (g : Grant)
  | cancelled (key : String)
  | pending
  | unknown
  deriving DecidableEq, Repr

/-- What comes of the departure of a caller: it left the queue, or gave back what
was handed to it. -/
inductive Departure where
  | left
  | gaveBack (b : GiveBack)
  | unknown
  deriving DecidableEq, Repr

namespace Table

/-! ## Queueing -/

/-- Puts a waiter at the end of the queue of a key. -/
def join (t : Table) (key : String) (w : Waiter) : Table :=
  match t.slots.get? key with
  -- Nobody comes to wait for a key that nobody holds.
  | none => t
  | some s => { t with slots := t.slots.insert key { s with waiters := s.waiters ++ [w] } }

/-- Puts a request at the end of the queue of its key, with a new ticket. -/
def enqueue (t : Table) (token : String) (r : Request) : Table :=
  let ticket := t.nextTicket
  let t := t.join r.key ⟨ticket, r⟩
  { t with nextTicket := ticket + 1, calls := t.calls ++ [⟨ticket, token, r, none⟩] }

/-- Takes a ticket out of the queue of a key. -/
def leave (t : Table) (key : String) (ticket : Nat) : Table :=
  match t.slots.get? key with
  | none => t
  | some s =>
    { t with
      slots :=
        t.slots.insert key { s with waiters := s.waiters.filter fun w => w.ticket != ticket } }

/-- Forgets the call of a ticket. -/
def forget (t : Table) (ticket : Nat) : Table :=
  { t with calls := t.calls.filter fun c => c.ticket != ticket }

/-! ## Looking and leaving -/

/-- A call looks for its grant. -/
def poll (t : Table) (ticket : Nat) : Progress × Table :=
  match t.call? ticket with
  | none => (.unknown, t)
  | some c =>
    match c.permit with
    -- The grant wins, even if the call was called off after it was handed over.
    | some g => (.granted g, t.forget ticket)
    | none =>
      if c.token ∈ t.cancelled then
        (.cancelled c.request.key, (t.leave c.request.key ticket).forget ticket)
      else (.pending, t)

/-- A caller departs before it fetched its grant. -/
def depart (t : Table) (ticket : Nat) : Departure × Table :=
  match t.call? ticket with
  | none => (.unknown, t)
  | some c =>
    match c.permit with
    -- The grant was laid ready for a call that will not fetch it, so it goes back.
    | some g =>
      let (b, t) := (t.forget ticket).giveBack c.request.key g.id
      (.gaveBack b, t)
    | none => (.left, (t.leave c.request.key ticket).forget ticket)

/-- Calls off every call with a token, those that are still to come included. -/
def cancel (t : Table) (token : String) : Table :=
  if token ∈ t.cancelled then t else { t with cancelled := token :: t.cancelled }

/-! ## Asking -/

/-- Waits for a key that someone holds, and looks for the grant at once: a call that
is called off already does not stay. -/
def await (t : Table) (token : String) (r : Request) : Acquisition × Table :=
  let ticket := t.nextTicket
  -- No grant can lie ready yet, so all that the first look can find is that the call is called off.
  match (t.enqueue token r).poll ticket with
  | (.granted g, t) => (.granted g, t)
  | (.cancelled key, t) => (.cancelled key, t)
  | (.pending, t) => (.waiting ticket, t)
  | (.unknown, t) => (.waiting ticket, t)

/-- Takes a key, or waits for it. -/
def acquire (t : Table) (token : String) (r : Request) : Acquisition × Table :=
  match t.tryAcquire r with
  | (.granted g, t) => (.granted g, t)
  | (.reentered g, t) => (.reentered g, t)
  | (.busy _, t) => t.await token r

/-! ## One equation for each way -/

theorem poll_of_unknown {t : Table} {ticket : Nat} (h : t.call? ticket = none) :
    t.poll ticket = (.unknown, t) := by
  simp [poll, h]

theorem poll_of_permit {t : Table} {ticket : Nat} {c : Call} {g : Grant}
    (h : t.call? ticket = some c) (hp : c.permit = some g) :
    t.poll ticket = (.granted g, t.forget ticket) := by
  simp [poll, h, hp]

theorem poll_of_cancelled {t : Table} {ticket : Nat} {c : Call} (h : t.call? ticket = some c)
    (hp : c.permit = none) (hc : c.token ∈ t.cancelled) :
    t.poll ticket = (.cancelled c.request.key, (t.leave c.request.key ticket).forget ticket) := by
  simp [poll, h, hp, hc]

theorem poll_of_pending {t : Table} {ticket : Nat} {c : Call} (h : t.call? ticket = some c)
    (hp : c.permit = none) (hc : c.token ∉ t.cancelled) : t.poll ticket = (.pending, t) := by
  simp [poll, h, hp, hc]

theorem depart_of_unknown {t : Table} {ticket : Nat} (h : t.call? ticket = none) :
    t.depart ticket = (.unknown, t) := by
  simp [depart, h]

theorem depart_of_bare {t : Table} {ticket : Nat} {c : Call} (h : t.call? ticket = some c)
    (hp : c.permit = none) :
    t.depart ticket = (.left, (t.leave c.request.key ticket).forget ticket) := by
  simp [depart, h, hp]

theorem depart_of_permit {t : Table} {ticket : Nat} {c : Call} {g : Grant}
    (h : t.call? ticket = some c) (hp : c.permit = some g) :
    t.depart ticket = (.gaveBack ((t.forget ticket).giveBack c.request.key g.id).1,
      ((t.forget ticket).giveBack c.request.key g.id).2) := by
  simp [depart, h, hp]

/-- A token is called off from then on. -/
theorem mem_cancelled_cancel (t : Table) (token : String) :
    token ∈ (t.cancel token).cancelled := by
  unfold cancel
  split
  · assumption
  · exact List.mem_cons_self

end Table

end KeyedLocks
