/-
One key by itself.

What happens on a key depends on the scene of its table, on who holds the key and on the calls
that asked for it. `Side` keeps just that, and no number: the holder is kept without the number
of its grant, a call is known by its place among the calls for the key, and of a permit it is
kept whether its grant still holds the key (`Footing`). The operations on a side are those of a
table with everything else left out.

`Table.side` is what a table shows of a key, given the tickets of the requests to wait for it.
The tickets ascend (`Ticketed`), so the queue of the key is read off the calls in their places
(`queue_eq`), and the first who waits there is the first in the queue (`next?_side`).
-/
import KeyedLocks.Proofs.Table.Places
import KeyedLocks.Service.Session

set_option autoImplicit false

namespace KeyedLocks

/-! ## A key without numbers -/

/-- Where a call stands: it waits, it has a grant that holds the key, or it has one that has
ended. -/
inductive Footing where
  | waiting
  | ready
  | late
  deriving DecidableEq, Repr

/-- A call without its numbers. -/
structure Caller where
  token : String
  request : Request
  footing : Footing
  deriving DecidableEq, Repr

/-- A key by itself: the scene, the holder without the number of its grant, and the calls that
asked for the key, each in its place. A call that has returned leaves its place empty. -/
structure Side where
  scene : Scene
  holder : Option Holder
  callers : List (Option Caller)
  deriving DecidableEq, Repr

namespace Caller

/-- What a call waits for. -/
def wants? (c : Caller) : Option Request := if c.footing = .waiting then some c.request else none

/-- The grant of a call has ended. -/
def lapse (c : Caller) : Caller := if c.footing = .ready then { c with footing := .late } else c

/-- A grant was laid ready for a call. -/
def serve (c : Caller) : Caller := { c with footing := .ready }

end Caller

namespace Side

/-- The holder that a request becomes now. -/
def newHolder (s : Side) (r : Request) : Holder :=
  { request := r, grant := 0, holds := 1, acquiredAt := s.scene.now,
    expiresAt :=
      if s.scene.leased then some (s.scene.horizon.deadline s.scene.now r.lease) else none }

/-! ### Who is next -/

/-- The first request that waits. -/
def next? (callers : List (Option Caller)) : Option Request :=
  callers.findSome? fun c => c.bind Caller.wants?

/-- A grant is laid ready for the first who waits, and all other grants have ended. -/
def passOn : List (Option Caller) → List (Option Caller)
  | [] => []
  | none :: callers => none :: passOn callers
  | some c :: callers =>
    if c.footing = .waiting then some c.serve :: callers.map (Option.map Caller.lapse)
    else some c.lapse :: passOn callers

/-- The grant ends, and the key goes to the first who waits. -/
def handOn (s : Side) : Side :=
  { s with holder := (next? s.callers).map s.newHolder, callers := passOn s.callers }

/-- The holder with another number of holds. -/
def setHolds (s : Side) (h : Holder) (holds : UInt32) : Side :=
  { s with holder := some { h with holds } }

/-! ### Places -/

/-- The call in a place. -/
def caller? (s : Side) (i : Nat) : Option Caller := s.callers[i]?.join

/-- A call comes, or a request that leaves none behind. -/
def join (s : Side) (c : Option Caller) : Side := { s with callers := s.callers ++ [c] }

/-- A place becomes empty. -/
def clear (s : Side) (i : Nat) : Side := { s with callers := s.callers.set i none }

/-! ### Requests -/

/-- Whether the same owner may take the key again. -/
def reentrant (s : Side) : Bool := s.scene.kind = .reentrant

/-- Why giving back fails for someone who is not the holder. -/
def staleCause (s : Side) : Cause :=
  match s.scene.kind with
  | .timeout => .lockExpired
  | _ => .notHeld

/-- The key is taken if it is free, or once more if its holder asks and may. -/
def take? (s : Side) (r : Request) : Option Side :=
  match s.holder with
  | none => some { s with holder := some (s.newHolder r) }
  | some h =>
    if s.reentrant && h.request.sameOwner r then some (s.setHolds h (h.holds + 1)) else none

/-- Takes the key if that needs no waiting. -/
def tryLock (s : Side) (r : Request) : Response × Side :=
  match s.take? r with
  | some s => (.succeeded r .tryLock, s)
  | none => (.failed r .tryLock .alreadyLocked, s)

/-- Takes the key, or waits for it. -/
def lock (s : Side) (token : String) (r : Request) : Told × Side :=
  match s.take? r with
  | some s => (.response (.succeeded r .lock), s.join none)
  | none =>
    if token ∈ s.scene.cancelled then (.failed (.cancelled r.key), s.join none)
    else (.pending, s.join (some ⟨token, r, .waiting⟩))

/-- Gives the key back. -/
def unlock (s : Side) (r : Request) : Response × Side :=
  match s.holder with
  | none => (.failed r .unlock s.staleCause, s)
  | some h =>
    if h.request.sameOwner r then
      (.succeeded r .unlock,
        if s.reentrant && 1 < h.holds then s.setHolds h (h.holds - 1) else s.handOn)
    else (.failed r .unlock s.staleCause, s)

/-- A call is polled. -/
def poll (s : Side) (i : Nat) : Told × Side :=
  match s.caller? i with
  | none => (.unknown, s)
  | some c =>
    if c.footing = .waiting then
      if c.token ∈ s.scene.cancelled then (.failed (.cancelled c.request.key), s.clear i)
      else (.pending, s)
    else (.response (.succeeded c.request .lock), s.clear i)

/-- One hold of the holder is given back. -/
def giveBack (s : Side) : Side :=
  match s.holder with
  | none => s
  | some h => if 1 < h.holds then s.setHolds h (h.holds - 1) else s.handOn

/-- The caller of a call departs. -/
def depart (s : Side) (i : Nat) : Told × Side :=
  match s.caller? i with
  | none => (.unknown, s)
  | some c => (.done, if c.footing = .ready then (s.clear i).giveBack else s.clear i)

/-! ### Time -/

/-- Whether the deadline of the holder has come and someone looks after it. -/
def isDue (s : Side) : Bool :=
  s.scene.reaper = .running && (s.holder.bind Holder.expiresAt).any fun d => d ≤ s.scene.now

/-- The key is taken away from a holder whose deadline has come. -/
def expire (s : Side) : Side := if s.isDue then s.handOn else s

/-- The clock moves on. -/
def tick (s : Side) (ns : Nat) : Side :=
  { s with scene := { s.scene with now := s.scene.now + ns } }

/-- Every call with a token is called off, and nobody looks after deadlines any more. -/
def stop (s : Side) (token : String) : Side :=
  let reaper := if s.scene.reaper = .running then .stopped else s.scene.reaper
  let cancelled :=
    if token ∈ s.scene.cancelled then s.scene.cancelled else token :: s.scene.cancelled
  { s with scene := { s.scene with reaper, cancelled } }

end Side

/-! ## What a table shows of a key -/

/-- A holder without the number of its grant. -/
def Holder.unnumbered (h : Holder) : Holder := { h with grant := 0 }

namespace Table

variable {t u : Table} {key : String} {tickets : List (Option Nat)}

/-- Where a call for a key stands. -/
def footing (t : Table) (key : String) (c : Call) : Footing :=
  match c.permit with
  | none => .waiting
  | some g => if t.grant? key = some g.id then .ready else .late

/-- The call of a ticket, as a key shows it. -/
def caller (t : Table) (key : String) (ticket : Option Nat) : Option Caller :=
  (ticket.bind t.call?).map fun c => ⟨c.token, c.request, t.footing key c⟩

/-- **What a table shows of a key**, given the tickets of the requests to wait for it. -/
def side (t : Table) (key : String) (tickets : List (Option Nat)) : Side :=
  ⟨t.scene, (t.holder? key).map Holder.unnumbered, tickets.map (t.caller key)⟩

/-- The tickets of the requests to wait for a key, in the order in which they were drawn. -/
structure Ticketed (t : Table) (key : String) (tickets : List (Option Nat)) : Prop where
  ascending : tickets.Pairwise fun a b => ∀ m ∈ a, ∀ n ∈ b, m < n
  drawn : ∀ n, some n ∈ tickets → n < t.nextTicket
  own : ∀ c ∈ t.calls, some c.ticket ∈ tickets ↔ c.request.key = key

namespace Ticketed

theorem mono (f : t.Ticketed key tickets)
    (calls : ∀ d ∈ u.calls, ∃ c ∈ t.calls, c.ticket = d.ticket ∧ c.request = d.request)
    (next : t.nextTicket ≤ u.nextTicket) : u.Ticketed key tickets where
  ascending := f.ascending
  drawn n hn := Nat.lt_of_lt_of_le (f.drawn n hn) next
  own d hd := by
    obtain ⟨c, hc, ticket, request⟩ := calls d hd
    rw [← ticket, ← request]
    exact f.own c hc

/-- A call that is forgotten leaves its ticket behind, in an empty place. -/
theorem forget (f : t.Ticketed key tickets) (n : Nat) : (t.forget n).Ticketed key tickets :=
  f.mono (fun d hd => ⟨d, (List.mem_filter.1 hd).1, rfl, rfl⟩) (Nat.le_refl _)

/-- A record is taken out of the delay queue. -/
theorem drain (f : t.Ticketed key tickets) :
    { t with delays := t.delays.tail }.Ticketed key tickets :=
  f.mono (fun d hd => ⟨d, hd, rfl, rfl⟩) (Nat.le_refl _)

end Ticketed

/-! ## Where two tables show the same -/

theorem caller_congr {n : Option Nat} (grants : u.grant? key = t.grant? key)
    (calls : n.bind u.call? = n.bind t.call?) : u.caller key n = t.caller key n := by
  rw [caller, caller, calls]
  refine Option.map_congr ?_
  intro c _
  rw [footing, footing, grants]

/-- **A key is shown alike** where the scene, its holder and the calls for it are the same. Nothing
else of the table comes in. -/
theorem side_congr (scene : u.scene = t.scene) (holder : u.holder? key = t.holder? key)
    (calls : ∀ n, some n ∈ tickets → u.call? n = t.call? n) :
    u.side key tickets = t.side key tickets := by
  have callers : tickets.map (u.caller key) = tickets.map (t.caller key) := by
    refine List.map_congr_left ?_
    intro n hn
    have grants : u.grant? key = t.grant? key := by rw [grant?, grant?, holder]
    cases n with
    | none => rfl
    | some n => exact caller_congr grants (calls n hn)
  rw [side, side, scene, holder, callers]

/-! ## Looking a call up afterwards -/

theorem call?_forget (t : Table) (n m : Nat) :
    (t.forget n).call? m = if m = n then none else t.call? m := by
  rw [call?, call?, forget, List.find?_filter]
  by_cases same : m = n
  · rw [if_pos same, List.find?_eq_none]
    intro c _
    simp [same]
  · rw [if_neg same]
    congr 1
    funext c
    -- It is another call that was forgotten, so the test on tickets passes it by.
    by_cases mine : c.ticket = m
    · simp [mine, same]
    · simp [mine]

theorem call?_withdraw (t : Table) (c : Call) (m : Nat) :
    (t.withdraw c).call? m = if m = c.ticket then none else t.call? m := by
  rw [← call?_forget, call?, call?, calls_withdraw]
  rfl

theorem call?_handOn (t : Table) (k : String) (ws : List Waiter) (m : Nat) :
    (t.handOn k ws).2.call? m = (t.call? m).map (Call.take
      (ws.head?.map fun w => (w.ticket, (t.newHolder w.request).toGrant))) := by
  rw [call?, call?, calls_handOn, List.find?_map]
  rfl

theorem call?_enqueue_of_lt (t : Table) (token : String) (r : Request) {m : Nat}
    (drawn : m < t.nextTicket) : (t.enqueue token r).call? m = t.call? m := by
  have other : ((⟨t.nextTicket, token, r, none⟩ : Call).ticket == m) = false := by
    simp only [beq_eq_false_iff_ne]
    omega
  rw [call?, call?, calls_enqueue, List.find?_append, List.find?_cons, other]
  simp

/-! ## The queue of a key, call by call -/

/-- The waiter behind a ticket, if its call still waits. -/
def waiter? (t : Table) (ticket : Option Nat) : Option Waiter :=
  ((ticket.bind t.call?).filter fun c => c.permit.isNone).map Call.toWaiter

/-- A ticket has a waiter behind it if it is that of a call without a grant. -/
theorem waiter?_eq_some_iff (q : t.Queued) {n : Option Nat} {w : Waiter} :
    t.waiter? n = some w ↔ ∃ c ∈ t.calls, n = some c.ticket ∧ c.permit = none ∧ c.toWaiter = w := by
  rw [waiter?, Option.map_eq_some_iff]
  constructor
  · rintro ⟨c, found, rfl⟩
    obtain ⟨found, bare⟩ := Option.filter_eq_some_iff.1 found
    obtain ⟨m, rfl, found⟩ := Option.bind_eq_some_iff.1 found
    obtain ⟨hc, rfl⟩ := q.call?_eq_some_iff.1 found
    exact ⟨c, hc, rfl, Option.isNone_iff_eq_none.1 bare, rfl⟩
  · rintro ⟨c, hc, rfl, bare, rfl⟩
    have found : t.call? c.ticket = some c := q.call?_eq_some_iff.2 ⟨hc, rfl⟩
    refine ⟨c, ?_, rfl⟩
    rw [Option.filter_eq_some_iff, Option.bind_some, bare]
    exact ⟨found, rfl⟩

/-- **The queue of a key** holds the calls for it that wait, in the order of their tickets. -/
theorem Ticketed.queue_eq (f : t.Ticketed key tickets) (q : t.Queued) :
    t.queue key = tickets.filterMap t.waiter? := by
  have left : (t.queue key).Pairwise fun a b => a.ticket < b.ticket := by
    rw [q.queue_eq]
    exact q.waitList_ascending.sublist List.filter_sublist
  have right : (tickets.filterMap t.waiter?).Pairwise fun a b => a.ticket < b.ticket := by
    refine f.ascending.filterMap _ ?_
    intro a b before v hv w hw
    obtain ⟨c, -, rfl, -, rfl⟩ := (waiter?_eq_some_iff q).1 hv
    obtain ⟨d, -, rfl, -, rfl⟩ := (waiter?_eq_some_iff q).1 hw
    exact before c.ticket rfl d.ticket rfl
  -- Two lists with the same members, both in the order of the tickets, are one list.
  have members : ∀ w, w ∈ t.queue key ↔ w ∈ tickets.filterMap t.waiter? := by
    intro w
    rw [List.mem_filterMap]
    constructor
    · intro hw
      obtain ⟨c, hc, bare, same, here⟩ := q.exists_call_of_mem hw
      exact ⟨some c.ticket, (f.own c hc).2 here, (waiter?_eq_some_iff q).2 ⟨c, hc, rfl, bare, same⟩⟩
    · rintro ⟨n, hn, found⟩
      obtain ⟨c, hc, rfl, bare, rfl⟩ := (waiter?_eq_some_iff q).1 found
      exact q.mem_queue.2 ⟨mem_waitList.2 ⟨c, hc, bare, rfl⟩, (f.own c hc).1 hn⟩
  have once : ∀ {l : List Waiter}, (l.Pairwise fun a b => a.ticket < b.ticket) → l.Nodup := by
    intro l order
    refine order.imp ?_
    intro a b lt same
    rw [same] at lt
    exact Nat.lt_irrefl _ lt
  refine List.Perm.eq_of_pairwise ?_ left right
    ((List.perm_ext_iff_of_nodup (once left) (once right)).2 members)
  intro a b _ _ lt gt
  exact absurd lt (Nat.lt_asymm gt)

/-- A call that has a grant does not wait. -/
theorem footing_ne_waiting {c : Call} {g : Grant} (ready : c.permit = some g) :
    t.footing key c ≠ .waiting := by
  rw [footing, ready]
  dsimp only
  split
  · intro h
    cases h
  · intro h
    cases h

/-- What a call waits for is what its waiter asks for. -/
theorem wants?_caller (t : Table) (key : String) (n : Option Nat) :
    (t.caller key n).bind Caller.wants? = (t.waiter? n).map Waiter.request := by
  rw [caller, waiter?]
  cases n.bind t.call? with
  | none => rfl
  | some c =>
    cases bare : c.permit with
    | none => simp [footing, Caller.wants?, Call.toWaiter, Option.filter, bare]
    | some g =>
      simp [Caller.wants?, Option.filter, footing_ne_waiting bare, bare]

/-- The next holder is the first who waits. -/
theorem next?_side (f : t.Ticketed key tickets) (q : t.Queued) :
    Side.next? (t.side key tickets).callers = (t.queue key).head?.map Waiter.request := by
  change (tickets.map (t.caller key)).findSome? (fun c => c.bind Caller.wants?) = _
  rw [f.queue_eq q, List.head?_filterMap, List.map_findSome?, List.findSome?_map]
  congr 1
  funext n
  exact t.wants?_caller key n

end Table

end KeyedLocks
