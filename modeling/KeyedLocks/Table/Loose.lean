/-
A table while an operation is at work.

Between operations a key is held or it is not there (`Slot`). Within an operation that is not
so. An entry is made before anybody is let in; it is without a holder while the key is passed
on; and whoever comes first in a queue may have gone away without taking his place with him. A
loose table allows for all of that. Its operations go through the steps one by one, and an
entry is taken out only after a look at whether anybody is left under it.

Nothing here says that an entry without a holder never stays behind, or that nobody is put in
under a key that is not his. That the operations of a loose table come to the same as those
of a table, and that it therefore keeps no such entry, is a result about them.
-/
import KeyedLocks.Table.Event
import KeyedLocks.Text.Utf8

set_option autoImplicit false

namespace KeyedLocks

/-- What is kept under a key: who holds it, if anybody does, and who waits. -/
structure Entry where
  holder : Option Holder := none
  waiters : List Waiter := []
  deriving DecidableEq, Repr

/-- Whether nobody holds the key and nobody waits for it. -/
def Entry.isIdle (e : Entry) : Bool := e.holder.isNone && e.waiters.isEmpty

/-- A table whose keys are kept under entries. -/
structure LooseTable where
  kind : LockKind
  leased : Bool
  reaper : Reaper
  horizon : Horizon
  now : Nat := 0
  entries : KeyMap Entry := .empty
  lastGrant : Nat := 0
  nextTicket : Nat := 0
  delays : DelayQueue := .empty
  calls : List Call := []
  cancelled : List String := []

/-- The bytes of a key. -/
def Table.HeldKey.bytes (h : Table.HeldKey) : List UInt8 := Text.encode h.key.toList

namespace LooseTable

/-! ## Looking at a loose table -/

/-- The holder of a key. -/
def holder? (l : LooseTable) (key : String) : Option Holder :=
  (l.entries.get? key).bind Entry.holder

/-- Who holds a key. -/
def owner? (l : LooseTable) (key : String) : Option Owner :=
  (l.holder? key).map fun h => h.request.owner

/-- Whether a key is held. -/
def isLocked (l : LooseTable) (key : String) : Bool :=
  (l.entries.get? key).any fun e => e.holder.isSome

/-- How many wait for a key. -/
def waiting (l : LooseTable) (key : String) : Nat :=
  match l.entries.get? key with
  | none => 0
  | some e => e.waiters.length

/-- How many keys have an entry. -/
def trackedKeys (l : LooseTable) : Nat := l.entries.size

/-- Every held key, in the order of the keys. An entry without a holder is not shown. -/
def snapshot (l : LooseTable) : List Table.HeldKey :=
  l.entries.entries.filterMap fun p =>
    p.2.holder.map fun h => Table.HeldKey.ofSlot l.now p.1 ⟨h, p.2.waiters⟩

/-- Every held key among the entries that were found, which are in any order. Those that nobody
holds are left out and the others are sorted by the bytes of their keys. -/
def listed (l : LooseTable) (found : List (String × Entry)) : List Table.HeldKey :=
  let held := found.filterMap fun p =>
    p.2.holder.map fun h => Table.HeldKey.ofSlot l.now p.1 ⟨h, p.2.waiters⟩
  held.mergeSort fun a b => a.bytes ≤ b.bytes

/-- Whether the same owner may take a key again. -/
def reentrant (l : LooseTable) : Bool := l.kind = .reentrant

/-- The call of a ticket. -/
def call? (l : LooseTable) (ticket : Nat) : Option Call :=
  l.calls.find? fun c => c.ticket == ticket

/-- Whether the caller behind a ticket is still there to be handed something. -/
def listens (l : LooseTable) (ticket : Nat) : Bool := l.calls.any fun c => c.ticket == ticket

/-! ## Entries -/

/-- The entry of a key, or an empty one. -/
def entry (l : LooseTable) (key : String) : Entry := (l.entries.get? key).getD {}

/-- Puts an entry under a key. -/
def put (l : LooseTable) (key : String) (e : Entry) : LooseTable :=
  { l with entries := l.entries.insert key e }

/-- Takes the entry of a key out if nobody is left under it. -/
def tidy (l : LooseTable) (key : String) : LooseTable :=
  if (l.entry key).isIdle then { l with entries := l.entries.erase key } else l

/-! ## Making a holder -/

/-- The holder that a request becomes now. -/
def newHolder (l : LooseTable) (r : Request) : Holder :=
  { request := r, grant := l.lastGrant + 1, holds := 1, acquiredAt := l.now,
    expiresAt := if l.leased then some (l.horizon.deadline l.now r.lease) else none }

/-- Makes a request the holder under an entry, and puts in the record of its deadline. -/
def install (l : LooseTable) (key : String) (e : Entry) (r : Request) : Grant × LooseTable :=
  let h := l.newHolder r
  let delays :=
    match h.expiresAt with
    | none => l.delays
    | some at_ => l.delays.push key h.grant at_
  (h.toGrant, { l.put key { e with holder := some h } with lastGrant := h.grant, delays })

/-- Lays a grant ready for the call of a ticket. -/
def deliver (l : LooseTable) (ticket : Nat) (g : Grant) : LooseTable :=
  { l with
    calls := l.calls.map fun c => if c.ticket = ticket then { c with permit := some g } else c }

/-- Passes a key without a holder to the first in its queue who is still there. -/
def handOff (l : LooseTable) (key : String) : List Waiter → Option Grant × LooseTable
  | [] => (none, l.put key {})
  | w :: ws =>
    if l.listens w.ticket then
      let (g, l) := l.install key ⟨none, ws⟩ w.request
      (some g, l.deliver w.ticket g)
    else l.handOff key ws

/-- The grant of a key ends: the key is passed on, and if that leaves nobody under the entry
it is taken out. -/
def vacate (l : LooseTable) (key : String) (e : Entry) : Option Grant × LooseTable :=
  let (next, l) := l.handOff key e.waiters
  (next, l.tidy key)

/-- Lets a request in under an entry. -/
def letIn (l : LooseTable) (key : String) (e : Entry) (r : Request) : Admission × LooseTable :=
  match e.holder with
  | some h =>
    if l.reentrant && h.request.sameOwner r then
      let h := { h with holds := h.holds + 1 }
      (.reentered h.toGrant, l.put key { e with holder := some h })
    else (.busy h.request.owner, l)
  | none =>
    let (g, l) := l.install key e r
    (.granted g, l)

/-- Takes a key if it is free, or once more if its holder asks and may. -/
def tryAcquire (l : LooseTable) (r : Request) : Admission × LooseTable :=
  l.letIn r.key (l.entry r.key) r

/-! ## Giving back and taking away -/

/-- Gives a key back for the owner of a request. -/
def release (l : LooseTable) (r : Request) : Release × LooseTable :=
  match l.entries.get? r.key with
  | none => (.notHeld none, l)
  | some e =>
    match e.holder with
    | none => (.notHeld none, l)
    | some h =>
      if h.request.sameOwner r then
        if l.reentrant && 1 < h.holds then
          let h := { h with holds := h.holds - 1 }
          (.retained h.holds, l.put r.key { e with holder := some h })
        else
          let (next, l) := l.vacate r.key e
          (.released h.grant next, l)
      else (.notHeld (some h.request.owner), l)

/-- Takes a key away from a grant, if the grant still holds it. -/
def revoke (l : LooseTable) (key : String) (grant : Nat) : Option Revoked × LooseTable :=
  match l.entries.get? key with
  | none => (none, l)
  | some e =>
    match e.holder with
    | none => (none, l)
    | some h =>
      if h.grant = grant then
        let (next, l) := l.vacate key e
        (some ⟨h.request.owner, next⟩, l)
      else (none, l)

/-- Gives back the one hold that a grant was handed with. -/
def giveBack (l : LooseTable) (key : String) (grant : Nat) : GiveBack × LooseTable :=
  match l.entries.get? key with
  | none => (.late, l)
  | some e =>
    match e.holder with
    | none => (.late, l)
    | some h =>
      if h.grant = grant then
        if 1 < h.holds then
          let h := { h with holds := h.holds - 1 }
          (.kept h.holds, l.put key { e with holder := some h })
        else
          let (next, l) := l.vacate key e
          (.returned grant next, l)
      else (.late, l)

/-! ## Waiting and leaving -/

/-- Forgets the call of a ticket. -/
def forget (l : LooseTable) (ticket : Nat) : LooseTable :=
  { l with calls := l.calls.filter fun c => c.ticket != ticket }

/-- Cleans up after a call that is dropped before it fetched its grant: its place in the queue
is taken out, or, if it has none any more, the grant that was handed to it is given back. -/
def abandon (l : LooseTable) (c : Call) : Departure × LooseTable :=
  let e := l.entry c.request.key
  if e.waiters.any fun w => w.ticket == c.ticket then
    -- Of a ticket that stood there twice only the first place would be taken out.
    let waiters := e.waiters.eraseP fun w => w.ticket == c.ticket
    (.left, l.put c.request.key { e with waiters })
  else
    match c.permit with
    | none => (.left, l)
    | some g =>
      let (b, l) := l.giveBack c.request.key g.id
      (.gaveBack b, l)

/-- A call looks for its grant. -/
def poll (l : LooseTable) (ticket : Nat) : Progress × LooseTable :=
  match l.call? ticket with
  | none => (.unknown, l)
  | some c =>
    match c.permit with
    | some g => (.granted g, l.forget ticket)
    | none =>
      if c.token ∈ l.cancelled then (.cancelled c.request.key, (l.abandon c).2.forget ticket)
      else (.pending, l)

/-- A caller departs before it fetched its grant. -/
def depart (l : LooseTable) (ticket : Nat) : Departure × LooseTable :=
  match l.call? ticket with
  | none => (.unknown, l)
  | some c =>
    let (d, l) := l.abandon c
    (d, l.forget ticket)

/-- Puts a request at the end of the queue under the entry of its key, with a new ticket. -/
def enqueue (l : LooseTable) (token : String) (r : Request) : LooseTable :=
  let ticket := l.nextTicket
  let e := l.entry r.key
  { l.put r.key { e with waiters := e.waiters ++ [⟨ticket, r⟩] } with
    nextTicket := ticket + 1
    calls := l.calls ++ [⟨ticket, token, r, none⟩] }

/-- Takes a key, or waits for it and looks for the grant at once. -/
def acquire (l : LooseTable) (token : String) (r : Request) : Acquisition × LooseTable :=
  match l.letIn r.key (l.entry r.key) r with
  | (.granted g, l) => (.granted g, l)
  | (.reentered g, l) => (.reentered g, l)
  | (.busy _, l) =>
    let ticket := l.nextTicket
    match (l.enqueue token r).poll ticket with
    | (.granted g, l) => (.granted g, l)
    | (.cancelled key, l) => (.cancelled key, l)
    | (.pending, l) => (.waiting ticket, l)
    | (.unknown, l) => (.waiting ticket, l)

/-! ## Events -/

/-- Calls off every call with a token. -/
def cancel (l : LooseTable) (token : String) : LooseTable :=
  if token ∈ l.cancelled then l else { l with cancelled := token :: l.cancelled }

/-- The reaper looks after the first record that is due. -/
def reap (l : LooseTable) : Reaped × LooseTable :=
  if l.reaper = .running then
    match l.delays.popDue l.now with
    | none => (.idle, l)
    | some (record, delays) =>
      match { l with delays }.revoke record.key record.grant with
      | (none, l) => (.stale record, l)
      | (some r, l) => (.revoked record r, l)
  else (.idle, l)

/-- The reaper stops. -/
def stopReaper (l : LooseTable) : LooseTable :=
  if l.reaper = .running then { l with reaper := .stopped } else l

/-- One event. -/
def step (l : LooseTable) : Event → Outcome × LooseTable
  | .tryAcquire r => (l.tryAcquire r).map .admission id
  | .acquire token r => (l.acquire token r).map .acquisition id
  | .poll ticket => (l.poll ticket).map .progress id
  | .depart ticket => (l.depart ticket).map .departure id
  | .cancel token => (.done, l.cancel token)
  | .release r => (l.release r).map .release id
  | .revoke key grant => (l.revoke key grant).map .revocation id
  | .reap => l.reap.map .reaped id
  | .tick ns => (.done, { l with now := l.now + ns })
  | .stopReaper => (.done, l.stopReaper)

/-- The events of a run, one after the other. -/
def run (l : LooseTable) : List Event → LooseTable
  | [] => l
  | e :: rest => run (l.step e).2 rest

/-- What the events of a run come to, one after the other. -/
def outcomes (l : LooseTable) : List Event → List Outcome
  | [] => []
  | e :: rest => (l.step e).1 :: outcomes (l.step e).2 rest

/-- A loose table of any kind before anything happened. -/
def opening (kind : LockKind) (leased : Bool) (reaper : Reaper) (horizon : Horizon) : LooseTable :=
  { kind, leased, reaper, horizon }

end LooseTable

/-! ## A table as a loose one -/

/-- A slot is an entry with a holder. -/
def Slot.toEntry (s : Slot) : Entry := ⟨some s.holder, s.waiters⟩

/-- A table, with its keys kept under entries. -/
def Table.loose (t : Table) : LooseTable :=
  { kind := t.kind, leased := t.leased, reaper := t.reaper, horizon := t.horizon, now := t.now
    entries := t.slots.map Slot.toEntry
    lastGrant := t.lastGrant, nextTicket := t.nextTicket, delays := t.delays
    calls := t.calls, cancelled := t.cancelled }

namespace Table

variable {t : Table} {key : String} {s : Slot}

theorem entry_loose_of_slot (held : t.slots.get? key = some s) : t.loose.entry key = s.toEntry := by
  simp [LooseTable.entry, loose, held]

theorem entry_loose_of_no_slot (free : t.slots.get? key = none) : t.loose.entry key = {} := by
  simp [LooseTable.entry, loose, free]

theorem get?_loose (t : Table) (key : String) :
    t.loose.entries.get? key = (t.slots.get? key).map Slot.toEntry :=
  KeyMap.get?_map _ _ _

end Table

end KeyedLocks
