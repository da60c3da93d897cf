/-
A table in another guise.

Two questions about a table come down to one. Does it matter what a request carries besides
its key and its owner? And does it matter that somebody stood in a queue who never got to the
front? Both ask whether a table that is told less does the same. A guise says what is told: a
request may be shown as another one with the same key and owner, and one call may be hidden, so
that all tickets behind it move up by one.

What operations are made of looks the same in a guise (`install_table`, `handOn_table`,
`leave_table`, `enqueue_table`). Two things are asked for. The requests that are shown ask for
the same leases (`Guise.Fits`); and whoever is first when a key is passed on is not hidden, which is
so if no grant is laid ready for the hidden call (`first_shown`).
-/
import KeyedLocks.Table.Deed
import KeyedLocks.Proofs.Table.Places

set_option autoImplicit false

namespace KeyedLocks

/-- How a table is shown: each request as another one with the same key and owner, and all
calls but one. -/
structure Guise where
  request : Request → Request
  identity : Int32 → Int32
  hidden : Option Nat
  key_request : ∀ r, (request r).key = r.key
  owner_request : ∀ r, (request r).owner = r.owner
  identity_request : ∀ r, (request r).identity = identity r.identity

namespace Guise

variable (g : Guise)

/-! ## What is shown -/

/-- Whether the call of a ticket is shown. -/
def shows (n : Nat) : Bool := g.hidden != some n

/-- A ticket as it would be if the hidden call had drawn none. -/
def number (n : Nat) : Nat :=
  match g.hidden with
  | some k => if k < n then n - 1 else n
  | none => n

/-- What is shown of a list of those who have tickets. -/
def pick {α : Type} (ticket : α → Nat) (f : α → α) (l : List α) : List α :=
  (l.filter fun a => g.shows (ticket a)).map f

def waiter (w : Waiter) : Waiter := ⟨g.number w.ticket, g.request w.request⟩

def waiters (ws : List Waiter) : List Waiter := g.pick Waiter.ticket g.waiter ws

def call (c : Call) : Call := { c with ticket := g.number c.ticket, request := g.request c.request }

def calls (cs : List Call) : List Call := g.pick Call.ticket g.call cs

def holder (h : Holder) : Holder := { h with request := g.request h.request }

def slot (s : Slot) : Slot := ⟨g.holder s.holder, g.waiters s.waiters⟩

/-- **A table in a guise.** Grants, holds, deadlines and records are shown as they are. -/
def table (t : Table) : Table :=
  { t with
    slots := t.slots.map g.slot
    nextTicket := g.number t.nextTicket
    calls := g.calls t.calls }

/-! ### Deeds and replies -/

def event : Event → Event
  | .tryAcquire r => .tryAcquire (g.request r)
  | .acquire token r => .acquire token (g.request r)
  | .poll ticket => .poll (g.number ticket)
  | .depart ticket => .depart (g.number ticket)
  | .release r => .release (g.request r)
  | .cancel token => .cancel token
  | .revoke key grant => .revoke key grant
  | .reap => .reap
  | .tick ns => .tick ns
  | .stopReaper => .stopReaper

def deed : Deed → Deed
  | .event e => .event (g.event e)
  | .tryLock r => .tryLock (g.request r)
  | .lock token r => .lock token (g.request r)
  | .unlock r => .unlock (g.request r)
  | .pollLock ticket => .pollLock (g.number ticket)
  | .settle => .settle
  | .advance ms => .advance ms

def acquisition : Acquisition → Acquisition
  | .waiting ticket => .waiting (g.number ticket)
  | a => a

def outcome : Outcome → Outcome
  | .acquisition a => .acquisition (g.acquisition a)
  | o => o

def response (r : Response) : Response := { r with identity := g.identity r.identity }

def progress : LockProgress → LockProgress
  | .answered r => .answered (g.response r)
  | .waiting ticket => .waiting (g.number ticket)
  | p => p

def reply : Reply → Reply
  | .outcome o => .outcome (g.outcome o)
  | .response r => .response (g.response r)
  | .progress p => .progress (g.progress p)
  | .done => .done

variable {g}

/-! ## Tickets that move up -/

theorem ne_of_shown {k n : Nat} (hidden : g.hidden = some k) (shown : g.shows n = true) :
    n ≠ k := by
  rintro rfl
  rw [shows, hidden, bne_self_eq_false] at shown
  cases shown

/-- Moving up keeps the order of those who are shown, though not of all numbers: the hidden ticket
and the next one come to the same. -/
theorem number_lt {m n : Nat} (shown : g.shows m = true) (lt : m < n) :
    g.number m < g.number n := by
  unfold number
  cases hidden : g.hidden with
  | none => exact lt
  | some k =>
    have other := ne_of_shown hidden shown
    dsimp only
    split <;> split <;> omega

/-- Two who are shown keep different numbers. This is the test by which a call is looked up. -/
theorem number_beq {m n : Nat} (hm : g.shows m = true) (hn : g.shows n = true) :
    (g.number m == g.number n) = (m == n) := by
  rcases Nat.lt_trichotomy m n with lt | rfl | gt
  · have lt' := number_lt hm lt
    rw [beq_eq_false_iff_ne.2 (Nat.ne_of_lt lt), beq_eq_false_iff_ne.2 (Nat.ne_of_lt lt')]
  · rw [beq_self_eq_true, beq_self_eq_true]
  · have gt' := number_lt hn gt
    rw [beq_eq_false_iff_ne.2 (Nat.ne_of_gt gt), beq_eq_false_iff_ne.2 (Nat.ne_of_gt gt')]

theorem number_inj {m n : Nat} (hm : g.shows m = true) (hn : g.shows n = true) :
    g.number m = g.number n ↔ m = n := by
  rw [← beq_iff_eq, number_beq hm hn, beq_iff_eq]

/-- Behind a ticket that is shown the next number is one more, as it was. -/
theorem number_succ {n : Nat} (shown : g.shows n = true) : g.number (n + 1) = g.number n + 1 := by
  unfold number
  cases hidden : g.hidden with
  | none => rfl
  | some k =>
    have other := ne_of_shown hidden shown
    dsimp only
    split <;> split <;> omega

/-- Behind the hidden ticket the next number is the same again: this is where all others move up. -/
theorem number_succ_of_hidden {n : Nat} (hidden : g.shows n = false) :
    g.number (n + 1) = g.number n := by
  have here : g.hidden = some n := by simpa [shows] using hidden
  simp [number, here]

/-! ## Those who are shown -/

section Picking

variable {α : Type} {ticket : α → Nat} {f : α → α}

theorem pick_cons_of_shown {a : α} (shown : g.shows (ticket a) = true) (l : List α) :
    g.pick ticket f (a :: l) = f a :: g.pick ticket f l := by
  simp only [pick, List.filter_cons, shown, if_true, List.map_cons]

theorem pick_append (g : Guise) (ticket : α → Nat) (f : α → α) (l l' : List α) :
    g.pick ticket f (l ++ l') = g.pick ticket f l ++ g.pick ticket f l' := by
  rw [pick, List.filter_append, List.map_append]
  rfl

theorem pick_singleton_of_hidden {a : α} (hidden : g.shows (ticket a) = false) :
    g.pick ticket f [a] = [] := by
  simp [pick, hidden]

/-- Without the one who is hidden nothing else is shown. -/
theorem pick_filter_of_hidden {n : Nat} (hidden : g.shows n = false) (l : List α) :
    g.pick ticket f (l.filter fun a => ticket a != n) = g.pick ticket f l := by
  rw [pick, pick, List.filter_filter]
  refine congrArg _ (List.filter_congr fun a _ => ?_)
  by_cases mine : ticket a = n
  · rw [mine, hidden]
    rfl
  · simp [mine]

variable (moved : ∀ a, ticket (f a) = g.number (ticket a)) {n : Nat} (shown : g.shows n = true)
include moved shown

/-- Taking a ticket out before or after makes no difference. -/
theorem filter_pick (l : List α) :
    (g.pick ticket f l).filter (fun a => ticket a != g.number n)
      = g.pick ticket f (l.filter fun a => ticket a != n) := by
  rw [pick, pick, List.filter_map, List.filter_filter, List.filter_filter]
  refine congrArg _ (List.filter_congr fun a _ => ?_)
  rw [Function.comp_apply, moved, Bool.and_comm]
  cases there : g.shows (ticket a) with
  | false => rfl
  | true => rw [bne, number_beq there shown, bne]

/-- Looking a ticket up comes to the same in a guise, if its call is shown. -/
theorem find?_pick (l : List α) :
    (g.pick ticket f l).find? (fun a => ticket a == g.number n)
      = (l.find? fun a => ticket a == n).map f := by
  rw [pick, List.find?_map, List.find?_filter]
  refine congrArg _ (congrArg (fun p => l.find? p) (funext fun a => ?_))
  rw [Function.comp_apply, moved]
  -- The hidden one is passed over on the one side and has another ticket on the other.
  cases there : g.shows (ticket a) with
  | true => simp only [true_and, Bool.decide_eq_true, number_beq there shown]
  | false =>
    have other : ticket a ≠ n := by
      rintro rfl
      rw [there] at shown
      cases shown
    simp [other]

end Picking

theorem ticket_waiter (w : Waiter) : (g.waiter w).ticket = g.number w.ticket := rfl

theorem ticket_call (c : Call) : (g.call c).ticket = g.number c.ticket := rfl

/-- A call stays with its key. -/
theorem key_call (c : Call) : (g.call c).request.key = c.request.key := g.key_request _

/-! ## Looking at a table in a guise -/

section Views

variable (g) (t : Table)

@[simp] theorem get?_table (key : String) :
    (g.table t).slots.get? key = (t.slots.get? key).map g.slot := KeyMap.get?_map _ _ _

@[simp] theorem holder?_table (key : String) :
    (g.table t).holder? key = (t.holder? key).map g.holder := by
  rw [Table.holder?, Table.holder?, get?_table]
  cases t.slots.get? key <;> rfl

@[simp] theorem queue_table (key : String) :
    (g.table t).queue key = g.waiters (t.queue key) := by
  rw [Table.queue, Table.queue, get?_table]
  cases t.slots.get? key <;> rfl

@[simp] theorem grant?_table (key : String) : (g.table t).grant? key = t.grant? key := by
  rw [Table.grant?, Table.grant?, holder?_table, Option.map_map]
  rfl

variable {g} {t} in
theorem slot_table {key : String} {s : Slot} (held : t.slots.get? key = some s) :
    (g.table t).slots.get? key = some (g.slot s) := by
  rw [get?_table, held]
  rfl

variable {g} {t} in
/-- The slot that a request asks for. -/
theorem slot_asked {r : Request} {s : Slot} (held : t.slots.get? r.key = some s) :
    (g.table t).slots.get? (g.request r).key = some (g.slot s) := by
  rw [g.key_request]
  exact slot_table held

variable {g} {t} in
/-- A key that is free is free for the request that is shown in place of another, since both name
it. -/
theorem no_slot_asked {r : Request} (free : t.slots.get? r.key = none) :
    (g.table t).slots.get? (g.request r).key = none := by
  rw [g.key_request, get?_table, free]
  rfl

/-- The list of all calls that wait moves up as a whole. -/
theorem waitList_table : (g.table t).waitList = g.waiters t.waitList := by
  change ((g.calls t.calls).filter fun c => c.permit.isNone).map Call.toWaiter
    = g.waiters ((t.calls.filter fun c => c.permit.isNone).map Call.toWaiter)
  simp only [calls, waiters, pick, List.filter_map, List.filter_filter, List.map_map]
  refine congrArg₂ List.map rfl (List.filter_congr fun c _ => ?_)
  exact Bool.and_comm _ _

variable {g} {t}

/-- A call is found under its new ticket. -/
theorem call?_table {n : Nat} (shown : g.shows n = true) :
    (g.table t).call? (g.number n) = (t.call? n).map g.call :=
  find?_pick ticket_call shown t.calls

/-- A table in a guise keeps its queues as any other. -/
theorem queued_table (q : t.Queued) : (g.table t).Queued where
  queue_eq key := by
    rw [queue_table, waitList_table, q.queue_eq]
    simp only [waiters, pick, List.filter_map, List.filter_filter]
    refine congrArg _ (List.filter_congr fun w _ => ?_)
    rw [Function.comp_apply, waiter, g.key_request, Bool.and_comm]
  ascending := by
    refine List.pairwise_map.2 ((q.ascending.filter _).imp_of_mem ?_)
    intro a b ha _ lt
    exact number_lt (List.mem_filter.1 ha).2 lt
  ticket_lt c hc := by
    obtain ⟨d, hd, rfl⟩ := List.mem_map.1 hc
    obtain ⟨hd, shown⟩ := List.mem_filter.1 hd
    exact number_lt shown (q.ticket_lt d hd)

end Views

/-! ## The parts of an operation -/

/-- Whether the requests that are shown ask for the same leases, if leases count. -/
def Fits (g : Guise) (t : Table) : Prop := t.leased = true → ∀ r, (g.request r).lease = r.lease

/-- No grant lies ready for the call that is hidden. -/
def Calm (g : Guise) (t : Table) : Prop := ∀ n, g.shows n = false → t.served n = false

section Parts

variable {t : Table} {key : String}

/-- Two requests have one owner exactly if the two that are shown have. -/
@[simp] theorem sameOwner_request (a b : Request) :
    (g.request a).sameOwner (g.request b) = a.sameOwner b := by
  rw [Request.sameOwner, Request.sameOwner, g.owner_request, g.owner_request]

/-- Whether the holder of a slot may take the key again. -/
theorem again_table (g : Guise) (t : Table) (s : Slot) (r : Request) :
    ((g.table t).reentrant && (g.slot s).holder.request.sameOwner (g.request r))
      = (t.reentrant && s.holder.request.sameOwner r) :=
  congrArg (t.reentrant && ·) (sameOwner_request _ _)

/-- What a holder is told of his grant says nothing that a guise would alter. -/
theorem toGrant_holder (h : Holder) : (g.holder h).toGrant = h.toGrant := by
  rw [Holder.toGrant, Holder.toGrant, holder, g.owner_request]

/-- A grant that is made for a request that is shown ends when the other one would have: this is
what `Fits` is for, and the only place where a duration could come in. -/
theorem newHolder_table (fits : g.Fits t) (r : Request) :
    (g.table t).newHolder (g.request r) = g.holder (t.newHolder r) := by
  have expiry : (g.table t).expiry (g.request r) = t.expiry r := by
    unfold Table.expiry
    by_cases leased : t.leased = true
    · rw [if_pos leased, fits leased]
      exact if_pos leased
    · rw [if_neg leased]
      exact if_neg leased
  rw [Table.newHolder, expiry]
  rfl

/-- A slot can be written before the table is shown or after. -/
theorem insert_table (g : Guise) (t : Table) (key : String) (s : Slot) :
    { g.table t with slots := (g.table t).slots.insert key (g.slot s) }
      = g.table { t with slots := t.slots.insert key s } := by
  simp only [table, KeyMap.map_insert]

/-- A grant is made alike in the guise: same number, same deadline, same record. -/
theorem install_table (fits : g.Fits t) (key : String) (r : Request) (ws : List Waiter) :
    (g.table t).install key (g.request r) (g.waiters ws)
      = ((t.install key r ws).1, g.table (t.install key r ws).2) := by
  have inserted := g.insert_table t key ⟨t.newHolder r, ws⟩
  rw [Table.install, newHolder_table fits, toGrant_holder]
  refine Prod.ext rfl ?_
  exact congrArg (fun u : Table => { u with
    lastGrant := t.lastGrant + 1, delays := t.scheduled key (t.newHolder r) }) inserted

/-- A grant is laid ready for a call that is shown under its new ticket. -/
theorem deliver_table {n : Nat} (shown : g.shows n = true) (t : Table) (p : Grant) :
    (g.table t).deliver (g.number n) p = g.table (t.deliver n p) := by
  have calls : (g.calls t.calls).map (fun c =>
        if c.ticket = g.number n then { c with permit := some p } else c)
      = g.calls (t.calls.map fun c => if c.ticket = n then { c with permit := some p } else c) := by
    -- A call keeps its ticket when a grant is laid ready for it, so the same calls are shown.
    have kept : (t.calls.filter fun c =>
          g.shows (if c.ticket = n then { c with permit := some p } else c).ticket)
        = t.calls.filter fun c => g.shows c.ticket := by
      refine List.filter_congr fun c _ => ?_
      split <;> rfl
    rw [calls, calls, pick, pick, List.filter_map, List.map_map, List.map_map]
    refine Eq.trans ?_ (congrArg _ kept.symm)
    refine List.map_congr_left fun c hc => ?_
    have there : g.shows c.ticket = true := (List.mem_filter.1 hc).2
    rw [Function.comp_apply, Function.comp_apply, ticket_call]
    by_cases mine : c.ticket = n
    · rw [if_pos mine, if_pos (congrArg _ mine)]
      rfl
    · rw [if_neg mine, if_neg (mt (number_inj there shown).1 mine)]
  simp only [Table.deliver, table, calls]

/-- **Passing a key on** passes it on to the same call, as long as that one is not hidden. -/
theorem handOn_table (fits : g.Fits t) (key : String) {ws : List Waiter}
    (first : ∀ w ∈ ws.head?, g.shows w.ticket = true) :
    (g.table t).handOn key (g.waiters ws) = ((t.handOn key ws).1, g.table (t.handOn key ws).2) := by
  cases ws with
  | nil =>
    refine Prod.ext rfl ?_
    simp only [waiters, pick, Table.handOn, table, KeyMap.map_erase, List.filter_nil, List.map_nil]
  | cons w ws =>
    have shown : g.shows w.ticket = true := first w rfl
    have rest : g.waiters (w :: ws) = g.waiter w :: g.waiters ws := pick_cons_of_shown shown ws
    rw [rest, Table.handOn, waiter, install_table fits, Table.handOn]
    exact Prod.ext rfl (deliver_table shown _ _)

/-- Whoever is first when the key is passed on is not hidden, if no grant is laid ready for the
hidden call. -/
theorem first_shown (q : t.Queued) {s : Slot} (held : t.slots.get? key = some s)
    (calm : g.Calm (t.handOn key s.waiters).2) :
    ∀ w ∈ s.waiters.head?, g.shows w.ticket = true := by
  intro w hw
  cases shown : g.shows w.ticket with
  | true => rfl
  | false =>
    have standing : w ∈ t.queue key := by
      rw [Table.queue_of_slot held]
      exact List.mem_of_head? hw
    have gone : (s.waiters.head?.all fun v => w.ticket != v.ticket) = false := by
      rw [Option.mem_def.1 hw]
      simp
    have served : (t.handOn key s.waiters).2.served w.ticket = true :=
      Table.served_handOn (q.mem_queue.1 standing).1 gone
    rw [calm w.ticket shown] at served
    cases served

theorem setHolds_table (g : Guise) (t : Table) (key : String) (s : Slot) (holds : UInt32) :
    (g.table t).setHolds key (g.slot s) holds = g.table (t.setHolds key s holds) :=
  g.insert_table t key { s with holder := { s.holder with holds } }

theorem forget_table {n : Nat} (shown : g.shows n = true) (t : Table) :
    (g.table t).forget (g.number n) = g.table (t.forget n) := by
  have calls : (g.calls t.calls).filter (fun c => c.ticket != g.number n)
      = g.calls (t.calls.filter fun c => c.ticket != n) := filter_pick ticket_call shown t.calls
  simp only [Table.forget, table, calls]

/-- A call that is shown can leave its queue before or after; the hidden one may have stood there as
well. -/
theorem leave_table {n : Nat} (shown : g.shows n = true) (t : Table) (key : String) :
    (g.table t).leave key (g.number n) = g.table (t.leave key n) := by
  rw [Table.leave, Table.leave, get?_table]
  cases t.slots.get? key with
  | none => rfl
  | some s =>
    have waiters : (g.waiters s.waiters).filter (fun w => w.ticket != g.number n)
        = g.waiters (s.waiters.filter fun w => w.ticket != n) :=
      filter_pick ticket_waiter shown s.waiters
    have inserted := g.insert_table t key
      { s with waiters := s.waiters.filter fun w => w.ticket != n }
    rw [slot, ← waiters] at inserted
    exact inserted

/-- A call that comes to stand in a queue draws the number that is shown for its own. -/
theorem enqueue_table {r : Request} {s : Slot} (held : t.slots.get? r.key = some s)
    (shown : g.shows t.nextTicket = true) (token : String) :
    (g.table t).enqueue token (g.request r) = g.table (t.enqueue token r) := by
  have waiters : g.waiters (s.waiters ++ [⟨t.nextTicket, r⟩])
      = g.waiters s.waiters ++ [⟨g.number t.nextTicket, g.request r⟩] := by
    rw [Guise.waiters, pick_append]
    exact congrArg _ (pick_cons_of_shown (a := Waiter.mk t.nextTicket r) shown [])
  have calls : g.calls (t.calls ++ [⟨t.nextTicket, token, r, none⟩])
      = g.calls t.calls ++ [⟨g.number t.nextTicket, token, g.request r, none⟩] := by
    rw [Guise.calls, pick_append]
    exact congrArg _ (pick_cons_of_shown (a := Call.mk t.nextTicket token r none) shown [])
  rw [Table.enqueue, Table.join, g.key_request, get?_table, held, Table.enqueue, Table.join, held]
  simp only [Option.map_some, table, KeyMap.map_insert, slot, waiters, calls, number_succ shown]

end Parts

end Guise

end KeyedLocks
