/-
What an operation changes.

An operation is described here by what can be looked at afterwards: who holds a key
(`holder?`), who waits for it (`queue`), and which calls are still without a grant
(`waitList`). The laws about steps and runs rest on these equations and do not open
an operation again.

Passing a key on has one equation for each view, whether somebody waits or not: the
next holder is made from the head of the queue, if it has one, and the tail is what
is left of it.
-/
import KeyedLocks.Table.Event

set_option autoImplicit false

namespace KeyedLocks

/-- The place in a queue that a call was given. -/
def Call.toWaiter (c : Call) : Waiter := ⟨c.ticket, c.request⟩

/-- Two holders who differ in the number of holds at most. -/
structure Holder.Alike (h h' : Holder) : Prop where
  request : h.request = h'.request
  grant : h.grant = h'.grant
  acquiredAt : h.acquiredAt = h'.acquiredAt
  expiresAt : h.expiresAt = h'.expiresAt

theorem Holder.Alike.refl (h : Holder) : h.Alike h := ⟨rfl, rfl, rfl, rfl⟩

namespace Table

variable (t : Table)

/-- The number of the grant that a key is held under. -/
def grant? (key : String) : Option Nat := (t.holder? key).map Holder.grant

/-- The calls that are still without a grant, in the order in which they came. -/
def waitList : List Waiter := (t.calls.filter fun c => c.permit.isNone).map Call.toWaiter

/-- Takes a call out of its queue and forgets it. -/
def withdraw (c : Call) : Table := (t.leave c.request.key c.ticket).forget c.ticket

/-! ## Slots -/

section Slots

variable {t} {key : String} {s : Slot} {h : Holder}

theorem holder?_of_slot (held : t.slots.get? key = some s) : t.holder? key = some s.holder := by
  rw [holder?, held]
  rfl

theorem queue_of_slot (held : t.slots.get? key = some s) : t.queue key = s.waiters := by
  rw [queue, held]

theorem holder?_of_no_slot (free : t.slots.get? key = none) : t.holder? key = none := by
  rw [holder?, free]
  rfl

theorem queue_of_no_slot (free : t.slots.get? key = none) : t.queue key = [] := by
  rw [queue, free]

/-- A slot is its holder and its queue. -/
theorem slot_of_holder (held : t.holder? key = some h) :
    t.slots.get? key = some ⟨h, t.queue key⟩ := by
  cases found : t.slots.get? key with
  | none => rw [holder?_of_no_slot found] at held; cases held
  | some s =>
    rw [holder?_of_slot found] at held
    rw [queue_of_slot found, ← Option.some.inj held]

theorem grant?_of_holder (held : t.holder? key = some h) : t.grant? key = some h.grant := by
  rw [grant?, held]
  rfl

theorem exists_holder_of_grant {g : Nat} (held : t.grant? key = some g) :
    ∃ h, t.holder? key = some h ∧ h.grant = g := by
  rw [grant?, Option.map_eq_some_iff] at held
  exact held

end Slots

/-! ## Making a holder -/

@[simp] theorem lastGrant_install (key : String) (r : Request) (ws : List Waiter) :
    (t.install key r ws).2.lastGrant = t.lastGrant + 1 := rfl

theorem holder?_install (key k : String) (r : Request) (ws : List Waiter) :
    (t.install key r ws).2.holder? k
      = if k = key then some (t.newHolder r) else t.holder? k := by
  simp only [holder?, install, KeyMap.get?_insert]
  split <;> rfl

/-- The queues after a grant was made: what is left of the queue is handed in by whoever makes it.
-/
theorem queue_install (key k : String) (r : Request) (ws : List Waiter) :
    (t.install key r ws).2.queue k = if k = key then ws else t.queue k := by
  simp only [queue, install, KeyMap.get?_insert]
  by_cases same : k = key
  · simp [same]
  · simp [same]

/-- A record is made for a holder with a deadline, and no record is lost. -/
theorem mem_records_install {key : String} {r : Request} {ws : List Waiter}
    {record : DelayRecord} (member : record ∈ (t.install key r ws).2.delays.records) :
    record ∈ t.delays.records
      ∨ (record.key = key ∧ record.grant = t.lastGrant + 1
        ∧ t.expiry r = some record.deadline) := by
  change record ∈ (t.scheduled key (t.newHolder r)).records at member
  cases due : t.expiry r with
  | none =>
    rw [scheduled, show (t.newHolder r).expiresAt = none from due] at member
    exact .inl member
  | some at_ =>
    rw [scheduled, show (t.newHolder r).expiresAt = some at_ from due] at member
    rcases DelayQueue.mem_records_push.1 member with rfl | older
    · exact .inr ⟨rfl, rfl, rfl⟩
    · exact .inl older

/-! ## Passing a key on -/

theorem handOn_cons (key : String) (w : Waiter) (ws : List Waiter) :
    t.handOn key (w :: ws) = (some (t.newHolder w.request).toGrant,
      (t.install key w.request ws).2.deliver w.ticket (t.newHolder w.request).toGrant) := rfl

/-- What passing a key on answers is the grant of the next holder. -/
theorem handOn_fst (key : String) (ws : List Waiter) :
    (t.handOn key ws).1 = ws.head?.map fun w => (t.newHolder w.request).toGrant := by
  cases ws <;> rfl

/-- The next holder is the first in the queue, if there is one. -/
theorem holder?_handOn (key k : String) (ws : List Waiter) :
    (t.handOn key ws).2.holder? k
      = if k = key then ws.head?.map fun w => t.newHolder w.request else t.holder? k := by
  cases ws with
  | nil =>
    simp only [handOn, holder?, KeyMap.get?_erase]
    split <;> rfl
  | cons w ws => exact t.holder?_install key k w.request ws

/-- The others go on waiting. -/
theorem queue_handOn (key k : String) (ws : List Waiter) :
    (t.handOn key ws).2.queue k = if k = key then ws.tail else t.queue k := by
  cases ws with
  | nil =>
    simp only [handOn, queue, KeyMap.get?_erase]
    by_cases same : k = key
    · simp [same]
    · simp [same]
  | cons w ws => exact t.queue_install key k w.request ws

/-! ## Counting holds -/

theorem holder?_setHolds (key k : String) (s : Slot) (holds : UInt32) :
    (t.setHolds key s holds).holder? k
      = if k = key then some { s.holder with holds } else t.holder? k := by
  simp only [holder?, setHolds, KeyMap.get?_insert]
  split <;> rfl

theorem queue_setHolds {key : String} {s : Slot} (held : t.slots.get? key = some s)
    (k : String) (holds : UInt32) : (t.setHolds key s holds).queue k = t.queue k := by
  simp only [queue, setHolds, KeyMap.get?_insert]
  by_cases same : k = key
  · simp [same, held]
  · simp [same]

/-! ## Queueing and leaving -/

/-- Joining a queue changes the queues, the calls and the next ticket. -/
theorem enqueue_eq (token : String) (r : Request) :
    ∃ slots, t.enqueue token r
      = { t with
          slots
          nextTicket := t.nextTicket + 1
          calls := t.calls ++ [⟨t.nextTicket, token, r, none⟩] } := by
  unfold enqueue join
  cases t.slots.get? r.key <;> exact ⟨_, rfl⟩

/-- Leaving a queue changes the queues and the calls. -/
theorem withdraw_eq (c : Call) :
    ∃ slots, t.withdraw c
      = { t with slots, calls := t.calls.filter fun d => d.ticket != c.ticket } := by
  unfold withdraw leave
  split <;> exact ⟨_, rfl⟩

@[simp] theorem calls_enqueue (token : String) (r : Request) :
    (t.enqueue token r).calls = t.calls ++ [⟨t.nextTicket, token, r, none⟩] := by
  obtain ⟨slots, eq⟩ := t.enqueue_eq token r
  rw [eq]

@[simp] theorem calls_withdraw (c : Call) :
    (t.withdraw c).calls = t.calls.filter fun d => d.ticket != c.ticket := by
  obtain ⟨slots, eq⟩ := t.withdraw_eq c
  rw [eq]

/-- Whoever comes to wait takes no key from its holder. -/
theorem holder?_enqueue (token : String) (r : Request) (k : String) :
    (t.enqueue token r).holder? k = t.holder? k := by
  unfold enqueue join
  cases held : t.slots.get? r.key with
  | none => rfl
  | some s =>
    simp only [holder?, KeyMap.get?_insert]
    by_cases same : k = r.key
    · simp [same, held]
    · simp [same]

theorem queue_enqueue {r : Request} {s : Slot} (held : t.slots.get? r.key = some s)
    (token k : String) :
    (t.enqueue token r).queue k
      = t.queue k ++ if k = r.key then [⟨t.nextTicket, r⟩] else [] := by
  simp only [enqueue, join, held, queue, KeyMap.get?_insert]
  by_cases same : k = r.key
  · simp [same, held]
  · simp [same]

/-- Whoever leaves takes no key from its holder. -/
theorem holder?_withdraw (c : Call) (k : String) : (t.withdraw c).holder? k = t.holder? k := by
  -- Forgetting a call touches no slot, so only leaving the queue matters.
  change (t.leave c.request.key c.ticket).holder? k = t.holder? k
  unfold leave
  cases held : t.slots.get? c.request.key with
  | none => rfl
  | some s =>
    simp only [holder?, KeyMap.get?_insert]
    by_cases same : k = c.request.key
    · simp [same, held]
    · simp [same]

theorem queue_withdraw (c : Call) (k : String) :
    (t.withdraw c).queue k
      = if k = c.request.key then (t.queue k).filter fun w => w.ticket != c.ticket
        else t.queue k := by
  change (t.leave c.request.key c.ticket).queue k = _
  unfold leave
  by_cases same : k = c.request.key
  · subst same
    cases held : t.slots.get? c.request.key with
    | none => simp [queue, held]
    | some s => simp [queue, held]
  · cases held : t.slots.get? c.request.key with
    | none => simp [same]
    | some s => simp [queue, same, KeyMap.get?_insert]

/-! ## Calls without a grant -/

/-- A call that a grant is laid ready for does not wait any more. -/
theorem waitList_deliver (ticket : Nat) (g : Grant) :
    (t.deliver ticket g).waitList = t.waitList.filter fun w => w.ticket != ticket := by
  -- A call that gets its grant is the one that the filter takes out.
  simp only [waitList, deliver]
  induction t.calls with
  | nil => rfl
  | cons c cs ih =>
    by_cases mine : c.ticket = ticket <;> by_cases bare : c.permit = none <;>
      simp_all [Call.toWaiter]

theorem waitList_forget (ticket : Nat) :
    (t.forget ticket).waitList = t.waitList.filter fun w => w.ticket != ticket := by
  simp only [waitList, forget, List.filter_map, List.filter_filter]
  refine congrArg _ (List.filter_congr fun c _ => ?_)
  simp [Call.toWaiter, Bool.and_comm]

theorem waitList_withdraw (c : Call) :
    (t.withdraw c).waitList = t.waitList.filter fun w => w.ticket != c.ticket := by
  obtain ⟨slots, eq⟩ := t.withdraw_eq c
  rw [eq, ← waitList_forget]
  rfl

/-- A call that blocks waits, and it is the last to do so. -/
theorem waitList_enqueue (token : String) (r : Request) :
    (t.enqueue token r).waitList = t.waitList ++ [⟨t.nextTicket, r⟩] := by
  rw [waitList, calls_enqueue]
  simp [waitList, Call.toWaiter]

/-- When a key is passed on the first in its queue waits no more. If nobody stands there, all who
wait go on waiting for other keys. -/
theorem waitList_handOn (key : String) (ws : List Waiter) :
    (t.handOn key ws).2.waitList
      = t.waitList.filter fun w => ws.head?.all fun first => w.ticket != first.ticket := by
  cases ws with
  | nil => exact (List.filter_eq_self.2 fun w _ => rfl).symm
  | cons w ws =>
    rw [handOn_cons, waitList_deliver]
    rfl

end Table

end KeyedLocks
