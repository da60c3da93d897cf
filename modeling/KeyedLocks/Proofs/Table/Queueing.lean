/-
Queues and the calls that stand in them.

A table keeps two accounts of who waits: the queue in the slot of a key, and the
list of all calls. `Queued` says that they agree. The queue of a key is the list of
the calls for that key that are still without a grant, in the order in which they
came (`queue_eq`); so a call stands in one queue or has its grant, and a queue holds
nobody else. What keeps this up is that tickets are drawn in ascending order
(`ascending`, `ticket_lt`): taking a ticket out takes out one call.
-/
import KeyedLocks.Proofs.Table.Views
import Mathlib.Data.List.Nodup

set_option autoImplicit false

namespace KeyedLocks

namespace Table

/-- The queues are the calls without a grant, key by key. -/
structure Queued (t : Table) : Prop where
  queue_eq : ∀ key, t.queue key = t.waitList.filter fun w => w.request.key = key
  ascending : t.calls.Pairwise fun a b => a.ticket < b.ticket
  ticket_lt : ∀ c ∈ t.calls, c.ticket < t.nextTicket

theorem mem_waitList {t : Table} {w : Waiter} :
    w ∈ t.waitList ↔ ∃ c ∈ t.calls, c.permit = none ∧ c.toWaiter = w := by
  simp [waitList, and_assoc]

namespace Queued

variable {t : Table}

/-! ## What follows for one call -/

/-- A ticket belongs to one call. -/
theorem call_unique (q : t.Queued) {c d : Call} (hc : c ∈ t.calls) (hd : d ∈ t.calls)
    (same : c.ticket = d.ticket) : c = d := by
  have distinct : (t.calls.map Call.ticket).Nodup := by
    rw [List.Nodup, List.pairwise_map]
    exact q.ascending.imp fun h => Nat.ne_of_lt h
  exact List.inj_on_of_nodup_map distinct hc hd same

/-- **Looking a call up** finds the one call with that ticket. -/
theorem call?_eq_some_iff (q : t.Queued) {ticket : Nat} {c : Call} :
    t.call? ticket = some c ↔ c ∈ t.calls ∧ c.ticket = ticket := by
  constructor
  · intro found
    have mine : c.ticket = ticket := by simpa using List.find?_some found
    exact ⟨List.mem_of_find?_eq_some found, mine⟩
  · rintro ⟨hc, rfl⟩
    cases found : t.call? c.ticket with
    | none =>
      rw [call?, List.find?_eq_none] at found
      exact absurd (found c hc) (by simp)
    | some d =>
      have mine : d.ticket = c.ticket := by simpa using List.find?_some found
      rw [q.call_unique (List.mem_of_find?_eq_some found) hc mine]

theorem waitList_ascending (q : t.Queued) :
    t.waitList.Pairwise fun a b => a.ticket < b.ticket := by
  rw [waitList, List.pairwise_map]
  exact q.ascending.sublist List.filter_sublist

/-- Nobody who waits for another key has the ticket of a call. -/
theorem ticket_ne_of_key_ne (q : t.Queued) {c : Call} (hc : c ∈ t.calls) {w : Waiter}
    (hw : w ∈ t.waitList) (other : w.request.key ≠ c.request.key) : w.ticket ≠ c.ticket := by
  obtain ⟨d, hd, -, rfl⟩ := mem_waitList.1 hw
  intro same
  rw [q.call_unique hd hc same] at other
  exact other rfl

/-- A call that has its grant is not met in the wait list. -/
theorem ticket_ne_of_permit (q : t.Queued) {c : Call} (hc : c ∈ t.calls) {g : Grant}
    (ready : c.permit = some g) {w : Waiter} (hw : w ∈ t.waitList) : w.ticket ≠ c.ticket := by
  obtain ⟨d, hd, bare, rfl⟩ := mem_waitList.1 hw
  intro same
  rw [q.call_unique hd hc same, ready] at bare
  cases bare

theorem mem_queue (q : t.Queued) {key : String} {w : Waiter} :
    w ∈ t.queue key ↔ w ∈ t.waitList ∧ w.request.key = key := by
  rw [q.queue_eq]
  simp

/-- Whoever stands in a queue is a call for that key, without a grant. -/
theorem exists_call_of_mem (q : t.Queued) {key : String} {w : Waiter}
    (hw : w ∈ t.queue key) :
    ∃ c ∈ t.calls, c.permit = none ∧ c.toWaiter = w ∧ c.request.key = key := by
  obtain ⟨hw, mine⟩ := q.mem_queue.1 hw
  obtain ⟨c, hc, bare, rfl⟩ := mem_waitList.1 hw
  exact ⟨c, hc, bare, rfl, mine⟩

/-! ## Taking a ticket out of every queue -/

/-- Picking some out of the wait list picks them out of every queue. -/
theorem filter_waitList (q : t.Queued) (p : Waiter → Bool) (key : String) :
    (t.waitList.filter p).filter (fun w => w.request.key = key) = (t.queue key).filter p := by
  rw [q.queue_eq, List.filter_filter, List.filter_filter]
  refine List.filter_congr fun w _ => ?_
  rw [Bool.and_comm]

/-- Taking the first ticket out of a queue leaves the rest. -/
theorem filter_head (q : t.Queued) {key : String} {w : Waiter} {ws : List Waiter}
    (first : t.queue key = w :: ws) :
    (t.queue key).filter (fun v => v.ticket != w.ticket) = ws := by
  -- Tickets ascend along a queue, so the first one is not met again.
  have order : (w :: ws).Pairwise fun a b => a.ticket < b.ticket := by
    rw [← first, q.queue_eq]
    exact q.waitList_ascending.sublist List.filter_sublist
  rw [List.pairwise_cons] at order
  rw [first, List.filter_cons_of_neg (by simp), List.filter_eq_self]
  intro v hv
  have later := order.1 v hv
  simp only [bne_iff_ne, ne_eq]
  omega

/-- A ticket is not found in the queue of another key. -/
theorem filter_other (q : t.Queued) {c : Call} (hc : c ∈ t.calls) {key : String}
    (other : c.request.key ≠ key) :
    (t.queue key).filter (fun v => v.ticket != c.ticket) = t.queue key := by
  rw [List.filter_eq_self]
  intro v hv
  obtain ⟨hv, mine⟩ := q.mem_queue.1 hv
  have apart := q.ticket_ne_of_key_ne hc hv fun same => other (same ▸ mine)
  simpa using apart

/-! ## The operations keep it -/

/-- What touches neither queues nor calls keeps the queues in order. -/
theorem congr (q : t.Queued) {u : Table} (queues : ∀ key, u.queue key = t.queue key)
    (calls : u.calls = t.calls) (tickets : u.nextTicket = t.nextTicket) : u.Queued where
  queue_eq key := by rw [queues, q.queue_eq, waitList, waitList, calls]
  ascending := by rw [calls]; exact q.ascending
  ticket_lt := by rw [calls, tickets]; exact q.ticket_lt

/-- A key that was free had no queue, and has none when it is claimed. -/
theorem install (q : t.Queued) {r : Request} (free : t.slots.get? r.key = none) :
    (t.install r.key r []).2.Queued := by
  refine q.congr (fun key => ?_) rfl rfl
  rw [queue_install]
  split
  · next same => rw [same, queue_of_no_slot free]
  · rfl

theorem setHolds (q : t.Queued) {key : String} {s : Slot} (held : t.slots.get? key = some s)
    (holds : UInt32) : (t.setHolds key s holds).Queued :=
  q.congr (fun k => queue_setHolds t held k holds) rfl rfl

/-- Passing a key on takes its first waiter out of the wait list, because a grant lies ready for his
call from then on. -/
theorem handOn (q : t.Queued) (key : String) : (t.handOn key (t.queue key)).2.Queued := by
  cases waiting : t.queue key with
  | nil =>
    refine q.congr (fun k => ?_) rfl rfl
    rw [queue_handOn]
    split
    · next same => rw [same, waiting]; rfl
    · rfl
  | cons w ws =>
    obtain ⟨c, hc, -, rfl, mine⟩ := q.exists_call_of_mem (waiting ▸ List.mem_cons_self)
    -- Laying a grant ready takes one call out of the wait list and changes no ticket.
    refine ⟨fun k => ?_, ?_, ?_⟩
    · rw [queue_handOn, waitList_handOn, q.filter_waitList]
      change (if k = key then ws else t.queue k)
        = (t.queue k).filter fun v => v.ticket != c.ticket
      split
      · next same => rw [same]; exact (q.filter_head waiting).symm
      · next other => rw [q.filter_other hc fun same => other (same.symm.trans mine)]
    · rw [handOn_cons]
      refine List.pairwise_map.2 (q.ascending.imp fun {a b} h => ?_)
      split <;> split <;> exact h
    · intro d hd
      rw [handOn_cons] at hd
      obtain ⟨e, he, rfl⟩ := List.mem_map.1 hd
      have bound := q.ticket_lt e he
      split <;> exact bound

/-- A call that blocks stands last in its queue and in the wait list. -/
theorem enqueue (q : t.Queued) {r : Request} {s : Slot} (held : t.slots.get? r.key = some s)
    (token : String) : (t.enqueue token r).Queued where
  queue_eq key := by
    rw [queue_enqueue t held, waitList_enqueue, List.filter_append, q.queue_eq]
    by_cases same : key = r.key
    · simp [same]
    · simp [same, Ne.symm same]
  ascending := by
    rw [calls_enqueue, List.pairwise_append]
    -- The ticket that is drawn now is greater than all that were drawn before.
    refine ⟨q.ascending, List.pairwise_singleton _ _, fun c hc d hd => ?_⟩
    rw [List.mem_singleton.1 hd]
    exact q.ticket_lt c hc
  ticket_lt c hc := by
    rw [calls_enqueue, List.mem_append, List.mem_singleton] at hc
    rcases hc with older | rfl
    · exact Nat.lt_succ_of_lt (q.ticket_lt c older)
    · exact Nat.lt_succ_self _

theorem withdraw (q : t.Queued) {c : Call} (hc : c ∈ t.calls) : (t.withdraw c).Queued where
  queue_eq key := by
    rw [queue_withdraw, waitList_withdraw, q.filter_waitList]
    split
    · rfl
    · next other => rw [q.filter_other hc (Ne.symm other)]
  ascending := by
    rw [calls_withdraw]
    exact q.ascending.sublist List.filter_sublist
  ticket_lt d hd := by
    rw [calls_withdraw] at hd
    obtain ⟨slots, eq⟩ := t.withdraw_eq c
    rw [eq]
    exact q.ticket_lt d (List.mem_filter.1 hd).1

/-- A call that has its grant stands in no queue: forgetting it leaves them alone. -/
theorem waitList_forget_ready (q : t.Queued) {c : Call} (hc : c ∈ t.calls) {g : Grant}
    (ready : c.permit = some g) : (t.forget c.ticket).waitList = t.waitList := by
  rw [waitList_forget, List.filter_eq_self]
  intro w hw
  have apart := q.ticket_ne_of_permit hc ready hw
  simpa using apart

/-- A call that has its grant stands nowhere, so forgetting it is not noticed in the queues. -/
theorem forget (q : t.Queued) {c : Call} (hc : c ∈ t.calls) {g : Grant}
    (ready : c.permit = some g) : (t.forget c.ticket).Queued where
  queue_eq key := by
    rw [q.waitList_forget_ready hc ready]
    exact q.queue_eq key
  ascending := q.ascending.sublist List.filter_sublist
  ticket_lt d hd := q.ticket_lt d (List.mem_filter.1 hd).1

end Queued

end Table

end KeyedLocks
