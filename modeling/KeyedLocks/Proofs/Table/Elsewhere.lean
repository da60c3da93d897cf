/-
What is done on another key.

A step is about one key (`aim?`), and it leaves every other key as it was: who holds it, who waits
for it, and what was handed to the calls that asked for it (`Untouched`). The reaper is no
exception, but for the time that he chooses himself. A step of his leaves a key as it was, or it
takes the key away from a holder whose deadline has come (`untouched_or_expired`).
-/
import KeyedLocks.Proofs.Table.Side

set_option autoImplicit false

namespace KeyedLocks

namespace Table

variable {t u v : Table} {key : String}

/-- The key that an event is about. -/
def aim? (t : Table) : Event → Option String
  | .tryAcquire r | .acquire _ r | .release r => some r.key
  | .poll ticket | .depart ticket => (t.call? ticket).map fun c => c.request.key
  | .revoke key _ => some key
  | .reap => t.delays.records.head?.map DelayRecord.key
  | .cancel _ | .tick _ | .stopReaper => none

/-- A key is as it was: the same holder and the same queue, and the calls for it have the same
permits. Calls that came since are not looked at. -/
structure Untouched (t u : Table) (key : String) : Prop where
  holder : u.holder? key = t.holder? key
  queue : u.queue key = t.queue key
  tickets : t.nextTicket ≤ u.nextTicket
  call : ∀ n < t.nextTicket, (∀ c, t.call? n = some c → c.request.key = key) →
    u.call? n = t.call? n

namespace Untouched

theorem refl (t : Table) (key : String) : t.Untouched t key :=
  ⟨rfl, rfl, Nat.le_refl _, fun _ _ _ => rfl⟩

/-- Two steps that leave a key as it was leave it as it was. -/
theorem trans (first : t.Untouched u key) (second : u.Untouched v key) : t.Untouched v key where
  holder := second.holder.trans first.holder
  queue := second.queue.trans first.queue
  tickets := Nat.le_trans first.tickets second.tickets
  call n drawn own := by
    have same := first.call n drawn own
    rw [← same] at own ⊢
    exact second.call n (Nat.lt_of_lt_of_le drawn first.tickets) own

/-- What leaves locks, calls and tickets alone leaves every key alone. -/
theorem of_same (slots : u.slots = t.slots) (calls : u.calls = t.calls)
    (tickets : t.nextTicket ≤ u.nextTicket) (key : String) : t.Untouched u key where
  holder := by rw [holder?, holder?, slots]
  queue := by rw [Table.queue, Table.queue, slots]
  tickets := tickets
  call n _ _ := by rw [call?, call?, calls]

/-- A call for the key is still there. -/
theorem mem_calls (same : t.Untouched u key) (q : t.Queued) {c : Call} (hc : c ∈ t.calls)
    (here : c.request.key = key) : c ∈ u.calls := by
  have found : t.call? c.ticket = some c := q.call?_eq_some_iff.2 ⟨hc, rfl⟩
  have kept : u.call? c.ticket = some c := by
    rw [same.call c.ticket (q.ticket_lt c hc), found]
    intro d also
    rw [← Option.some.inj (found.symm.trans also)]
    exact here
  exact List.mem_of_find?_eq_some kept

end Untouched

/-! ## One step -/

/-- A call for another key has another ticket than the calls for the key. -/
theorem Queued.ticket_ne (q : t.Queued) {c : Call} (hc : c ∈ t.calls)
    (other : c.request.key ≠ key) {n : Nat}
    (own : ∀ d, t.call? n = some d → d.request.key = key) : n ≠ c.ticket := by
  rintro rfl
  exact other (own c (q.call?_eq_some_iff.2 ⟨hc, rfl⟩))

/-- Another key is passed on, and a call for that key is served. -/
theorem untouched_handOn (q : t.Queued) {k : String} (other : k ≠ key) :
    t.Untouched (t.handOn k (t.queue k)).2 key where
  holder := by rw [holder?_handOn, if_neg other.symm]
  queue := by rw [queue_handOn, if_neg other.symm]
  tickets := by cases t.queue k <;> exact Nat.le_refl _
  call n _ own := by
    rw [call?_handOn]
    refine (Option.map_congr ?_).trans Option.map_id'
    intro c found
    obtain ⟨-, rfl⟩ := q.call?_eq_some_iff.1 found
    cases waiting : t.queue k with
    | nil => rfl
    | cons w ws =>
      -- Whoever is served asked for the other key, so it is not this call.
      obtain ⟨d, hd, -, rfl, there⟩ := q.exists_call_of_mem (waiting ▸ List.mem_cons_self)
      have apart := q.ticket_ne hd (there.trans_ne other) own
      simp [Call.take, grantFor, Call.toWaiter, apart.symm]

/-- To forget the call for another key leaves this one as it was. -/
theorem untouched_forget (q : t.Queued) {c : Call} (hc : c ∈ t.calls)
    (other : c.request.key ≠ key) : t.Untouched (t.forget c.ticket) key where
  holder := rfl
  queue := rfl
  tickets := Nat.le_refl _
  call n _ own := by rw [call?_forget, if_neg (q.ticket_ne hc other own)]

theorem untouched_withdraw (q : t.Queued) {c : Call} (hc : c ∈ t.calls)
    (other : c.request.key ≠ key) : t.Untouched (t.withdraw c) key where
  holder := t.holder?_withdraw c key
  queue := by rw [queue_withdraw, if_neg other.symm]
  tickets := by
    obtain ⟨slots, eq⟩ := t.withdraw_eq c
    rw [eq]
  call n _ own := by rw [call?_withdraw, if_neg (q.ticket_ne hc other own)]

/-- Counting the holds of another key does not touch a key. -/
theorem untouched_setHolds {k : String} {slot : Slot} (held : t.slots.get? k = some slot)
    (holds : UInt32) (other : k ≠ key) : t.Untouched (t.setHolds k slot holds) key where
  holder := by rw [holder?_setHolds, if_neg other.symm]
  queue := queue_setHolds t held key holds
  tickets := Nat.le_refl _
  call _ _ _ := rfl

/-- A new holder of another key does not touch a key. -/
theorem untouched_install (r : Request) (other : r.key ≠ key) :
    t.Untouched (t.install r.key r []).2 key where
  holder := by rw [holder?_install, if_neg other.symm]
  queue := by rw [queue_install, if_neg other.symm]
  tickets := Nat.le_refl _
  call _ _ _ := rfl

/-- A record is taken out of the delay queue. -/
theorem untouched_drain (t : Table) (key : String) :
    t.Untouched { t with delays := t.delays.tail } key :=
  ⟨rfl, rfl, Nat.le_refl _, fun _ _ _ => rfl⟩

/-- **A step on another key** leaves a key as it was. -/
theorem Way.untouched (s : t.Sound) {e : Event} {o : Outcome} (w : Way t e o u)
    (other : ∀ k, t.aim? e = some k → k ≠ key) : t.Untouched u key := by
  have q := s.toQueued
  -- The key of a call that is polled or departs is another one.
  have called : ∀ {c : Call}, c ∈ t.calls → (e = .poll c.ticket ∨ e = .depart c.ticket) →
      c.request.key ≠ key := by
    intro c hc which
    refine other _ ?_
    have found : t.call? c.ticket = some c := q.call?_eq_some_iff.2 ⟨hc, rfl⟩
    rcases which with rfl | rfl <;> rw [aim?, found] <;> rfl
  cases w with
  | refuse => exact .refl t key
  | aside same => exact .of_same same.slots same.calls same.nextTicket.ge key
  | tryClaim r | claim token r => exact untouched_install r (other _ rfl)
  | tryReenter r slot held | reenter token r slot held | retain r slot held =>
    exact untouched_setHolds held _ (other _ rfl)
  | block token r slot held =>
    have apart : r.key ≠ key := other _ rfl
    have next : (t.enqueue token r).nextTicket = t.nextTicket + 1 := by
      obtain ⟨slots, eq⟩ := t.enqueue_eq token r
      rw [eq]
    refine ⟨t.holder?_enqueue token r key, ?_, next ▸ Nat.le_succ _, fun n drawn _ => ?_⟩
    · rw [queue_enqueue t held, if_neg apart.symm, List.append_nil]
    · exact t.call?_enqueue_of_lt token r drawn
  | decline => exact ⟨rfl, rfl, Nat.le_succ _, fun _ _ _ => rfl⟩
  | discard => exact t.untouched_drain key
  | fetch c g hc => exact untouched_forget q hc (called hc (.inl rfl))
  | lapse c g hc => exact untouched_forget q hc (called hc (.inr rfl))
  | callOff c hc => exact untouched_withdraw q hc (called hc (.inl rfl))
  | leave c hc => exact untouched_withdraw q hc (called hc (.inr rfl))
  | keep c g slot hc ready held =>
    have apart := called hc (.inr rfl)
    exact (untouched_forget q hc apart).trans
      (untouched_setHolds (t := t.forget c.ticket) held _ apart)
  | giveBack c g slot hc ready held =>
    have apart := called hc (.inr rfl)
    rw [← queue_of_slot (t := t.forget c.ticket) held]
    exact (untouched_forget q hc apart).trans (untouched_handOn (q.forget hc ready) apart)
  | release r slot held =>
    rw [← queue_of_slot held]
    exact untouched_handOn q (other _ rfl)
  | revoke k slot held =>
    rw [← queue_of_slot held]
    exact untouched_handOn q (other _ rfl)
  | expire record slot _ first _ held =>
    have apart : record.key ≠ key := other _ (by rw [aim?, first]; rfl)
    rw [← queue_of_slot (t := { t with delays := t.delays.tail }) held]
    exact (t.untouched_drain key).trans (untouched_handOn s.drain.toQueued apart)

/-- **A step of the reaper** leaves a key as it was, or takes it away from a holder whose deadline
has come. -/
theorem untouched_or_expired (s : t.Sound) (due : t.isDue = true) (key : String) :
    t.Untouched t.reap.2 key
      ∨ ∃ h d, t.holder? key = some h ∧ h.expiresAt = some d ∧ d ≤ t.now
        ∧ t.reap.2 = ({ t with delays := t.delays.tail }.handOn key (t.queue key)).2 := by
  obtain ⟨record, first, now, ⟨-, after⟩ | ⟨slot, held, mine, after⟩⟩ := reap_of_due due
  · left
    rw [after]
    exact t.untouched_drain key
  · rw [after]
    by_cases here : record.key = key
    · right
      subst here
      -- A record that names a grant carries the deadline of its holder.
      have own := (s.record_holder record (List.mem_of_head? first) record.key _
        (holder?_of_slot held) mine).2
      refine ⟨slot.holder, record.deadline, holder?_of_slot held, own, now, ?_⟩
      rw [queue_of_slot held]
    · left
      rw [← queue_of_slot (t := { t with delays := t.delays.tail }) held]
      exact (t.untouched_drain key).trans (untouched_handOn s.drain.toQueued here)

end Table

end KeyedLocks
