/-
What one step can do.

`Way` lists every way in which an event can go: what it finds, what it answers, and
what the table is afterwards, in terms of the operations of `Views`. `step_way` says
that there is no other. The laws about runs look at a step through this list; none of
them unfolds an operation.

A grant ends in four of the ways (`release`, `giveBack`, `revoke`, `expire`), and in
all four the key is passed on to its queue in the same step. A grant is made there or
by a claim on a key that nobody holds.
-/
import KeyedLocks.Proofs.Table.Scheduling

set_option autoImplicit false

namespace KeyedLocks

/-- Whether a caller was turned away, or found nothing to do. -/
def Outcome.refuses : Outcome → Bool
  | .admission (.busy _) => true
  | .progress .pending => true
  | .progress .unknown => true
  | .departure .unknown => true
  | .release (.notHeld _) => true
  | .revocation none => true
  | .reaped .idle => true
  | _ => false

namespace Table

/-- Two tables with the same locks, calls and records, the second one no earlier. -/
structure SameLocks (t u : Table) : Prop where
  kind : u.kind = t.kind
  leased : u.leased = t.leased
  horizon : u.horizon = t.horizon
  slots : u.slots = t.slots
  lastGrant : u.lastGrant = t.lastGrant
  nextTicket : u.nextTicket = t.nextTicket
  delays : u.delays = t.delays
  calls : u.calls = t.calls
  now : t.now ≤ u.now

/-! ## The ways of a step -/

/-- The ways in which an event can go. -/
inductive Way (t : Table) : Event → Outcome → Table → Prop
  | refuse {e : Event} {o : Outcome} (h : o.refuses = true) : Way t e o t
  | aside {e : Event} {u : Table} (same : t.SameLocks u) : Way t e .done u
  -- asking
  | tryClaim (r : Request) (free : t.slots.get? r.key = none) :
      Way t (.tryAcquire r) (.admission (.granted (t.newHolder r).toGrant))
        (t.install r.key r []).2
  | tryReenter (r : Request) (s : Slot) (held : t.slots.get? r.key = some s)
      (may : t.reentrant = true) (own : s.holder.request.sameOwner r = true) :
      Way t (.tryAcquire r)
        (.admission (.reentered { s.holder.toGrant with holds := s.holder.holds + 1 }))
        (t.setHolds r.key s (s.holder.holds + 1))
  | claim (token : String) (r : Request) (free : t.slots.get? r.key = none) :
      Way t (.acquire token r) (.acquisition (.granted (t.newHolder r).toGrant))
        (t.install r.key r []).2
  | reenter (token : String) (r : Request) (s : Slot) (held : t.slots.get? r.key = some s)
      (may : t.reentrant = true) (own : s.holder.request.sameOwner r = true) :
      Way t (.acquire token r)
        (.acquisition (.reentered { s.holder.toGrant with holds := s.holder.holds + 1 }))
        (t.setHolds r.key s (s.holder.holds + 1))
  | block (token : String) (r : Request) (s : Slot) (held : t.slots.get? r.key = some s)
      (alive : token ∉ t.cancelled) :
      Way t (.acquire token r) (.acquisition (.waiting t.nextTicket)) (t.enqueue token r)
  | decline (token : String) (r : Request) (s : Slot) (held : t.slots.get? r.key = some s)
      (off : token ∈ t.cancelled) :
      Way t (.acquire token r) (.acquisition (.cancelled r.key))
        { t with nextTicket := t.nextTicket + 1 }
  -- waiting and leaving
  | fetch (c : Call) (g : Grant) (hc : c ∈ t.calls) (ready : c.permit = some g) :
      Way t (.poll c.ticket) (.progress (.granted g)) (t.forget c.ticket)
  | callOff (c : Call) (hc : c ∈ t.calls) (bare : c.permit = none)
      (off : c.token ∈ t.cancelled) :
      Way t (.poll c.ticket) (.progress (.cancelled c.request.key)) (t.withdraw c)
  | leave (c : Call) (hc : c ∈ t.calls) (bare : c.permit = none) :
      Way t (.depart c.ticket) (.departure .left) (t.withdraw c)
  | lapse (c : Call) (g : Grant) (hc : c ∈ t.calls) (ready : c.permit = some g)
      (gone : t.grant? c.request.key ≠ some g.id) :
      Way t (.depart c.ticket) (.departure (.gaveBack .late)) (t.forget c.ticket)
  | keep (c : Call) (g : Grant) (s : Slot) (hc : c ∈ t.calls) (ready : c.permit = some g)
      (held : t.slots.get? c.request.key = some s) (mine : s.holder.grant = g.id)
      (more : 1 < s.holder.holds) :
      Way t (.depart c.ticket) (.departure (.gaveBack (.kept (s.holder.holds - 1))))
        ((t.forget c.ticket).setHolds c.request.key s (s.holder.holds - 1))
  | giveBack (c : Call) (g : Grant) (s : Slot) (hc : c ∈ t.calls) (ready : c.permit = some g)
      (held : t.slots.get? c.request.key = some s) (mine : s.holder.grant = g.id)
      (last : ¬ 1 < s.holder.holds) :
      Way t (.depart c.ticket)
        (.departure (.gaveBack
          (.returned g.id ((t.forget c.ticket).handOn c.request.key s.waiters).1)))
        ((t.forget c.ticket).handOn c.request.key s.waiters).2
  -- giving back and taking away
  | retain (r : Request) (s : Slot) (held : t.slots.get? r.key = some s)
      (own : s.holder.request.sameOwner r = true) (may : t.reentrant = true)
      (more : 1 < s.holder.holds) :
      Way t (.release r) (.release (.retained (s.holder.holds - 1)))
        (t.setHolds r.key s (s.holder.holds - 1))
  | release (r : Request) (s : Slot) (held : t.slots.get? r.key = some s)
      (own : s.holder.request.sameOwner r = true)
      (last : ¬ (t.reentrant = true ∧ 1 < s.holder.holds)) :
      Way t (.release r)
        (.release (.released s.holder.grant (t.handOn r.key s.waiters).1))
        (t.handOn r.key s.waiters).2
  | revoke (key : String) (s : Slot) (held : t.slots.get? key = some s) :
      Way t (.revoke key s.holder.grant)
        (.revocation (some ⟨s.holder.request.owner, (t.handOn key s.waiters).1⟩))
        (t.handOn key s.waiters).2
  | discard (record : DelayRecord) (running : t.reaper = .running)
      (first : t.delays.records.head? = some record) (due : record.deadline ≤ t.now)
      (stale : t.grant? record.key ≠ some record.grant) :
      Way t .reap (.reaped (.stale record)) { t with delays := t.delays.tail }
  | expire (record : DelayRecord) (s : Slot) (running : t.reaper = .running)
      (first : t.delays.records.head? = some record) (due : record.deadline ≤ t.now)
      (held : t.slots.get? record.key = some s) (mine : s.holder.grant = record.grant) :
      Way t .reap
        (.reaped (.revoked record ⟨s.holder.request.owner,
          ({ t with delays := t.delays.tail }.handOn record.key s.waiters).1⟩))
        ({ t with delays := t.delays.tail }.handOn record.key s.waiters).2

/-! ## There is no other -/

variable {t : Table}

theorem tryAcquire_of_own {r : Request} {s : Slot} (held : t.slots.get? r.key = some s)
    (again : (t.reentrant && s.holder.request.sameOwner r) = true) :
    t.tryAcquire r = (.reentered { s.holder.toGrant with holds := s.holder.holds + 1 },
      t.setHolds r.key s (s.holder.holds + 1)) := by
  simp only [tryAcquire, held, again, if_true]

/-- An attempt claims the key, or enters it once more, or is refused. -/
theorem way_tryAcquire (t : Table) (r : Request) :
    Way t (.tryAcquire r) (.admission (t.tryAcquire r).1) (t.tryAcquire r).2 := by
  cases held : t.slots.get? r.key with
  | none =>
    rw [tryAcquire_of_free held]
    exact .tryClaim r held
  | some s =>
    cases again : t.reentrant && s.holder.request.sameOwner r with
    | false =>
      rw [tryAcquire_of_busy held again]
      exact .refuse rfl
    | true =>
      obtain ⟨may, own⟩ := Bool.and_eq_true_iff.1 again
      rw [tryAcquire_of_own held again]
      exact .tryReenter r s held may own

/-- The ticket that is drawn next leads to the call that draws it. -/
theorem call?_enqueue (q : t.Queued) (token : String) (r : Request) :
    (t.enqueue token r).call? t.nextTicket = some ⟨t.nextTicket, token, r, none⟩ := by
  have others : t.calls.find? (fun c => c.ticket == t.nextTicket) = none := by
    rw [List.find?_eq_none]
    intro c hc
    have older := q.ticket_lt c hc
    simp only [beq_iff_eq]
    omega
  rw [call?, calls_enqueue, List.find?_append, others]
  simp

/-- Whoever joins a queue and leaves it at once changes nothing but the number of the
next ticket. -/
theorem withdraw_enqueue (q : t.Queued) {r : Request} {s : Slot}
    (held : t.slots.get? r.key = some s) (token : String) :
    (t.enqueue token r).withdraw ⟨t.nextTicket, token, r, none⟩
      = { t with nextTicket := t.nextTicket + 1 } := by
  have waiters : (s.waiters ++ [Waiter.mk t.nextTicket r]).filter
      (fun w => w.ticket != t.nextTicket) = s.waiters := by
    rw [List.filter_append, List.filter_eq_self.2]
    · simp
    · intro w hw
      rw [← queue_of_slot held] at hw
      obtain ⟨c, hc, -, rfl, -⟩ := q.exists_call_of_mem hw
      have older := q.ticket_lt c hc
      simp only [Call.toWaiter, bne_iff_ne]
      omega
  have calls : (t.calls ++ [Call.mk t.nextTicket token r none]).filter
      (fun c => c.ticket != t.nextTicket) = t.calls := by
    rw [List.filter_append, List.filter_eq_self.2]
    · simp
    · intro c hc
      have older := q.ticket_lt c hc
      simp only [bne_iff_ne]
      omega
  have slots : ((t.slots.insert r.key { s with waiters := s.waiters ++ [⟨t.nextTicket, r⟩] }).insert
      r.key s) = t.slots := by
    refine KeyMap.ext_get? fun k => ?_
    rw [KeyMap.get?_insert, KeyMap.get?_insert]
    by_cases same : k = r.key
    · rw [if_pos same, same, held]
    · rw [if_neg same, if_neg same]
  simp only [withdraw, enqueue, join, held, Table.leave, KeyMap.get?_insert_self, forget,
    waiters, calls, slots]

/-- **Waiting for a busy key.** The call joins the queue and looks for its grant at once. If it
was called off beforehand it leaves again, and all that remains is the ticket it drew. -/
theorem acquire_of_busy (q : t.Queued) {token : String} {r : Request} {s : Slot}
    (held : t.slots.get? r.key = some s)
    (again : (t.reentrant && s.holder.request.sameOwner r) = false) :
    t.acquire token r
      = if token ∈ t.cancelled then (.cancelled r.key, { t with nextTicket := t.nextTicket + 1 })
        else (.waiting t.nextTicket, t.enqueue token r) := by
  have found := call?_enqueue q token r
  have cancelled : (t.enqueue token r).cancelled = t.cancelled := by
    obtain ⟨slots, eq⟩ := t.enqueue_eq token r
    rw [eq]
  simp only [acquire, tryAcquire_of_busy held again, await]
  by_cases off : token ∈ t.cancelled
  · rw [if_pos off, poll_of_cancelled found rfl (by rw [cancelled]; exact off)]
    change (_, (t.enqueue token r).withdraw ⟨t.nextTicket, token, r, none⟩) = _
    rw [withdraw_enqueue q held]
  · rw [if_neg off, poll_of_pending found rfl (by rw [cancelled]; exact off)]

/-- A call that may wait claims the key, enters it once more, is called off on arrival, or blocks.
-/
theorem way_acquire (q : t.Queued) (token : String) (r : Request) :
    Way t (.acquire token r) (.acquisition (t.acquire token r).1) (t.acquire token r).2 := by
  cases held : t.slots.get? r.key with
  | none =>
    simp only [acquire, tryAcquire_of_free held]
    exact .claim token r held
  | some s =>
    cases again : t.reentrant && s.holder.request.sameOwner r with
    | true =>
      obtain ⟨may, own⟩ := Bool.and_eq_true_iff.1 again
      simp only [acquire, tryAcquire_of_own held again]
      exact .reenter token r s held may own
    | false =>
      rw [acquire_of_busy q held again]
      -- Only here does the token matter: a key that can be had is had even by a call that was
      -- called off.
      split
      · next off => exact .decline token r s held off
      · next alive => exact .block token r s held alive

/-- A call that is polled has its grant, or was called off, or goes on waiting. The grant is looked
at first. -/
theorem way_poll (q : t.Queued) (ticket : Nat) :
    Way t (.poll ticket) (.progress (t.poll ticket).1) (t.poll ticket).2 := by
  cases found : t.call? ticket with
  | none =>
    rw [poll_of_unknown found]
    exact .refuse rfl
  | some c =>
    obtain ⟨hc, rfl⟩ := q.call?_eq_some_iff.1 found
    cases ready : c.permit with
    | some g =>
      rw [poll_of_permit found ready]
      exact .fetch c g hc ready
    | none =>
      by_cases off : c.token ∈ t.cancelled
      · rw [poll_of_cancelled found ready off]
        exact .callOff c hc ready off
      · rw [poll_of_pending found ready off]
        exact .refuse rfl

section GivingBack

variable {key : String} {grant : Nat} {s : Slot}

theorem giveBack_of_more (held : t.slots.get? key = some s) (mine : s.holder.grant = grant)
    (more : 1 < s.holder.holds) :
    t.giveBack key grant
      = (.kept (s.holder.holds - 1), t.setHolds key s (s.holder.holds - 1)) := by
  simp only [Table.giveBack, held, mine, more, if_true]

theorem giveBack_of_last (held : t.slots.get? key = some s) (mine : s.holder.grant = grant)
    (last : ¬ 1 < s.holder.holds) :
    t.giveBack key grant
      = (.returned grant (t.handOn key s.waiters).1, (t.handOn key s.waiters).2) := by
  simp only [Table.giveBack, held, mine, last, if_true, if_false]

/-- A grant that has ended meanwhile is given back too late. -/
theorem giveBack_of_late (gone : t.grant? key ≠ some grant) :
    t.giveBack key grant = (.late, t) := by
  cases held : t.slots.get? key with
  | none => simp only [Table.giveBack, held]
  | some s =>
    -- The key may be held again, but then under another number.
    have other : s.holder.grant ≠ grant := by
      intro mine
      rw [grant?_of_holder (holder?_of_slot held), mine] at gone
      exact gone rfl
    simp only [Table.giveBack, held, other, if_false]

end GivingBack

/-- A call that departs leaves its queue, or gives its grant back, in time or too late. -/
theorem way_depart (q : t.Queued) (ticket : Nat) :
    Way t (.depart ticket) (.departure (t.depart ticket).1) (t.depart ticket).2 := by
  cases found : t.call? ticket with
  | none =>
    simp only [depart, found]
    exact .refuse rfl
  | some c =>
    obtain ⟨hc, rfl⟩ := q.call?_eq_some_iff.1 found
    cases ready : c.permit with
    | none =>
      simp only [depart, found, ready]
      exact .leave c hc ready
    | some g =>
      -- Forgetting the call touches no slot, so what holds of the key before holds after it.
      simp only [depart, found, ready]
      by_cases mine : t.grant? c.request.key = some g.id
      · obtain ⟨h, held, number⟩ := exists_holder_of_grant mine
        have slot := slot_of_holder held
        by_cases more : 1 < h.holds
        · rw [giveBack_of_more (t := t.forget c.ticket) slot number more]
          exact .keep c g _ hc ready slot number more
        · rw [giveBack_of_last (t := t.forget c.ticket) slot number more]
          exact .giveBack c g _ hc ready slot number more
      · rw [giveBack_of_late (t := t.forget c.ticket) mine]
        exact .lapse c g hc ready mine

section Releasing

variable {r : Request} {s : Slot} (held : t.slots.get? r.key = some s)
include held

theorem release_of_other (other : s.holder.request.sameOwner r = false) :
    t.release r = (.notHeld (some s.holder.request.owner), t) := by
  simp [Table.release, held, other]

/-- A release with more holds keeps the grant. This is for reentrant locks only; others pass the key
on whatever the count says. -/
theorem release_of_more (own : s.holder.request.sameOwner r = true)
    (more : (t.reentrant && 1 < s.holder.holds) = true) :
    t.release r = (.retained (s.holder.holds - 1), t.setHolds r.key s (s.holder.holds - 1)) := by
  simp only [Table.release, held, own, more, if_true]

theorem release_of_last (own : s.holder.request.sameOwner r = true)
    (last : (t.reentrant && 1 < s.holder.holds) = false) :
    t.release r = (.released s.holder.grant (t.handOn r.key s.waiters).1,
      (t.handOn r.key s.waiters).2) := by
  simp only [Table.release, held, own, last, if_true, Bool.false_eq_true, if_false]

end Releasing

/-- A release is refused, or takes one hold off, or ends the grant. -/
theorem way_release (t : Table) (r : Request) :
    Way t (.release r) (.release (t.release r).1) (t.release r).2 := by
  cases held : t.slots.get? r.key with
  | none =>
    rw [release_of_free held]
    exact .refuse rfl
  | some s =>
    cases own : s.holder.request.sameOwner r with
    | false =>
      rw [release_of_other held own]
      exact .refuse rfl
    | true =>
      -- The program asks the kind of lock before the count, and so does this.
      cases keeps : t.reentrant && decide (1 < s.holder.holds) with
      | true =>
        obtain ⟨may, more⟩ := Bool.and_eq_true_iff.1 keeps
        rw [release_of_more held own keeps]
        exact .retain r s held own may (of_decide_eq_true more)
      | false =>
        rw [release_of_last held own keeps]
        exact .release r s held own (by simpa using keeps)

theorem revoke_of_holder {key : String} {grant : Nat} {s : Slot}
    (held : t.slots.get? key = some s) (mine : s.holder.grant = grant) :
    t.revoke key grant
      = (some ⟨s.holder.request.owner, (t.handOn key s.waiters).1⟩,
        (t.handOn key s.waiters).2) := by
  simp only [Table.revoke, held, mine, if_true]

theorem revoke_of_other {key : String} {grant : Nat} (other : t.grant? key ≠ some grant) :
    t.revoke key grant = (none, t) := by
  refine revoke_of_stale fun s held mine => other ?_
  rw [grant?_of_holder (holder?_of_slot held), mine]

/-- Taking a grant away succeeds exactly if it still holds the key. -/
theorem way_revoke (t : Table) (key : String) (grant : Nat) :
    Way t (.revoke key grant) (.revocation (t.revoke key grant).1) (t.revoke key grant).2 := by
  by_cases mine : t.grant? key = some grant
  · obtain ⟨h, held, rfl⟩ := exists_holder_of_grant mine
    have slot := slot_of_holder held
    rw [revoke_of_holder slot rfl]
    exact .revoke key _ slot
  · rw [revoke_of_other mine]
    exact .refuse rfl

/-- **A stale record** is taken out, and that is all. -/
theorem reap_of_stale {record : DelayRecord} {rest : DelayQueue} (running : t.reaper = .running)
    (popped : t.delays.popDue t.now = some (record, rest))
    (stale : t.grant? record.key ≠ some record.grant) :
    t.reap = (.stale record, { t with delays := rest }) := by
  rw [reap, if_pos running, popped]
  dsimp only
  rw [revoke_of_other (t := { t with delays := rest }) stale]

/-- The reaper idles, throws a stale record away, or takes a key away. -/
theorem way_reap (t : Table) : Way t .reap (.reaped t.reap.1) t.reap.2 := by
  by_cases running : t.reaper = .running
  · cases popped : t.delays.popDue t.now with
    | none =>
      rw [reap, if_pos running, popped]
      exact .refuse rfl
    | some p =>
      obtain ⟨record, rest⟩ := p
      obtain ⟨first, due, rfl⟩ := DelayQueue.popDue_eq_some_iff.1 popped
      by_cases mine : t.grant? record.key = some record.grant
      -- The record is taken out first, and the grant is looked for in what is left.
      · obtain ⟨h, held, number⟩ := exists_holder_of_grant mine
        have slot := slot_of_holder held
        rw [reap, if_pos running, popped]
        dsimp only
        rw [revoke_of_holder (t := { t with delays := t.delays.tail }) slot number]
        exact .expire record _ running first due slot number
      · rw [reap_of_stale running popped mine]
        exact .discard record running first due mine
  · rw [reap_of_not_running running]
    exact .refuse rfl

/-- **Every step goes one of these ways.** -/
theorem step_way (q : t.Queued) (e : Event) : Way t e (t.step e).1 (t.step e).2 := by
  cases e with
  | tryAcquire r => exact way_tryAcquire t r
  | acquire token r => exact way_acquire q token r
  | poll ticket => exact way_poll q ticket
  | depart ticket => exact way_depart q ticket
  | cancel token =>
    refine .aside ?_
    change t.SameLocks (t.cancel token)
    unfold cancel
    split <;> exact ⟨rfl, rfl, rfl, rfl, rfl, rfl, rfl, rfl, Nat.le_refl _⟩
  | release r => exact way_release t r
  | revoke key grant => exact way_revoke t key grant
  | reap => exact way_reap t
  -- Time touches no lock by itself; what it makes due is left to the reaper.
  | tick ns => exact .aside ⟨rfl, rfl, rfl, rfl, rfl, rfl, rfl, rfl, Nat.le_add_right _ _⟩
  | stopReaper =>
    refine .aside ?_
    change t.SameLocks t.stopReaper
    unfold stopReaper
    split <;> exact ⟨rfl, rfl, rfl, rfl, rfl, rfl, rfl, rfl, Nat.le_refl _⟩

/-! ## What no step changes -/

/-- What a table was opened with stays. -/
theorem Way.settings {u : Table} {e : Event} {o : Outcome} (w : Way t e o u) :
    u.kind = t.kind ∧ u.leased = t.leased ∧ u.horizon = t.horizon := by
  cases w with
  | aside same => exact ⟨same.kind, same.leased, same.horizon⟩
  | block token r =>
    obtain ⟨slots, eq⟩ := t.enqueue_eq token r
    rw [eq]
    exact ⟨rfl, rfl, rfl⟩
  | callOff c | leave c =>
    obtain ⟨slots, eq⟩ := t.withdraw_eq c
    rw [eq]
    exact ⟨rfl, rfl, rfl⟩
  | giveBack c g slot | release r slot | revoke key slot | expire record slot =>
    cases slot.waiters <;> exact ⟨rfl, rfl, rfl⟩
  | _ => exact ⟨rfl, rfl, rfl⟩

end Table

end KeyedLocks
