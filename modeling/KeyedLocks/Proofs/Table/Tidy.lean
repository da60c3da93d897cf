/-
No entry is left behind.

A loose table makes entries, leaves them without a holder for a while, passes over those who
are not there any more, and takes an entry out only after a look at it. Each of its operations
comes to the same as the operation of a table on slots (`step_loose`), and so does a run
(`run_loose`). What makes it so is that whoever stands in a queue is still there
(`listens_of_mem`), and that what is left under a key after its grant has ended is either a
holder or nothing (`vacate_loose`).

So between operations a loose table has an entry for a key exactly if the key is held. What is
known of slots is then known of entries (`LooseTable.InOrder`), and the different ways of
asking whether a key is held agree.
-/
import KeyedLocks.Table.Loose
import KeyedLocks.Proofs.Table.Accounting
import KeyedLocks.Proofs.Table.Settling

set_option autoImplicit false

namespace KeyedLocks

/-- What is kept under a key between operations: a holder who asked for that key, under a
grant that was given out, and callers who asked for it too, in the order of their tickets. -/
structure LooseTable.InOrder (l : LooseTable) (key : String) (h : Holder) (ws : List Waiter) :
    Prop where
  holder_key : h.request.key = key
  waiter_key : ∀ w ∈ ws, w.request.key = key
  deadline : h.expiresAt.isSome = l.leased
  granted : h.grant ≤ l.lastGrant
  ascending : ws.Pairwise fun v w => v.ticket < w.ticket
  drawn : ∀ w ∈ ws, w.ticket < l.nextTicket

namespace Table

variable {t : Table} {key : String}

/-! ## Entries of a table -/

/-- Writing an entry that has a holder is writing a slot. -/
theorem put_loose (t : Table) (key : String) (s : Slot) :
    t.loose.put key s.toEntry = { t with slots := t.slots.insert key s }.loose := by
  simp only [LooseTable.put, loose, KeyMap.map_insert]

/-- A table has nothing to take out. -/
theorem tidy_loose (t : Table) (key : String) : t.loose.tidy key = t.loose := by
  cases held : t.slots.get? key with
  | some s =>
    rw [LooseTable.tidy, entry_loose_of_slot held]
    rfl
  | none =>
    rw [LooseTable.tidy, entry_loose_of_no_slot held, if_pos (show ({} : Entry).isIdle from rfl)]
    change { t.loose with entries := (t.slots.map Slot.toEntry).erase key } = t.loose
    rw [← KeyMap.map_erase, KeyMap.erase_of_get? held]
    rfl

/-! ## Making a holder and passing a key on -/

/-- Making a holder writes him into the entry that is there, and keeps those who wait behind him. -/
theorem install_loose (t : Table) (key : String) (e : Entry) (r : Request) :
    t.loose.install key e r
      = ((t.install key r e.waiters).1, (t.install key r e.waiters).2.loose) := by
  refine Prod.ext rfl ?_
  have entries : (t.slots.insert key ⟨t.newHolder r, e.waiters⟩).map Slot.toEntry
      = (t.slots.map Slot.toEntry).insert key { e with holder := some (t.newHolder r) } :=
    KeyMap.map_insert _ _ _ _
  change (t.loose.install key e r).2
    = { t.loose with
        entries := (t.slots.insert key ⟨t.newHolder r, e.waiters⟩).map Slot.toEntry
        lastGrant := t.lastGrant + 1
        delays := t.scheduled key (t.newHolder r) }
  rw [entries]
  rfl

/-- Whoever stands in a queue is still there. -/
theorem listens_of_mem (q : t.Queued) {w : Waiter} (hw : w ∈ t.queue key) :
    t.loose.listens w.ticket = true := by
  obtain ⟨c, hc, -, rfl, -⟩ := q.exists_call_of_mem hw
  exact List.any_eq_true.2 ⟨c, hc, beq_self_eq_true _⟩

/-- **A grant ends.** What is left under the key is the first in its queue as the holder, or
nothing. -/
theorem vacate_loose {e : Entry} (there : ∀ w ∈ e.waiters, t.loose.listens w.ticket = true) :
    t.loose.vacate key e = ((t.handOn key e.waiters).1, (t.handOn key e.waiters).2.loose) := by
  cases waiting : e.waiters with
  | nil =>
    -- The entry stands there empty until it is looked at, and then it is taken out.
    have idle : ((t.loose.put key {}).entry key).isIdle = true := by
      rw [LooseTable.entry, LooseTable.put, KeyMap.get?_insert_self]
      rfl
    have after : (t.loose.put key {}).tidy key = (t.handOn key []).2.loose := by
      rw [LooseTable.tidy, if_pos idle]
      change { t.loose with entries := ((t.slots.map Slot.toEntry).insert key {}).erase key }
        = { t.loose with entries := (t.slots.erase key).map Slot.toEntry }
      rw [KeyMap.erase_insert, KeyMap.map_erase]
    rw [LooseTable.vacate, waiting, LooseTable.handOff]
    exact Prod.ext rfl after
  | cons w ws =>
    have first : t.loose.listens w.ticket = true := there w (waiting ▸ List.mem_cons_self)
    rw [LooseTable.vacate, waiting, LooseTable.handOff, if_pos first, install_loose]
    exact Prod.ext rfl (tidy_loose (t.handOn key (w :: ws)).2 key)

/-- A grant ends, by the slot of its key. -/
theorem vacate_loose_of_slot (q : t.Queued) {s : Slot} (held : t.slots.get? key = some s) :
    t.loose.vacate key s.toEntry = ((t.handOn key s.waiters).1, (t.handOn key s.waiters).2.loose) :=
  vacate_loose fun _ hw => listens_of_mem q (by rw [queue_of_slot held]; exact hw)

/-! ## Asking, giving back, taking away -/

/-- Asking comes to the same. A free key has an empty entry for as long as it takes to write the
holder into it. -/
theorem tryAcquire_loose (t : Table) (r : Request) :
    t.loose.tryAcquire r = ((t.tryAcquire r).1, (t.tryAcquire r).2.loose) := by
  cases held : t.slots.get? r.key with
  | none =>
    rw [LooseTable.tryAcquire, entry_loose_of_no_slot held, LooseTable.letIn, install_loose,
      tryAcquire_of_free held]
  | some s =>
    rw [LooseTable.tryAcquire, entry_loose_of_slot held]
    cases again : t.reentrant && s.holder.request.sameOwner r with
    | true =>
      rw [tryAcquire_of_own held again]
      refine (if_pos again).trans (Prod.ext rfl ?_)
      exact t.put_loose r.key { s with holder := { s.holder with holds := s.holder.holds + 1 } }
    | false =>
      rw [tryAcquire_of_busy held again]
      exact if_neg (Bool.eq_false_iff.1 again)

theorem release_loose (q : t.Queued) (r : Request) :
    t.loose.release r = ((t.release r).1, (t.release r).2.loose) := by
  rw [LooseTable.release, get?_loose]
  cases held : t.slots.get? r.key with
  | none =>
    rw [release_of_free held]
    rfl
  | some s =>
    cases own : s.holder.request.sameOwner r with
    | false =>
      rw [release_of_other held own]
      exact if_neg (Bool.eq_false_iff.1 own)
    | true =>
      refine (if_pos own).trans ?_
      cases keeps : t.reentrant && decide (1 < s.holder.holds) with
      | true =>
        rw [release_of_more held own keeps]
        refine (if_pos keeps).trans (Prod.ext rfl ?_)
        exact t.put_loose r.key { s with holder := { s.holder with holds := s.holder.holds - 1 } }
      | false =>
        rw [release_of_last held own keeps]
        refine (if_neg (Bool.eq_false_iff.1 keeps)).trans ?_
        rw [vacate_loose_of_slot q held]

theorem revoke_loose (q : t.Queued) (key : String) (grant : Nat) :
    t.loose.revoke key grant = ((t.revoke key grant).1, (t.revoke key grant).2.loose) := by
  rw [LooseTable.revoke, get?_loose, Table.revoke]
  cases held : t.slots.get? key with
  | none => rfl
  | some s =>
    by_cases mine : s.holder.grant = grant
    · dsimp only
      rw [if_pos mine]
      refine (if_pos mine).trans ?_
      rw [vacate_loose_of_slot q held]
    · dsimp only
      rw [if_neg mine]
      exact if_neg mine

theorem giveBack_loose (q : t.Queued) (key : String) (grant : Nat) :
    t.loose.giveBack key grant = ((t.giveBack key grant).1, (t.giveBack key grant).2.loose) := by
  rw [LooseTable.giveBack, get?_loose, Table.giveBack]
  cases held : t.slots.get? key with
  | none => rfl
  | some s =>
    by_cases mine : s.holder.grant = grant
    · dsimp only
      rw [if_pos mine]
      refine (if_pos mine).trans ?_
      -- The number is the holder's, and what counts is whether this is his last hold.
      by_cases more : 1 < s.holder.holds
      · rw [if_pos more, if_pos more]
        refine Prod.ext rfl ?_
        exact t.put_loose key { s with holder := { s.holder with holds := s.holder.holds - 1 } }
      · rw [if_neg more, if_neg more, vacate_loose_of_slot q held]
    · dsimp only
      rw [if_neg mine]
      exact if_neg mine

/-! ## Waiting and leaving -/

/-- Where all tickets are different, taking out the first place of a ticket takes out every
place it has. -/
theorem eraseP_ticket {ws : List Waiter} (order : ws.Pairwise fun a b => a.ticket < b.ticket)
    (n : Nat) : ws.eraseP (fun w => w.ticket == n) = ws.filter fun w => w.ticket != n := by
  induction ws with
  | nil => rfl
  | cons w ws ih =>
    obtain ⟨later, order⟩ := List.pairwise_cons.1 order
    by_cases mine : w.ticket = n
    · have others : ws.filter (fun v => v.ticket != n) = ws := by
        rw [List.filter_eq_self]
        intro v hv
        have lt := later v hv
        rw [bne_iff_ne]
        omega
      rw [List.eraseP_cons_of_pos (by simpa using mine),
        List.filter_cons_of_neg (by simpa using mine), others]
    · rw [List.eraseP_cons_of_neg (by simpa using mine),
        List.filter_cons_of_pos (by simpa using mine), ih order]

/-- Nothing changes if a call is forgotten after its key was passed on, and not before. -/
theorem handOn_forget (t : Table) (n : Nat) (key : String) (ws : List Waiter) :
    (t.forget n).handOn key ws = ((t.handOn key ws).1, (t.handOn key ws).2.forget n) := by
  cases ws with
  | nil => rfl
  | cons w ws =>
    -- Laying a grant ready changes no ticket.
    have calls : ∀ g : Grant, ((t.calls.map fun c =>
          if c.ticket = w.ticket then { c with permit := some g } else c).filter fun c =>
            c.ticket != n)
        = (t.calls.filter fun c => c.ticket != n).map fun c =>
          if c.ticket = w.ticket then { c with permit := some g } else c := by
      intro g
      rw [List.filter_map]
      refine congrArg _ (List.filter_congr fun c _ => ?_)
      rw [Function.comp_apply]
      split <;> rfl
    refine Prod.ext rfl ?_
    rw [handOn_cons, handOn_cons]
    simp only [deliver, install, forget, calls]
    rfl

/-- Giving back does not look at calls other than those in the queue of its key, so a call can be
forgotten before or after. -/
theorem giveBack_forget (t : Table) (n : Nat) (key : String) (grant : Nat) :
    (t.forget n).giveBack key grant
      = ((t.giveBack key grant).1, (t.giveBack key grant).2.forget n) := by
  have slots : (t.forget n).slots = t.slots := rfl
  unfold giveBack
  rw [slots]
  cases t.slots.get? key with
  | none => rfl
  | some s =>
    dsimp only
    by_cases mine : s.holder.grant = grant
    · rw [if_pos mine, if_pos mine]
      by_cases more : 1 < s.holder.holds
      · rw [if_pos more, if_pos more]
        rfl
      · rw [if_neg more, if_neg more, handOn_forget]
    · rw [if_neg mine, if_neg mine]

/-- A call without a grant has its place in the queue, which is taken out. -/
theorem abandon_loose_of_bare (q : t.Queued) {c : Call} (hc : c ∈ t.calls)
    (bare : c.permit = none) :
    t.loose.abandon c = (.left, (t.leave c.request.key c.ticket).loose) := by
  have place : c.toWaiter ∈ t.queue c.request.key :=
    q.mem_queue.2 ⟨mem_waitList.2 ⟨c, hc, bare, rfl⟩, rfl⟩
  have order : (t.queue c.request.key).Pairwise fun a b => a.ticket < b.ticket := by
    rw [q.queue_eq]
    exact q.waitList_ascending.sublist List.filter_sublist
  cases held : t.slots.get? c.request.key with
  -- Somebody waits, so there is a slot.
  | none =>
    rw [queue_of_no_slot held] at place
    cases place
  | some s =>
    rw [queue_of_slot held] at place order
    have found : s.toEntry.waiters.any (fun w => w.ticket == c.ticket) = true :=
      List.any_eq_true.2 ⟨_, place, beq_self_eq_true _⟩
    rw [LooseTable.abandon, entry_loose_of_slot held, leave, held]
    refine (if_pos found).trans (Prod.ext rfl ?_)
    refine (congrArg (fun ws => t.loose.put c.request.key ⟨some s.holder, ws⟩)
      (eraseP_ticket order c.ticket)).trans ?_
    exact t.put_loose c.request.key
      { s with waiters := s.waiters.filter fun w => w.ticket != c.ticket }

/-- A call with a grant stands in no queue, and the grant is given back. -/
theorem abandon_loose_of_ready (q : t.Queued) {c : Call} (hc : c ∈ t.calls) {g : Grant}
    (ready : c.permit = some g) :
    t.loose.abandon c = (.gaveBack (t.giveBack c.request.key g.id).1,
      (t.giveBack c.request.key g.id).2.loose) := by
  have waiters : (t.loose.entry c.request.key).waiters = t.queue c.request.key := by
    cases held : t.slots.get? c.request.key with
    | none => rw [entry_loose_of_no_slot held, queue_of_no_slot held]
    | some s => rw [entry_loose_of_slot held, queue_of_slot held]; rfl
  have gone :
      (t.loose.entry c.request.key).waiters.any (fun w => w.ticket == c.ticket) = false := by
    rw [waiters, List.any_eq_false]
    intro w hw
    simpa using q.ticket_ne_of_permit hc ready (q.mem_queue.1 hw).1
  rw [LooseTable.abandon]
  refine (if_neg (Bool.eq_false_iff.1 gone)).trans ?_
  rw [ready]
  dsimp only
  rw [giveBack_loose q]

/-- A call that is polled finds the same. If it was called off, it leaves as a departing call would.
-/
theorem poll_loose (q : t.Queued) (ticket : Nat) :
    t.loose.poll ticket = ((t.poll ticket).1, (t.poll ticket).2.loose) := by
  have known : t.loose.call? ticket = t.call? ticket := rfl
  rw [LooseTable.poll, Table.poll, known]
  cases found : t.call? ticket with
  | none => rfl
  | some c =>
    obtain ⟨hc, rfl⟩ := q.call?_eq_some_iff.1 found
    dsimp only
    cases bare : c.permit with
    | some g => rfl
    | none =>
      by_cases off : c.token ∈ t.cancelled
      · dsimp only
        rw [if_pos off]
        refine (if_pos off).trans ?_
        rw [abandon_loose_of_bare q hc bare]
        rfl
      · dsimp only
        rw [if_neg off]
        exact if_neg off

/-- A departing call does the same, though a loose table gives the grant back first and forgets the
call then. -/
theorem depart_loose (q : t.Queued) (ticket : Nat) :
    t.loose.depart ticket = ((t.depart ticket).1, (t.depart ticket).2.loose) := by
  have known : t.loose.call? ticket = t.call? ticket := rfl
  rw [LooseTable.depart, Table.depart, known]
  cases found : t.call? ticket with
  | none => rfl
  | some c =>
    obtain ⟨hc, rfl⟩ := q.call?_eq_some_iff.1 found
    dsimp only
    cases ready : c.permit with
    | none =>
      rw [abandon_loose_of_bare q hc ready]
      rfl
    | some g =>
      rw [abandon_loose_of_ready q hc ready]
      dsimp only
      -- The order of the two does not matter.
      rw [giveBack_forget]
      rfl

/-- A call that blocks stands behind the others in the entry of a holder. -/
theorem enqueue_loose {r : Request} {s : Slot} (held : t.slots.get? r.key = some s)
    (token : String) : t.loose.enqueue token r = (t.enqueue token r).loose := by
  have entries := t.put_loose r.key ⟨s.holder, s.waiters ++ [Waiter.mk t.nextTicket r]⟩
  rw [LooseTable.enqueue, entry_loose_of_slot held, enqueue, join, held]
  exact congrArg (fun l : LooseTable => { l with
    nextTicket := t.nextTicket + 1
    calls := t.calls ++ [Call.mk t.nextTicket token r none] }) entries

/-- A call that may wait comes to the same, through its first poll. -/
theorem acquire_loose (q : t.Queued) (token : String) (r : Request) :
    t.loose.acquire token r = ((t.acquire token r).1, (t.acquire token r).2.loose) := by
  have asked : t.loose.letIn r.key (t.loose.entry r.key) r
      = ((t.tryAcquire r).1, (t.tryAcquire r).2.loose) := t.tryAcquire_loose r
  rw [LooseTable.acquire, asked, acquire]
  cases held : t.slots.get? r.key with
  | none => rw [tryAcquire_of_free held]
  | some s =>
    cases again : t.reentrant && s.holder.request.sameOwner r with
    | true => rw [tryAcquire_of_own held again]
    | false =>
      rw [tryAcquire_of_busy held again]
      -- It has blocked and is polled at once, in a loose table like in the other.
      dsimp only
      have polled : (t.enqueue token r).loose.poll t.loose.nextTicket
          = (((t.enqueue token r).poll t.nextTicket).1,
            ((t.enqueue token r).poll t.nextTicket).2.loose) :=
        poll_loose (q.enqueue held token) t.nextTicket
      rw [enqueue_loose held, await, polled]
      cases (t.enqueue token r).poll t.nextTicket with
      | mk p u => cases p <;> rfl

/-! ## Steps and runs -/

theorem reap_loose (q : t.Queued) : t.loose.reap = (t.reap.1, t.reap.2.loose) := by
  rw [LooseTable.reap, Table.reap]
  by_cases running : t.reaper = .running
  · refine (if_pos running).trans ?_
    have popped : t.loose.delays.popDue t.loose.now = t.delays.popDue t.now := rfl
    rw [if_pos running, popped]
    cases t.delays.popDue t.now with
    | none => rfl
    | some p =>
      obtain ⟨record, rest⟩ := p
      have drained : { t with delays := rest }.Queued := q.congr (fun _ => rfl) rfl rfl
      have revoked : { t.loose with delays := rest }.revoke record.key record.grant
          = (({ t with delays := rest }.revoke record.key record.grant).1,
            ({ t with delays := rest }.revoke record.key record.grant).2.loose) :=
        revoke_loose drained record.key record.grant
      dsimp only
      rw [revoked]
      cases ({ t with delays := rest } : Table).revoke record.key record.grant with
      | mk v u => cases v <;> rfl
  · refine (if_neg running).trans ?_
    rw [if_neg running]

/-- **One step** of a loose table comes to the same as that of a table. -/
theorem step_loose (q : t.Queued) (e : Event) :
    t.loose.step e = ((t.step e).1, (t.step e).2.loose) := by
  cases e with
  | tryAcquire r => rw [LooseTable.step, tryAcquire_loose]; rfl
  | acquire token r => rw [LooseTable.step, acquire_loose q]; rfl
  | poll ticket => rw [LooseTable.step, poll_loose q]; rfl
  | depart ticket => rw [LooseTable.step, depart_loose q]; rfl
  | cancel token =>
    refine Prod.ext rfl ?_
    change (if token ∈ t.cancelled then _ else _) = (t.cancel token).loose
    unfold cancel
    split <;> rfl
  | release r => rw [LooseTable.step, release_loose q]; rfl
  | revoke key grant => rw [LooseTable.step, revoke_loose q]; rfl
  | reap => rw [LooseTable.step, reap_loose q]; rfl
  | tick ns => rfl
  | stopReaper =>
    refine Prod.ext rfl ?_
    change (if t.reaper = .running then _ else _) = t.stopReaper.loose
    unfold stopReaper
    split <;> rfl

/-- **A run** of a loose table comes to the same as that of a table. -/
theorem run_loose (s : t.Sound) (es : List Event) :
    t.loose.run es = (t.run es).loose
      ∧ t.loose.outcomes es = (t.history es).map Moment.outcome := by
  induction es generalizing t with
  | nil => exact ⟨rfl, rfl⟩
  | cons e es ih =>
    obtain ⟨after, outcomes⟩ := ih (s.way (step_way s.toQueued e))
    rw [LooseTable.run, LooseTable.outcomes, step_loose s.toQueued e]
    exact ⟨after, congrArg ((t.step e).1 :: ·) outcomes⟩

/-! ## Looking at a loose table -/

theorem owner?_loose (t : Table) (key : String) : t.loose.owner? key = t.owner? key := by
  rw [LooseTable.owner?, LooseTable.holder?, get?_loose, owner?, holder?]
  cases t.slots.get? key <;> rfl

theorem isLocked_loose (t : Table) (key : String) : t.loose.isLocked key = t.isLocked key := by
  rw [LooseTable.isLocked, get?_loose, isLocked, holder?]
  cases t.slots.get? key <;> rfl

theorem waiting_loose (t : Table) (key : String) : t.loose.waiting key = t.waiting key := by
  rw [LooseTable.waiting, get?_loose, waiting, queue]
  cases t.slots.get? key <;> rfl

theorem trackedKeys_loose (t : Table) : t.loose.trackedKeys = t.trackedKeys := List.length_map _

/-- Nothing is left out of a listing, as every entry has a holder. -/
theorem snapshot_loose (t : Table) : t.loose.snapshot = t.snapshot := by
  rw [LooseTable.snapshot, snapshot, ← List.filterMap_eq_map]
  exact List.filterMap_map

/-- **A listing shows a key once if it is held**, and not at all if it is not. -/
theorem count_snapshot (t : Table) (key : String) :
    (t.snapshot.map HeldKey.key).count key = (t.isLocked key).toNat := by
  have shown : (t.snapshot.map HeldKey.key).count key
      = (t.slots.entries.filter fun e => e.1 = key).length := by
    rw [snapshot, List.map_map, List.count_eq_countP, List.countP_map, List.countP_eq_length_filter]
    rfl
  rw [shown, KeyMap.filter_entries, isLocked, holder?]
  cases t.slots.get? key <;> rfl

/-! ## What is kept under a key -/

/-- What is known of the slot of a key is known of its entry. -/
theorem Sound.inOrder (s : t.Sound) {h : Holder} (held : t.holder? key = some h) :
    t.loose.InOrder key h (t.queue key) where
  holder_key := s.holder_key key h held
  waiter_key _ hw := (s.mem_queue.1 hw).2
  deadline := by
    rw [s.expiry_eq key h held]
    change _ = t.leased
    cases t.leased <;> rfl
  granted := s.grant_le key h held
  ascending := by
    rw [s.queue_eq]
    exact s.waitList_ascending.sublist List.filter_sublist
  drawn w hw := by
    obtain ⟨c, hc, -, rfl, -⟩ := s.exists_call_of_mem hw
    exact s.ticket_lt c hc

/-- Nobody stands in two queues: a ticket belongs to one call, and a call is for one key. -/
theorem Queued.queues_apart (q : t.Queued) {key' : String} (other : key ≠ key') {v w : Waiter}
    (hv : v ∈ t.queue key) (hw : w ∈ t.queue key') : v.ticket ≠ w.ticket := by
  obtain ⟨c, hc, -, rfl, mine⟩ := q.exists_call_of_mem hv
  refine (q.ticket_ne_of_key_ne hc (q.mem_queue.1 hw).1 ?_).symm
  rw [(q.mem_queue.1 hw).2, mine]
  exact other.symm

/-- An entry of a table is a holder and the queue behind him. -/
theorem entry_of_get? {e : Entry} (found : t.loose.entries.get? key = some e) :
    ∃ h, t.holder? key = some h ∧ e = ⟨some h, t.queue key⟩ := by
  -- Every entry of a table comes from a slot, and slots have holders.
  rw [get?_loose, Option.map_eq_some_iff] at found
  obtain ⟨slot, held, rfl⟩ := found
  refine ⟨slot.holder, holder?_of_slot held, ?_⟩
  rw [queue_of_slot held]
  rfl

/-- **No entry is left behind.** A loose table goes through every run exactly as a table on
slots does, and answers the same. Between any two operations every entry has a holder, it and
the queue behind it are in order, and as long as no count of holds has reached its limit there
is one hold at least, and no more than one unless keys can be taken again. No ticket stands in
two queues and no two keys are held under one grant. So there are as many entries as held
keys are listed, and for each key it is the same whether it is locked, whether it has an owner,
and whether it is listed, which it is once; and a key that somebody waits for is locked. -/
theorem no_entry_is_left_behind (kind : LockKind) (leased : Bool) (reaper : Reaper)
    (horizon : Horizon) (es : List Event) :
    let l := (LooseTable.opening kind leased reaper horizon).run es
    let ms := (opening kind leased reaper horizon).history es
    (l = ((opening kind leased reaper horizon).run es).loose
        ∧ (LooseTable.opening kind leased reaper horizon).outcomes es = ms.map Moment.outcome)
      ∧ (l.kind = kind ∧ l.leased = leased)
      ∧ (∀ key e, l.entries.get? key = some e →
          ∃ h, e.holder = some h ∧ l.InOrder key h e.waiters
            ∧ ((∀ m ∈ ms, m.table.Unsaturated) →
              1 ≤ h.holds.toNat ∧ (l.reentrant = false → h.holds.toNat = 1)))
      ∧ (∀ key key' e e', key ≠ key' → l.entries.get? key = some e →
          l.entries.get? key' = some e' →
          (∀ v ∈ e.waiters, ∀ w ∈ e'.waiters, v.ticket ≠ w.ticket)
            ∧ ∀ h h', e.holder = some h → e'.holder = some h' → h.grant ≠ h'.grant)
      ∧ l.trackedKeys = l.snapshot.length
      ∧ ∀ key, (l.isLocked key = true ↔ (l.owner? key).isSome = true)
          ∧ (l.snapshot.map HeldKey.key).count key = (l.isLocked key).toNat
          ∧ (0 < l.waiting key → l.isLocked key = true) := by
  intro l ms
  have s : ((opening kind leased reaper horizon).run es).Sound := sound_run es
  have same : l = ((opening kind leased reaper horizon).run es).loose
      ∧ (LooseTable.opening kind leased reaper horizon).outcomes es = ms.map Moment.outcome :=
    run_loose (sound_opening kind leased reaper horizon) es
  have kinds : ((opening kind leased reaper horizon).run es).kind = kind := kind_run es
  have leases : ((opening kind leased reaper horizon).run es).leased = leased := leased_run es
  have balance : (∀ m ∈ ms, m.table.Unsaturated) →
      Balanced ms ((opening kind leased reaper horizon).run es) := balanced_run es
  refine ⟨same, ?_⟩
  rw [same.1]
  -- What follows is true of every sound table, and of holds as the run has counted them.
  generalize (opening kind leased reaper horizon).run es = t at s kinds leases balance
  refine ⟨⟨kinds, leases⟩, ?_, ?_, ?_, ?_⟩
  · intro key e found
    obtain ⟨h, held, rfl⟩ := entry_of_get? found
    refine ⟨h, rfl, s.inOrder held, fun room => ?_⟩
    exact ⟨(balance room).pos key h held, fun one => (balance room).single one key h held⟩
  · intro key key' e e' other found found'
    obtain ⟨h, held, rfl⟩ := entry_of_get? found
    obtain ⟨h', held', rfl⟩ := entry_of_get? found'
    refine ⟨fun v hv w hw => s.queues_apart other hv hw, ?_⟩
    rintro _ _ ⟨⟩ ⟨⟩ number
    exact other (s.grant_inj key key' h h' held held' number)
  · rw [trackedKeys_loose, snapshot_loose, length_snapshot]
  · intro key
    rw [isLocked_loose, owner?_loose, snapshot_loose, waiting_loose]
    refine ⟨?_, t.count_snapshot key, t.isLocked_of_waiting_pos key⟩
    rw [isLocked, owner?, Option.isSome_map]

end Table

end KeyedLocks
