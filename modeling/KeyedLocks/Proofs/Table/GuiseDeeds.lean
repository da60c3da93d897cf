/-
What is done to a table in a guise.

Every operation on a table in a guise comes to what the operation comes to, in the same guise.
So does a step of the reaper, and so does settling: the queues that are shown may be shorter,
but they end where nothing is due, and it does not matter how many steps were allowed
(`settle_table`). Whatever is done to the table, `perform_table` says so of it.

The hidden call must be handed no grant. It is enough to know that at the end: a grant that is
laid ready stays there while the reaper goes on (`Calm.before_reap`).
-/
import KeyedLocks.Proofs.Table.Guise

set_option autoImplicit false

namespace KeyedLocks

namespace Table

variable {t : Table}

/-- **A deed is a run** of single steps. -/
theorem exists_run_perform (t : Table) (d : Deed) : ∃ es, (t.perform d).2 = t.run es := by
  cases d with
  | event e => exact ⟨[e], rfl⟩
  | tryLock r => exact ⟨[.tryAcquire r], t.tryLock_snd r⟩
  | lock token r => exact ⟨[.acquire token r], t.lock_snd token r⟩
  | unlock r => exact ⟨[.release r], t.unlock_snd r⟩
  | pollLock n => exact ⟨[.poll n], t.pollLock_snd n⟩
  | settle =>
    obtain ⟨n, same⟩ := exists_run_settle t
    exact ⟨_, same⟩
  | advance ms => exact exists_run_advance t ms

theorem Sound.perform (s : t.Sound) (d : Deed) : (t.perform d).2.Sound := by
  obtain ⟨es, same⟩ := t.exists_run_perform d
  rw [same]
  exact s.run es

/-- Whether grants have deadlines is fixed for good when a table is made. -/
theorem Sound.leased_perform (s : t.Sound) (d : Deed) : (t.perform d).2.leased = t.leased := by
  obtain ⟨es, same⟩ := t.exists_run_perform d
  rw [same]
  clear same
  induction es generalizing t with
  | nil => rfl
  | cons e es ih =>
    have way := step_way s.toQueued e
    exact (ih (s.way way)).trans way.settings.2.1

end Table

namespace Guise

variable {g : Guise}

/-! ## Operations -/

section Operations

variable {t : Table}

/-- Asking for a key is answered alike, as it turns on the holder's owner and on nothing that is
hidden. -/
theorem tryAcquire_table (fits : g.Fits t) (r : Request) :
    (g.table t).tryAcquire (g.request r) = ((t.tryAcquire r).1, g.table (t.tryAcquire r).2) := by
  cases held : t.slots.get? r.key with
  | none =>
    have made := install_table fits r.key r []
    rw [Table.tryAcquire_of_free (no_slot_asked held), Table.tryAcquire_of_free held,
      g.key_request]
    exact congrArg (fun p : Grant × Table => (Admission.granted p.1, p.2)) made
  | some s =>
    have held' := slot_asked (g := g) held
    have may := g.again_table t s r
    -- The owner is all that is asked of the holder, and it is shown as it is.
    cases again : t.reentrant && s.holder.request.sameOwner r with
    | true =>
      have more := g.setHolds_table t r.key s (s.holder.holds + 1)
      rw [Table.tryAcquire_of_own held' (may.trans again), Table.tryAcquire_of_own held again,
        g.key_request]
      refine Prod.ext ?_ more
      exact congrArg (fun p : Grant => Admission.reentered { p with holds := s.holder.holds + 1 })
        (toGrant_holder s.holder)
    | false =>
      rw [Table.tryAcquire_of_busy held' (may.trans again), Table.tryAcquire_of_busy held again]
      exact congrArg (fun o => (Admission.busy o, g.table t)) (g.owner_request _)

/-- Giving a key back is answered alike, if the key does not go to the hidden call. -/
theorem release_table (fits : g.Fits t) (q : t.Queued) {r : Request}
    (calm : g.Calm (t.release r).2) :
    (g.table t).release (g.request r) = ((t.release r).1, g.table (t.release r).2) := by
  cases held : t.slots.get? r.key with
  | none =>
    rw [Table.release_of_free (no_slot_asked held), Table.release_of_free held]
  | some s =>
    have held' := slot_asked (g := g) held
    have asked : (g.slot s).holder.request.sameOwner (g.request r) = s.holder.request.sameOwner r :=
      sameOwner_request _ _
    cases own : s.holder.request.sameOwner r with
    | false =>
      rw [Table.release_of_other held' (asked.trans own), Table.release_of_other held own]
      exact congrArg (fun o => (Release.notHeld (some o), g.table t)) (g.owner_request _)
    | true =>
      cases keeps : t.reentrant && decide (1 < s.holder.holds) with
      | true =>
        have fewer := g.setHolds_table t r.key s (s.holder.holds - 1)
        rw [Table.release_of_more held' (asked.trans own) keeps,
          Table.release_of_more held own keeps, g.key_request]
        exact Prod.ext rfl fewer
      | false =>
        rw [Table.release_of_last held own keeps] at calm
        -- The key is passed on: here it counts that the first in the queue is shown.
        have passed := handOn_table fits r.key (first_shown q held calm)
        rw [Table.release_of_last held' (asked.trans own) keeps,
          Table.release_of_last held own keeps, g.key_request]
        exact congrArg (fun p : Option Grant × Table =>
          (Release.released s.holder.grant p.1, p.2)) passed

theorem revoke_table (fits : g.Fits t) (q : t.Queued) {key : String} {grant : Nat}
    (calm : g.Calm (t.revoke key grant).2) :
    (g.table t).revoke key grant = ((t.revoke key grant).1, g.table (t.revoke key grant).2) := by
  by_cases mine : t.grant? key = some grant
  · obtain ⟨h, held, number⟩ := Table.exists_holder_of_grant mine
    have slot := Table.slot_of_holder held
    rw [Table.revoke_of_holder slot number] at calm
    have passed := handOn_table fits key (first_shown q slot calm)
    rw [Table.revoke_of_holder (slot_table slot) number, Table.revoke_of_holder slot number]
    refine (congrArg (fun p : Option Grant × Table =>
      (some (Revoked.mk (g.request h.request).owner p.1), p.2)) passed).trans ?_
    rw [g.owner_request]
  · rw [Table.revoke_of_other mine, Table.revoke_of_other (by rw [grant?_table]; exact mine)]

/-- A grant that comes back from a call is taken alike, with the same three answers: late, kept, or
returned. -/
theorem giveBack_table (fits : g.Fits t) (q : t.Queued) {key : String} {grant : Nat}
    (calm : g.Calm (t.giveBack key grant).2) :
    (g.table t).giveBack key grant
      = ((t.giveBack key grant).1, g.table (t.giveBack key grant).2) := by
  by_cases mine : t.grant? key = some grant
  · obtain ⟨h, held, number⟩ := Table.exists_holder_of_grant mine
    have slot := Table.slot_of_holder held
    by_cases more : 1 < h.holds
    · have fewer := g.setHolds_table t key ⟨h, t.queue key⟩ (h.holds - 1)
      rw [Table.giveBack_of_more (slot_table slot) number more,
        Table.giveBack_of_more slot number more]
      exact Prod.ext rfl fewer
    · rw [Table.giveBack_of_last slot number more] at calm
      have passed := handOn_table fits key (first_shown q slot calm)
      rw [Table.giveBack_of_last (slot_table slot) number more,
        Table.giveBack_of_last slot number more]
      exact congrArg (fun p : Option Grant × Table => (GiveBack.returned grant p.1, p.2)) passed
  · rw [Table.giveBack_of_late mine, Table.giveBack_of_late (by rw [grant?_table]; exact mine)]

/-! ## Calls -/

/-- A call that is shown finds in its channel what it found before. -/
theorem poll_table {n : Nat} (shown : g.shows n = true) :
    (g.table t).poll (g.number n) = ((t.poll n).1, g.table (t.poll n).2) := by
  have call := call?_table (t := t) shown
  cases found : t.call? n with
  | none =>
    rw [found] at call
    rw [Table.poll_of_unknown call, Table.poll_of_unknown found]
  | some c =>
    rw [found] at call
    cases ready : c.permit with
    | some p =>
      rw [Table.poll_of_permit call ready, Table.poll_of_permit found ready, forget_table shown]
    | none =>
      -- The list of tokens is the same on both sides, and with it which call was called off.
      by_cases off : c.token ∈ t.cancelled
      · rw [Table.poll_of_cancelled call ready off, Table.poll_of_cancelled found ready off,
          key_call, leave_table shown, forget_table shown]
      · rw [Table.poll_of_pending call ready off, Table.poll_of_pending found ready off]

/-- A call that is shown departs alike, whether or not a grant lies ready for it. -/
theorem depart_table (fits : g.Fits t) (q : t.Queued) {n : Nat} (shown : g.shows n = true)
    (calm : g.Calm (t.depart n).2) :
    (g.table t).depart (g.number n) = ((t.depart n).1, g.table (t.depart n).2) := by
  have call := call?_table (t := t) shown
  cases found : t.call? n with
  | none =>
    rw [found] at call
    rw [Table.depart_of_unknown call, Table.depart_of_unknown found]
  | some c =>
    obtain ⟨hc, rfl⟩ := q.call?_eq_some_iff.1 found
    rw [found] at call
    cases ready : c.permit with
    | none =>
      rw [Table.depart_of_bare call ready, Table.depart_of_bare found ready, key_call,
        leave_table shown, forget_table shown]
    | some p =>
      rw [Table.depart_of_permit found ready] at calm
      have back := giveBack_table (t := t.forget c.ticket) fits (q.forget hc ready) calm
      rw [Table.depart_of_permit call ready, Table.depart_of_permit found ready, key_call,
        forget_table shown, back]

/-- A call that comes draws its ticket alike, if the ticket that is next is shown or no ticket is
drawn. -/
theorem acquire_table (fits : g.Fits t) (q : t.Queued) {token : String} {r : Request}
    (shown : (t.acquire token r).2.nextTicket ≠ t.nextTicket → g.shows t.nextTicket = true) :
    (g.table t).acquire token (g.request r)
      = (g.acquisition (t.acquire token r).1, g.table (t.acquire token r).2) := by
  have asked := tryAcquire_table fits r
  cases held : t.slots.get? r.key with
  | none =>
    rw [Table.tryAcquire_of_free held] at asked
    rw [Table.acquire, asked, Table.acquire, Table.tryAcquire_of_free held]
    rfl
  | some s =>
    cases again : t.reentrant && s.holder.request.sameOwner r with
    | true =>
      rw [Table.tryAcquire_of_own held again] at asked
      rw [Table.acquire, asked, Table.acquire, Table.tryAcquire_of_own held again]
      rfl
    | false =>
      have may := g.again_table t s r
      rw [Table.acquire_of_busy q held again] at shown ⊢
      rw [Table.acquire_of_busy (queued_table q) (slot_asked held) (may.trans again)]
      by_cases off : token ∈ t.cancelled
      -- Who was called off beforehand draws a ticket all the same.
      · rw [if_pos off] at shown
        have drawn := number_succ (shown (Nat.succ_ne_self _))
        rw [if_pos off, g.key_request]
        refine (if_pos off).trans (Prod.ext rfl ?_)
        simp only [table, drawn]
      · rw [if_neg off] at shown
        have next : (t.enqueue token r).nextTicket ≠ t.nextTicket := by
          obtain ⟨slots, eq⟩ := t.enqueue_eq token r
          rw [eq]
          exact Nat.succ_ne_self _
        rw [if_neg off]
        refine (if_neg off).trans (Prod.ext rfl ?_)
        exact enqueue_table held (shown next) token

/-! ## Steps -/

/-- The reaper takes the same record in both tables, since no record is hidden. -/
theorem reap_table (fits : g.Fits t) (q : t.Queued) (calm : g.Calm t.reap.2) :
    (g.table t).reap = (t.reap.1, g.table t.reap.2) := by
  by_cases running : t.reaper = .running
  · cases popped : t.delays.popDue t.now with
    | none => rw [Table.reap_of_none_due popped, Table.reap_of_none_due (t := g.table t) popped]
    | some p =>
      obtain ⟨record, rest⟩ := p
      -- The reaper drops its record before it looks at the holder.
      have drained : { t with delays := rest }.Queued := q.congr (fun _ => rfl) rfl rfl
      rw [Table.reap_of_popped running popped] at calm
      have revoked := revoke_table (t := { t with delays := rest }) fits drained calm
      rw [Table.reap_of_popped running popped,
        Table.reap_of_popped (t := g.table t) running popped]
      exact congrArg (fun p : Option Revoked × Table =>
        (p.1.elim (Reaped.stale record) (Reaped.revoked record), p.2)) revoked
  · rw [Table.reap_of_not_running running]
    exact Table.reap_of_not_running (t := g.table t) running

/-- **One step** in a guise comes to what the step comes to. -/
theorem step_table (fits : g.Fits t) (q : t.Queued) {e : Event} (calm : g.Calm (t.step e).2)
    (shown : ∀ n ∈ t.about? (.event e), g.shows n = true) :
    (g.table t).step (g.event e) = (g.outcome (t.step e).1, g.table (t.step e).2) := by
  cases e with
  | tryAcquire r =>
    exact congrArg (Prod.map Outcome.admission id) (tryAcquire_table fits r)
  | acquire token r =>
    -- Only a call that draws a ticket has one to show.
    have drawn : (t.acquire token r).2.nextTicket ≠ t.nextTicket → g.shows t.nextTicket = true := by
      intro next
      exact shown _ (if_neg next)
    exact congrArg (Prod.map Outcome.acquisition id) (acquire_table fits q drawn)
  | poll n => exact congrArg (Prod.map Outcome.progress id) (poll_table (shown n rfl))
  | depart n =>
    exact congrArg (Prod.map Outcome.departure id) (depart_table fits q (shown n rfl) calm)
  | cancel token =>
    refine Prod.ext rfl ?_
    change (g.table t).cancel token = g.table (t.cancel token)
    unfold Table.cancel
    by_cases off : token ∈ t.cancelled
    · rw [if_pos off]
      exact if_pos off
    · rw [if_neg off]
      exact if_neg off
  | release r => exact congrArg (Prod.map Outcome.release id) (release_table fits q calm)
  | revoke key grant => exact congrArg (Prod.map Outcome.revocation id) (revoke_table fits q calm)
  | reap => exact congrArg (Prod.map Outcome.reaped id) (reap_table fits q calm)
  | tick ns => rfl
  | stopReaper =>
    refine Prod.ext rfl ?_
    change (g.table t).stopReaper = g.table t.stopReaper
    unfold Table.stopReaper
    by_cases running : t.reaper = .running
    · rw [if_pos running]
      exact if_pos running
    · rw [if_neg running]
      exact if_neg running

/-! ## Settling, and time that passes -/

/-- What lies ready for a call still lies there after a step of the reaper. -/
theorem served_reap (q : t.Queued) {n : Nat} (served : t.served n = true) :
    t.reap.2.served n = true := by
  obtain ⟨c, hc, mine⟩ := List.any_eq_true.1 served
  have calls := (Table.way_reap t).calls q
  refine List.any_eq_true.2 ⟨c.take (t.publishes? .reap (.reaped t.reap.1)), ?_, ?_⟩
  · rw [calls]
    refine List.mem_append_left _ (List.mem_map_of_mem (List.mem_filter.2 ⟨hc, rfl⟩))
  · rw [Bool.and_eq_true] at mine ⊢
    refine ⟨mine.1, ?_⟩
    rw [Call.take, Option.isSome_or, mine.2, Bool.or_true]

/-- A grant that lies ready for the hidden call before the reaper's turn is still there afterwards.
-/
theorem Calm.before_reap (q : t.Queued) (calm : g.Calm t.reap.2) : g.Calm t := by
  intro n hidden
  by_contra served
  have later := served_reap q (Bool.eq_true_of_not_eq_false served)
  rw [calm n hidden] at later
  cases later

/-- Whether a guise fits a table is seen from the requests in it, so it still fits when they are the
same. -/
theorem Fits.of_scene (fits : g.Fits t) {u : Table} (scene : u.scene = t.scene) : g.Fits u := by
  intro leased
  exact fits ((congrArg Scene.leased scene).symm.trans leased)

theorem isDue_table (g : Guise) (t : Table) : (g.table t).isDue = t.isDue := rfl

/-- Several turns of the reaper come to the same. Calm is asked for at the end and found to have
been there at the beginning, because a grant that is laid ready stays until its call fetches it. -/
theorem reapUpTo_table {n : Nat} (fits : g.Fits t) (s : t.Sound)
    (calm : g.Calm (Table.reapUpTo n t)) :
    Table.reapUpTo n (g.table t) = g.table (Table.reapUpTo n t) ∧ g.Calm t := by
  induction n generalizing t with
  | zero => exact ⟨rfl, calm⟩
  | succ n ih =>
    unfold Table.reapUpTo at calm ⊢
    rw [isDue_table]
    cases due : t.isDue with
    | false =>
      rw [due] at calm
      exact ⟨rfl, calm⟩
    | true =>
      rw [due] at calm
      rw [if_pos rfl, if_pos rfl]
      -- That the table is calm is known of the end, and comes back from there step by step.
      have after : t.reap.2.Sound := s.way (Table.way_reap t)
      obtain ⟨same, calm⟩ := ih (fits.of_scene t.scene_reap) after calm
      rw [reap_table fits s.toQueued calm, same]
      exact ⟨rfl, calm.before_reap s.toQueued⟩

/-- **Settling** in a guise. The queues that are shown may be shorter, but steps to spare change
nothing. -/
theorem settle_table (fits : g.Fits t) (s : t.Sound) (calm : g.Calm t.settle) :
    (g.table t).settle = g.table t.settle ∧ g.Calm t := by
  -- Both are allowed as many steps as the one that needs more of them.
  have left : t.backlog ≤ max t.backlog (g.table t).backlog := Nat.le_max_left _ _
  have right : (g.table t).backlog ≤ max t.backlog (g.table t).backlog := Nat.le_max_right _ _
  rw [← Table.reapUpTo_eq_settle left] at calm ⊢
  rw [← Table.reapUpTo_eq_settle right]
  exact reapUpTo_table fits s calm

theorem pace_table (fits : g.Fits t) (s : t.Sound) (calm : g.Calm t.pace) :
    (g.table t).pace = g.table t.pace ∧ g.Calm t :=
  settle_table (t := t.tick millisecond) fits (s.run [.tick millisecond]) calm

theorem pace_iterate_table {n : Nat} (fits : g.Fits t) (s : t.Sound)
    (calm : g.Calm (Table.pace^[n] t)) :
    Table.pace^[n] (g.table t) = g.table (Table.pace^[n] t) ∧ g.Calm t := by
  induction n generalizing t with
  | zero => exact ⟨rfl, calm⟩
  | succ n ih =>
    rw [Function.iterate_succ_apply] at calm ⊢
    have paced : t.pace.Sound := (s.run [.tick millisecond]).settle
    have leases : g.Fits t.pace :=
      Fits.of_scene (t := t.tick millisecond) fits (Table.scene_settle _)
    -- Calm is known at the end only, so it is carried backwards as the tables are carried forwards.
    obtain ⟨same, later⟩ := ih leases paced calm
    obtain ⟨now, before⟩ := pace_table fits s later
    rw [Function.iterate_succ_apply, now]
    exact ⟨same, before⟩

/-- **Time that passes** in a guise. -/
theorem advance_table {ms : Nat} (fits : g.Fits t) (s : t.Sound) (calm : g.Calm (t.advance ms)) :
    (g.table t).advance ms = g.table (t.advance ms) := by
  rw [Table.advance_eq_pace] at calm
  rw [Table.advance_eq_pace, Table.advance_eq_pace]
  obtain ⟨same, before⟩ := pace_iterate_table (fits.of_scene t.scene_settle) s.settle calm
  rw [(settle_table fits s before).1, same]

/-! ## Requests and responses -/

/-- A response of success repeats what the request said of itself, and a guise may alter that. -/
theorem succeeded_request (g : Guise) (r : Request) (op : Operation) :
    Response.succeeded (g.request r) op = g.response (.succeeded r op) := by
  rw [Response.succeeded, g.key_request, g.identity_request]
  rfl

theorem failed_request (g : Guise) (r : Request) (op : Operation) (cause : Cause) :
    Response.failed (g.request r) op cause = g.response (.failed r op cause) := by
  rw [Response.failed, g.key_request, g.identity_request]
  rfl

theorem tryLock_table (fits : g.Fits t) (r : Request) :
    (g.table t).tryLock (g.request r) = (g.response (t.tryLock r).1, g.table (t.tryLock r).2) := by
  rw [Table.tryLock, tryAcquire_table fits, Table.tryLock]
  rcases t.tryAcquire r with ⟨⟨⟩ | ⟨⟩ | ⟨⟩, u⟩
  · rw [succeeded_request]
  · rw [succeeded_request]
  · rw [failed_request]

theorem unlock_table (fits : g.Fits t) (q : t.Queued) {r : Request} (calm : g.Calm (t.unlock r).2) :
    (g.table t).unlock (g.request r) = (g.response (t.unlock r).1, g.table (t.unlock r).2) := by
  rw [Table.unlock_snd] at calm
  rw [Table.unlock, release_table fits q calm, Table.unlock]
  rcases t.release r with ⟨⟨⟩ | ⟨⟩ | ⟨⟩, u⟩
  · rw [succeeded_request]
  · rw [succeeded_request]
  · exact congrArg (fun p => (p, _)) (g.failed_request r .unlock u.staleCause)

theorem lock_table (fits : g.Fits t) (q : t.Queued) {token : String} {r : Request}
    (shown : (t.lock token r).2.nextTicket ≠ t.nextTicket → g.shows t.nextTicket = true) :
    (g.table t).lock token (g.request r)
      = (g.progress (t.lock token r).1, g.table (t.lock token r).2) := by
  rw [Table.lock_snd] at shown
  rw [Table.lock, acquire_table fits q shown, Table.lock]
  rcases t.acquire token r with ⟨⟨⟩ | ⟨⟩ | ⟨⟩ | ⟨⟩, u⟩
  · exact congrArg (fun p => (LockProgress.answered p, _)) (g.succeeded_request r .lock)
  · exact congrArg (fun p => (LockProgress.answered p, _)) (g.succeeded_request r .lock)
  · rfl
  · rfl

/-- Looking after a call that waits is answered alike. The response is made from the request that
the call came with, not from one that is sent again. -/
theorem pollLock_table {n : Nat} (shown : g.shows n = true) :
    (g.table t).pollLock (g.number n)
      = (g.progress (t.pollLock n).1, g.table (t.pollLock n).2) := by
  have call := call?_table (t := t) shown
  rw [Table.pollLock, call, poll_table shown, Table.pollLock]
  cases t.call? n with
  | none => rfl
  | some c =>
    rcases t.poll n with ⟨⟨⟩ | ⟨⟩ | ⟨⟩ | ⟨⟩, u⟩
    · exact congrArg (fun p => (LockProgress.answered p, _)) (g.succeeded_request c.request .lock)
    · rfl
    · rfl
    · rfl

/-- **A deed** in a guise comes to what the deed comes to, in the same guise. -/
theorem perform_table (fits : g.Fits t) (s : t.Sound) {d : Deed} (calm : g.Calm (t.perform d).2)
    (shown : ∀ n ∈ t.about? d, g.shows n = true) :
    (g.table t).perform (g.deed d) = (g.reply (t.perform d).1, g.table (t.perform d).2) := by
  cases d with
  | event e => exact congrArg (Prod.map Reply.outcome id) (step_table fits s.toQueued calm shown)
  | tryLock r => exact congrArg (Prod.map Reply.response id) (tryLock_table fits r)
  | lock token r =>
    have drawn : (t.lock token r).2.nextTicket ≠ t.nextTicket → g.shows t.nextTicket = true := by
      intro next
      exact shown _ (if_neg next)
    exact congrArg (Prod.map Reply.progress id) (lock_table fits s.toQueued drawn)
  | unlock r => exact congrArg (Prod.map Reply.response id) (unlock_table fits s.toQueued calm)
  | pollLock n => exact congrArg (Prod.map Reply.progress id) (pollLock_table (shown n rfl))
  | settle => exact congrArg (Reply.done, ·) (settle_table fits s calm).1
  | advance ms => exact congrArg (Reply.done, ·) (advance_table fits s calm)

end Operations

end Guise

end KeyedLocks
