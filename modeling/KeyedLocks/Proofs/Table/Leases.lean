/-
How long a lease lasts.

Records of deadlines are not taken back when a grant ends, so the reaper meets many that
are stale. It does no harm with them: a record and a holder that share a number belong
together (`Scheduled`), so the reaper takes a key away only when the holder's own deadline
has come (`OwnRecordDue`), and a record of a grant that has ended finds no holder
(`gone_of_run`).

A deadline is fixed when a grant is made, from the lease that was asked for and the time
of that moment, and no later step moves it (`made_of_run`).
-/
import KeyedLocks.Proofs.Table.Lifecycle

set_option autoImplicit false

namespace KeyedLocks

open GrantEvent

namespace Table

variable {t u : Table}

/-! ## Making a grant -/

/-- A holder gets its grant by an event: the request comes with the event or is the first
in the queue, and the lease begins now. -/
structure Made (t : Table) (e : Event) (o : Outcome) (key : String) (h : Holder) : Prop where
  told : installed key h.grant ∈ t.grantEvents e o
  asked : e = .tryAcquire h.request ∨ (∃ token, e = .acquire token h.request)
    ∨ (t.queue key).head?.map Waiter.request = some h.request
  acquiredAt : h.acquiredAt = t.now
  expiresAt : h.expiresAt = t.expiry h.request

/-- What is known about the making of a grant does not depend on how often it was taken again. -/
theorem Made.alike {e : Event} {o : Outcome} {key : String} {h h' : Holder}
    (made : Made t e o key h) (alike : h'.Alike h) : Made t e o key h' where
  told := by rw [alike.grant]; exact made.told
  asked := by rw [alike.request]; exact made.asked
  acquiredAt := alike.acquiredAt.trans made.acquiredAt
  expiresAt := by rw [alike.expiresAt, alike.request]; exact made.expiresAt

/-- A claim makes the grant of its key, by the request of the event; every other holder is an old
one. -/
theorem made_install {e : Event} {o : Outcome} {r : Request}
    (asked : e = .tryAcquire r ∨ ∃ token, e = .acquire token r)
    (told : t.grantEvents e o = [installed r.key (t.lastGrant + 1)]) {k : String} {h' : Holder}
    (now : (t.install r.key r []).2.holder? k = some h') :
    (∃ h, t.holder? k = some h ∧ h'.Alike h) ∨ Made t e o k h' := by
  rw [holder?_install] at now
  split at now
  · next same =>
    rw [← Option.some.inj now, same]
    refine .inr ⟨?_, or_assoc.1 (.inl asked), rfl, rfl⟩
    rw [told]
    exact List.mem_singleton.2 rfl
  · exact .inl ⟨h', now, .refl h'⟩

/-- Passing a key on makes a grant for the first in the queue. The table is another one, as
a call or a record may have been taken out before. -/
theorem made_handOn (t' : Table) (slots : t'.slots = t.slots) (clock : t'.now = t.now)
    (leased : t'.leased = t.leased) (horizon : t'.horizon = t.horizon) {key : String}
    {slot : Slot} (held : t.slots.get? key = some slot) {e : Event} {o : Outcome} {g : Nat}
    (told : t.grantEvents e o = passing key g (t'.handOn key slot.waiters).1) {k : String}
    {h' : Holder} (now : (t'.handOn key slot.waiters).2.holder? k = some h') :
    (∃ h, t.holder? k = some h ∧ h'.Alike h) ∨ Made t e o k h' := by
  rw [holder?_handOn] at now
  split at now
  · next same =>
    -- The new holder is the first in the queue.
    obtain ⟨w, first, rfl⟩ := Option.map_eq_some_iff.1 now
    refine .inr ⟨?_, .inr (.inr ?_), clock, ?_⟩
    · rw [told, handOn_fst, first, same]
      exact List.mem_cons_of_mem _ (List.mem_singleton.2 rfl)
    · rw [same, queue_of_slot held, first]
      rfl
    · change t'.expiry w.request = t.expiry w.request
      rw [expiry, expiry, clock, leased, horizon]
  · rw [holder?, slots] at now
    exact .inl ⟨h', now, .refl h'⟩

/-- **Whoever holds a key after a step** held it before, or the step made the grant. -/
theorem Way.keeps_or_makes (q : t.Queued) {e : Event} {o : Outcome} (w : Way t e o u)
    {k : String} {h' : Holder} (now : u.holder? k = some h') :
    (∃ h, t.holder? k = some h ∧ h'.Alike h) ∨ Made t e o k h' := by
  cases w with
  -- Most ways make no holder: they leave holders alone or change a number of holds.
  | refuse | decline | fetch | lapse | discard => exact .inl ⟨h', now, .refl h'⟩
  | aside same =>
    rw [holder?, same.slots] at now
    exact .inl ⟨h', now, .refl h'⟩
  | tryClaim => exact made_install (.inl rfl) rfl now
  | claim token => exact made_install (.inr ⟨token, rfl⟩) rfl now
  | tryReenter r slot held | reenter token r slot held | retain r slot held
  | keep c g slot hc ready held => exact .inl (KeepsHolders.setHolds held _ k h' now)
  | block token r =>
    rw [holder?_enqueue] at now
    exact .inl ⟨h', now, .refl h'⟩
  | callOff c | leave c =>
    rw [holder?_withdraw] at now
    exact .inl ⟨h', now, .refl h'⟩
  | giveBack c g slot hc ready held =>
    refine made_handOn (t := t) (t.forget c.ticket) rfl rfl rfl rfl held (g := g.id) ?_ now
    rw [grantEvents, q.call?_eq_some_iff.2 ⟨hc, rfl⟩]
  | release r slot held | revoke key slot held => exact made_handOn t rfl rfl rfl rfl held rfl now
  | expire record slot _ _ _ held =>
    exact made_handOn (t := t) { t with delays := t.delays.tail } rfl rfl rfl rfl held rfl now

/-! ## The end of a lease -/

/-- The first record of the delay queue is the holder's own, and its deadline, which is the
holder's, has come. -/
def OwnRecordDue (t : Table) (key : String) (h : Holder) : Prop :=
  ∃ record rest, t.delays.popDue t.now = some (record, rest) ∧ record.key = key
    ∧ record.grant = h.grant ∧ h.expiresAt = some record.deadline ∧ record.deadline ≤ t.now

/-- **Why a grant ends**: its own record is due, its owner gives it back, the call it was
handed to departs, or somebody takes it away. -/
theorem Ending.cause (s : t.Sound) {key : String} {h : Holder} (held : t.holder? key = some h)
    {e : Event} {o : Outcome} (ending : Ending t key h e o u) :
    (e = .reap ∧ t.OwnRecordDue key h)
      ∨ (∃ r, e = .release r ∧ r.key = key ∧ h.request.sameOwner r = true)
      ∨ (∃ c g, e = .depart c.ticket ∧ c ∈ t.calls ∧ c.permit = some g ∧ g.id = h.grant)
      ∨ e = .revoke key h.grant := by
  cases ending with
  | released r here own => exact .inr (.inl ⟨r, rfl, here, own⟩)
  | returned c g hc ready _ mine => exact .inr (.inr (.inl ⟨c, g, rfl, hc, ready, mine.symm⟩))
  | revoked => exact .inr (.inr (.inr rfl))
  | expired record _ first due here mine =>
    have member := List.mem_of_head? first
    have popped := DelayQueue.popDue_eq_some_iff.2 ⟨first, due, rfl⟩
    -- Record and holder share a number, so the deadline that has come is the holder's.
    have own := (s.record_holder record member key h held mine).2
    exact .inl ⟨rfl, record, _, popped, here, mine.symm, own, due⟩

/-! ## Over a run -/

variable {kind : LockKind} {leased : Bool} {reaper : Reaper} {horizon : Horizon}

/-- Every holder got its grant at a moment of the run, and only its holds changed since. -/
theorem made_of_run (es : List Event) {key : String} {h : Holder}
    (held : ((opening kind leased reaper horizon).run es).holder? key = some h) :
    ∃ m ∈ (opening kind leased reaper horizon).history es,
      Made m.table m.event m.outcome key h ∧ m.table.leased = leased
        ∧ m.table.horizon = horizon := by
  refine opening_induction kind leased reaper horizon
    (P := fun ms t => (t.leased = leased ∧ t.horizon = horizon) ∧ ∀ key h, t.holder? key = some h →
      ∃ m ∈ ms, Made m.table m.event m.outcome key h ∧ m.table.leased = leased
        ∧ m.table.horizon = horizon)
    ⟨⟨rfl, rfl⟩, fun key h held => by cases held⟩ (fun ms m s ih => ?_) es |>.2 key h held
  obtain ⟨same, made⟩ := ih
  have set := (m.way s).settings
  refine ⟨⟨set.2.1.trans same.1, set.2.2.trans same.2⟩, fun key h now => ?_⟩
  rcases (m.way s).keeps_or_makes s.toQueued now with ⟨h₀, before, alike⟩ | new
  · -- Only the number of holds can differ from then, and nothing is said about it.
    obtain ⟨m', hm', old, set⟩ := made key h₀ before
    exact ⟨m', List.mem_append_left _ hm', old.alike alike, set⟩
  · exact ⟨m, List.mem_append_right _ (List.mem_singleton.2 rfl), new, same⟩

/-- **A lease is never cut short.** Where grants have deadlines, the deadline of every holder
lies one lease after the moment at which it got its grant, or thirty years after it if the
clock cannot point that far. When a grant is gone after a step of the reaper, the record
looked at was its own and the deadline had come; nobody else ends it but its owner, the
call it was handed to, or an explicit demand. A record of a grant that has ended is thrown
away and changes nothing else. -/
theorem lease_is_not_cut_short (kind : LockKind) (reaper : Reaper) (horizon : Horizon)
    (es : List Event) :
    let t := (opening kind true reaper horizon).run es
    let ms := (opening kind true reaper horizon).history es
    (∀ key h, t.holder? key = some h → ∃ m ∈ ms, Made m.table m.event m.outcome key h
        ∧ h.expiresAt = some (if m.table.now + h.request.lease ≤ horizon.last
          then m.table.now + h.request.lease else m.table.now + farFuture))
      ∧ (∀ key h e, t.holder? key = some h → (t.step e).2.grant? key ≠ some h.grant →
          (e = .reap ∧ t.OwnRecordDue key h)
            ∨ (∃ r, e = .release r ∧ r.key = key ∧ h.request.sameOwner r = true)
            ∨ (∃ c g, e = .depart c.ticket ∧ c ∈ t.calls ∧ c.permit = some g ∧ g.id = h.grant)
            ∨ e = .revoke key h.grant)
      ∧ (∀ record rest key, t.reaper = .running → t.delays.popDue t.now = some (record, rest) →
          ended key record.grant ∈ grantLog ms →
          t.step .reap = (.reaped (.stale record), { t with delays := rest })) := by
  intro t ms
  have s : t.Sound := sound_run es
  refine ⟨fun key h held => ?_, fun key h e held gone => ?_,
    fun record rest key running popped ends => ?_⟩
  · obtain ⟨m, hm, made, leased, far⟩ := made_of_run es held
    refine ⟨m, hm, made, ?_⟩
    rw [made.expiresAt, expiry, if_pos leased, Horizon.deadline, far]
  -- A grant that is gone was told to have ended, and each of its four ends has the cause that is
  -- asked for.
  · have way := step_way s.toQueued e
    have ends := (way.turn s).ended_of_gone (grant?_of_holder held) gone
    obtain ⟨h', held', -, ending⟩ := way.ending s.toQueued ends
    obtain rfl := Option.some.inj (held.symm.trans held')
    exact ending.cause s held
  -- A number is never given out again, so a grant that ended once is nobody's now.
  · have stale := (gone_of_run es ends).2 record.key
    have reaped := reap_of_stale running popped stale
    rw [step, reaped]
    rfl

end Table

end KeyedLocks
