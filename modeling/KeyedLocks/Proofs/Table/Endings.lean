/-
The ways in which a grant ends.

The last hold of a grant is given back by its owner or by a call that departs with the grant in its
hands; somebody names the grant and takes it away; or its record comes due. These are ways of their
own, each with its own conditions, but they all end in one: the key goes to the first in its queue
with a new grant, or its slot is taken out (`Succeeds`). So whoever comes next gets the same key
under the same number and until the same moment, whichever way it was.

What is left besides is what the way itself uses up. The reaper takes the record out before the key
is passed on, and a call that departs is forgotten before. Neither makes a difference to what
follows: a new record is due no earlier than one that is due already (`tail_push`), so the record is
still the first one behind which the new one is put in.
-/
import KeyedLocks.Proofs.Table.Tidy

set_option autoImplicit false

namespace KeyedLocks

/-! ## Records that are due -/

namespace DelayQueue

variable {q : DelayQueue} {r : DelayRecord}

/-- A queue is its records and the number of the next one. -/
theorem ext_records {p q : DelayQueue} (records : p.records = q.records)
    (next : p.nextSeq = q.nextSeq) : p = q := by
  cases p
  cases q
  exact DelayQueue.mk.injEq .. ▸ ⟨records, next⟩

variable (first : q.records.head? = some r) {deadline : Nat} (le : r.deadline ≤ deadline)
include first le

/-- The first record stays the first one if the new one is due no earlier. -/
theorem head?_push (key : String) (grant : Nat) :
    (q.push key grant deadline).records.head? = some r := by
  obtain ⟨rest, split⟩ := List.head?_eq_some_iff.1 first
  change ((q.records.filter fun r => r.deadline ≤ deadline) ++ _).head? = some r
  rw [split, List.filter_cons_of_pos (by simpa using le)]
  rfl

/-- **Taking the first record out** before a later one is put in comes to the same as taking it out
afterwards. -/
theorem tail_push (key : String) (grant : Nat) :
    (q.push key grant deadline).tail = q.tail.push key grant deadline := by
  obtain ⟨rest, split⟩ := List.head?_eq_some_iff.1 first
  refine ext_records ?_ rfl
  simp only [push, tail, split, List.tail_cons]
  rw [List.filter_cons_of_pos (by simpa using le), List.filter_cons_of_neg (by simpa using le)]
  rfl

end DelayQueue

namespace Table

variable {t : Table} {key : String} {h : Holder}

/-! ## What is left of a grant -/

/-- What is left when the grant of a key has ended. If nobody waits, the slot is taken out. If
somebody does, the first in the queue holds the key once, from now on, under the next number and
until the end of the lease that he asked for; the others wait on; the grant lies ready for his call
and for no other; and a record is put in if the grant has a deadline. Nothing else changes. -/
inductive Succeeds (t : Table) (key : String) : Option Grant → Table → Prop
  | freed (nobody : t.queue key = []) :
      Succeeds t key none { t with slots := t.slots.erase key }
  | handed (w : Waiter) (ws : List Waiter) (h : Holder) (first : t.queue key = w :: ws)
      (made : h = ⟨w.request, t.lastGrant + 1, 1, t.now,
        if t.leased then some (t.horizon.deadline t.now w.request.lease) else none⟩) :
      Succeeds t key (some ⟨h.grant, w.request.owner, 1, h.expiresAt⟩) { t with
        slots := t.slots.insert key ⟨h, ws⟩
        lastGrant := h.grant
        delays := h.expiresAt.elim t.delays fun at_ => t.delays.push key h.grant at_
        calls := t.calls.map fun c =>
          if c.ticket = w.ticket then
            { c with permit := some ⟨h.grant, w.request.owner, 1, h.expiresAt⟩ }
          else c }

/-- **Passing a key on** is what is left. -/
theorem succeeds_handOn (t : Table) (key : String) :
    Succeeds t key (t.handOn key (t.queue key)).1 (t.handOn key (t.queue key)).2 := by
  cases waiting : t.queue key with
  | nil => exact .freed waiting
  | cons w ws =>
    -- A grant without a deadline leaves the records alone, which is what both sides say.
    have delays : t.scheduled key (t.newHolder w.request)
        = (t.newHolder w.request).expiresAt.elim t.delays fun at_ =>
          t.delays.push key (t.newHolder w.request).grant at_ := by
      rw [scheduled]
      cases (t.newHolder w.request).expiresAt <;> rfl
    rw [handOn_cons, deliver, install, delays]
    exact .handed w ws (t.newHolder w.request) waiting rfl

/-- A grant that is made now ends no earlier than what is due now. -/
theorem le_of_expiry {r : Request} {at_ : Nat} (ends : t.expiry r = some at_) : t.now ≤ at_ := by
  unfold expiry at ends
  split at ends
  · rw [← Option.some.inj ends]
    exact t.horizon.le_deadline _ _
  · cases ends

/-- **A record that is due** may be taken out before the key is passed on or afterwards: it is
still the first one then. -/
theorem handOn_drain {record : DelayRecord} (first : t.delays.records.head? = some record)
    (due : record.deadline ≤ t.now) (key : String) (ws : List Waiter) :
    let u := (t.handOn key ws).2
    u.delays.records.head? = some record
      ∧ Table.handOn { t with delays := t.delays.tail } key ws
        = ((t.handOn key ws).1, { u with delays := u.delays.tail }) := by
  intro u
  cases ws with
  | nil => exact ⟨first, rfl⟩
  | cons w ws =>
    -- The records are all that the hand-over and the reaper both touch.
    have scheduled : (t.scheduled key (t.newHolder w.request)).records.head? = some record
        ∧ Table.scheduled { t with delays := t.delays.tail } key (t.newHolder w.request)
          = (t.scheduled key (t.newHolder w.request)).tail := by
      rw [Table.scheduled, Table.scheduled]
      cases ends : (t.newHolder w.request).expiresAt with
      | none => exact ⟨first, rfl⟩
      | some at_ =>
        have later : record.deadline ≤ at_ := Nat.le_trans due (le_of_expiry ends)
        exact ⟨DelayQueue.head?_push first later key _,
          (DelayQueue.tail_push first later key _).symm⟩
    refine ⟨scheduled.1, Prod.ext rfl ?_⟩
    exact congrArg (fun delays => { u with delays }) scheduled.2

/-! ## The ways -/

/-- Requests of one owner count as the same owner's. -/
theorem sameOwner_of_owner_eq {a b : Request} (own : b.owner = a.owner) :
    a.sameOwner b = true := by
  rw [Request.sameOwner, decide_eq_true_eq]
  exact own.symm

section Ways

variable (held : t.holder? key = some h)
include held

/-- Whoever names the grant ends it, with all its holds. -/
theorem revoke_of_held :
    t.revoke key h.grant = (some ⟨h.request.owner, (t.handOn key (t.queue key)).1⟩,
      (t.handOn key (t.queue key)).2) :=
  revoke_of_holder (slot_of_holder held) rfl

/-- The last hold that is given back passes the key on. -/
theorem release_of_one (one : h.holds = 1) {r : Request} (here : r.key = key)
    (own : r.owner = h.request.owner) :
    t.release r = (.released h.grant (t.handOn key (t.queue key)).1,
      (t.handOn key (t.queue key)).2) := by
  subst here
  refine release_of_last (slot_of_holder held) (sameOwner_of_owner_eq own) ?_
  rw [one]
  exact Bool.and_false _

/-- One of several holds leaves the key where it is. -/
theorem release_of_several (may : t.reentrant = true) (several : 1 < h.holds) {r : Request}
    (here : r.key = key) (own : r.owner = h.request.owner) :
    t.release r = (.retained (h.holds - 1),
      t.setHolds key ⟨h, t.queue key⟩ (h.holds - 1)) := by
  subst here
  refine release_of_more (slot_of_holder held) (sameOwner_of_owner_eq own) ?_
  rw [may, Bool.true_and]
  exact decide_eq_true several

/-- The departure of the call that has the grant gives back one hold of it. -/
theorem depart_of_grant (s : t.Sound) {c : Call} {g : Grant} (hc : c ∈ t.calls)
    (ready : c.permit = some g) (mine : g.id = h.grant) :
    t.depart c.ticket = (.gaveBack (t.giveBack key h.grant).1,
      (t.giveBack key h.grant).2.forget c.ticket) := by
  have here : key = c.request.key := s.permit_key hc ready held mine.symm
  rw [depart_of_permit (s.call?_eq_some_iff.2 ⟨hc, rfl⟩) ready, giveBack_forget, mine, ← here]

/-- When the record of the grant has come due, the reaper ends it and uses the record up. -/
theorem reap_of_own (s : t.Sound) {record : DelayRecord} {rest : DelayQueue}
    (running : t.reaper = .running) (popped : t.delays.popDue t.now = some (record, rest))
    (mine : record.grant = h.grant) :
    let u := (t.handOn key (t.queue key)).2
    u.delays.records.head? = some record
      ∧ t.reap = (.revoked record ⟨h.request.owner, (t.handOn key (t.queue key)).1⟩,
        { u with delays := u.delays.tail }) := by
  obtain ⟨first, due, rfl⟩ := DelayQueue.popDue_eq_some_iff.1 popped
  -- The grant has one holder, so the record is one of his key.
  have here := (s.record_holder record (List.mem_of_head? first) key h held mine.symm).1
  obtain ⟨still, drained⟩ := handOn_drain first due key (t.queue key)
  have revoked := revoke_of_held (t := { t with delays := t.delays.tail }) held
  refine ⟨still, ?_⟩
  rw [reap_of_popped running popped, here, mine, revoked]
  change (Reaped.revoked record ⟨_, (Table.handOn { t with delays := t.delays.tail } key
    (t.queue key)).1⟩, (Table.handOn { t with delays := t.delays.tail } key (t.queue key)).2) = _
  rw [drained]

end Ways

/-! ## The whole -/

/-- **All ways of ending a grant agree.** Take a key that is held, in any table that a run leads to.
Somebody who names its grant ends it, with all its holds, and there is one table that is left then:
the key has gone to the first in its queue, or its slot has been taken out. The reaper leaves the
same table when the record of the grant has come due, up to that record, which is the first one
still. If there is one hold, the owner leaves the same table when he gives it back by any of his
requests; and so does a call that departs with the grant in its hands, up to that call, which is
gone. All of them pass on the same grant.

If there are several holds and keys can be taken again, giving one back and departing both leave
one hold less, and are otherwise alike; nothing is passed on. -/
theorem all_ways_of_ending_agree (kind : LockKind) (leased : Bool) (reaper : Reaper)
    (horizon : Horizon) (es : List Event) (key : String) (h : Holder)
    (held : ((opening kind leased reaper horizon).run es).holder? key = some h) :
    let t := (opening kind leased reaper horizon).run es
    let lower := { t with
      slots := t.slots.insert key ⟨{ h with holds := h.holds - 1 }, t.queue key⟩ }
    ∃ next u, Succeeds t key next u
      ∧ t.revoke key h.grant = (some ⟨h.request.owner, next⟩, u)
      ∧ (∀ record rest, t.reaper = .running → t.delays.popDue t.now = some (record, rest) →
          record.grant = h.grant →
          u.delays.records.head? = some record
            ∧ t.reap = (.revoked record ⟨h.request.owner, next⟩,
              { u with delays := u.delays.tail }))
      ∧ (h.holds = 1 →
          (∀ r, r.key = key → r.owner = h.request.owner →
            t.release r = (.released h.grant next, u))
          ∧ ∀ c ∈ t.calls, ∀ g, c.permit = some g → g.id = h.grant →
            t.depart c.ticket = (.gaveBack (.returned h.grant next), u.forget c.ticket))
      ∧ (kind = .reentrant → 1 < h.holds →
          (h.holds - 1).toNat + 1 = h.holds.toNat
          ∧ (∀ r, r.key = key → r.owner = h.request.owner →
            t.release r = (.retained (h.holds - 1), lower))
          ∧ ∀ c ∈ t.calls, ∀ g, c.permit = some g → g.id = h.grant →
            t.depart c.ticket = (.gaveBack (.kept (h.holds - 1)), lower.forget c.ticket)) := by
  intro t lower
  have s : t.Sound := sound_run es
  have slot := slot_of_holder held
  refine ⟨_, _, succeeds_handOn t key, revoke_of_held held, ?_, ?_, ?_⟩
  · intro record rest running popped mine
    exact reap_of_own held s running popped mine
  -- There is one hold: giving it back ends the grant.
  · intro one
    refine ⟨fun r here own => release_of_one held one here own, fun c hc g ready mine => ?_⟩
    have last : ¬ 1 < h.holds := by
      rw [one]
      decide
    rw [depart_of_grant held s hc ready mine, giveBack_of_last slot rfl last]
  -- There are several: giving one back keeps the grant.
  · intro again several
    have may : t.reentrant = true := by
      rw [reentrant, decide_eq_true_eq]
      exact (kind_run es).trans again
    refine ⟨?_, fun r here own => release_of_several held may several here own,
      fun c hc g ready mine => ?_⟩
    · have above := UInt32.lt_iff_toNat_lt.1 several
      rw [UInt32.toNat_sub_of_le _ _ (UInt32.le_iff_toNat_le.2 (Nat.le_of_lt above))]
      change 1 < _ at above
      exact Nat.sub_add_cancel (Nat.le_of_lt above)
    · rw [depart_of_grant held s hc ready mine, giveBack_of_more slot rfl several]
      rfl

/-- A key was handed to a call that has not fetched its grant, somebody waits behind it, and the
record of the grant has come due. All four ways are open, and all of them lead to the same third
grant. -/
theorem four_ways_to_the_third_grant :
    let a : Request := ⟨"k", 1, ⟨"app", "a"⟩, .timeout, some ⟨5, .milliseconds⟩, 0⟩
    let b : Request := ⟨"k", 2, ⟨"app", "b"⟩, .timeout, some ⟨1, .milliseconds⟩, 0⟩
    let c : Request := ⟨"k", 3, ⟨"app", "c"⟩, .timeout, some ⟨7, .milliseconds⟩, 0⟩
    let t := (opening .timeout true .running .widest).run
      [.tryAcquire a, .acquire "" b, .acquire "" c, .release a, .tick 1000000]
    let g : Grant := ⟨3, c.owner, 1, some 8000000⟩
    t.holder? "k" = some ⟨b, 2, 1, 0, some 1000000⟩
      ∧ ∃ u, t.revoke "k" 2 = (some ⟨b.owner, some g⟩, u)
        ∧ t.reap = (.revoked ⟨"k", 2, 1000000, 1⟩ ⟨b.owner, some g⟩,
          { u with delays := u.delays.tail })
        ∧ t.release b = (.released 2 (some g), u)
        ∧ t.depart 0 = (.gaveBack (.returned 2 (some g)), u.forget 0) := by
  intro a b c t g
  have held : t.holder? "k" = some ⟨b, 2, 1, 0, some 1000000⟩ := by decide +kernel
  have call : (⟨0, "", b, some ⟨2, b.owner, 1, some 1000000⟩⟩ : Call) ∈ t.calls := by
    decide +kernel
  have running : t.reaper = .running := by decide +kernel
  have due : (t.delays.popDue t.now).map Prod.fst = some ⟨"k", 2, 1000000, 1⟩ := by
    decide +kernel
  have third : (t.revoke "k" 2).1 = some ⟨b.owner, some g⟩ := by decide +kernel
  obtain ⟨⟨record, rest⟩, popped, named⟩ := Option.map_eq_some_iff.1 due
  subst named
  obtain ⟨next, u, -, revoked, reaped, single, -⟩ :=
    all_ways_of_ending_agree .timeout true .running .widest _ "k" _ held
  -- What was computed of one way goes for all of them.
  rw [revoked] at third
  obtain rfl : next = some g := congrArg Revoked.next (Option.some.inj third)
  obtain ⟨released, departed⟩ := single rfl
  have expired := (reaped _ rest running popped rfl).2
  have left := departed _ call _ rfl rfl
  exact ⟨held, u, revoked, expired, released b rfl rfl, left⟩

end Table

end KeyedLocks
