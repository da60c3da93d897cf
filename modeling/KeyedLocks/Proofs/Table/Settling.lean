/-
Settling, and time that passes.

The reaper takes one record at a time, and what it does with one may put a new one in
front of it. `backlog` counts records and waiters together. A step of the reaper takes a
record out, and puts one in only when a waiter leaves its queue for good, so the count goes
down and `settle` gets to a table in which nothing is due (`isDue_settle`).

Advancing the clock stops only where something is due. Nothing happens in between, so it
comes to the same as a stop at every millisecond (`advance_eq_pace`), which does not depend
on what the delay queue holds.

From both follows that no lease outlives its deadline: whoever holds a key has a record
(`Recorded`), and once the table has settled no record in it is due.
-/
import KeyedLocks.Proofs.Table.Records
import Mathlib.Logic.Function.Iterate
import Mathlib.Data.List.Flatten
import Mathlib.Order.MinMax

set_option autoImplicit false

namespace KeyedLocks

/-- What a table has apart from its locks: its kind, whether grants have deadlines, who looks
after them, how far the clock can follow them, the time, and which tokens are called off. -/
structure Scene where
  kind : LockKind
  leased : Bool
  reaper : Reaper
  horizon : Horizon
  now : Nat
  cancelled : List String
  deriving DecidableEq, Repr

namespace Table

variable {t u : Table}

/-! ## What locks do not change -/

/-- What a table has apart from its locks. -/
def scene (t : Table) : Scene := ⟨t.kind, t.leased, t.reaper, t.horizon, t.now, t.cancelled⟩

@[simp] theorem scene_handOn (t : Table) (key : String) (ws : List Waiter) :
    (t.handOn key ws).2.scene = t.scene := by
  cases ws <;> rfl

@[simp] theorem scene_enqueue (t : Table) (token : String) (r : Request) :
    (t.enqueue token r).scene = t.scene := by
  obtain ⟨slots, eq⟩ := t.enqueue_eq token r
  rw [eq]
  rfl

@[simp] theorem scene_withdraw (t : Table) (c : Call) : (t.withdraw c).scene = t.scene := by
  obtain ⟨slots, eq⟩ := t.withdraw_eq c
  rw [eq]
  rfl

/-- Only a step that answers nothing, of the clock or of whoever stops things, changes the
scene. -/
theorem Way.scene {e : Event} {o : Outcome} (w : Way t e o u) (answers : o ≠ .done) :
    u.scene = t.scene := by
  cases w with
  | aside => exact absurd rfl answers
  | block token r => exact t.scene_enqueue token r
  | callOff c | leave c => exact t.scene_withdraw c
  | giveBack c g slot => exact scene_handOn (t.forget c.ticket) _ _
  | release r slot | revoke key slot => exact t.scene_handOn _ _
  | expire record slot => exact scene_handOn { t with delays := t.delays.tail } _ _
  | _ => rfl

theorem scene_reap (t : Table) : t.reap.2.scene = t.scene :=
  (way_reap t).scene (by intro h; cases h)

/-- However many records he looks at, it is the same moment. -/
theorem scene_reapUpTo (n : Nat) (t : Table) : (reapUpTo n t).scene = t.scene := by
  induction n generalizing t with
  | zero => rfl
  | succ n ih =>
    unfold reapUpTo
    split
    · rw [ih, scene_reap]
    · rfl

/-- **Settling takes no time**, and it changes nothing but locks. -/
theorem scene_settle (t : Table) : t.settle.scene = t.scene := scene_reapUpTo _ t

/-! ## One record -/

/-- Something is due if the reaper is there and the time of the first record has come. -/
theorem isDue_iff : t.isDue = true ↔
    t.reaper = .running ∧ ∃ r, t.delays.records.head? = some r ∧ r.deadline ≤ t.now := by
  rw [isDue, Bool.and_eq_true, decide_eq_true_eq, Option.isSome_iff_exists]
  refine and_congr_right fun _ => ?_
  constructor
  · rintro ⟨⟨r, rest⟩, popped⟩
    obtain ⟨first, due, -⟩ := DelayQueue.popDue_eq_some_iff.1 popped
    exact ⟨r, first, due⟩
  · rintro ⟨r, first, due⟩
    exact ⟨_, DelayQueue.popDue_eq_some_iff.2 ⟨first, due, rfl⟩⟩

/-- Records that are not looked at lie in the future. -/
theorem lt_deadline_of_not_due (settled : t.isDue = false) (running : t.reaper = .running)
    {r : DelayRecord} (member : r ∈ t.delays.records) : t.now < r.deadline := by
  by_contra early
  have due : t.isDue = true := by
    rw [isDue, Bool.and_eq_true, decide_eq_true_eq]
    exact ⟨running, (DelayQueue.isSome_popDue_iff t.now).2 ⟨r, member, Nat.le_of_not_lt early⟩⟩
  rw [settled] at due
  cases due

/-- **Whoever holds a key has time left** once the reaper has looked after all that is due. -/
theorem Recorded.lt_deadline (r : t.Recorded) (s : t.Sound) (settled : t.isDue = false)
    (running : t.reaper = .running) {key : String} {h : Holder} (held : t.holder? key = some h)
    {d : Nat} (ends : h.expiresAt = some d) : t.now < d := by
  -- The deadline is that of a record, and records lie in the future.
  obtain ⟨record, member, mine⟩ := r.present key h d held ends
  have own := (s.record_holder record member key h held mine.symm).2
  rw [← Option.some.inj (own.symm.trans ends)]
  exact lt_deadline_of_not_due settled running member

/-- **What the reaper does with a record that is due**: it takes it out, and if the grant still
holds the key it passes the key on. -/
theorem reap_of_due (due : t.isDue = true) :
    ∃ r, t.delays.records.head? = some r ∧ r.deadline ≤ t.now
      ∧ (t.grant? r.key ≠ some r.grant ∧ t.reap.2 = { t with delays := t.delays.tail }
        ∨ ∃ s, t.slots.get? r.key = some s ∧ s.holder.grant = r.grant
          ∧ t.reap.2 = ({ t with delays := t.delays.tail }.handOn r.key s.waiters).2) := by
  obtain ⟨running, r, first, now⟩ := isDue_iff.1 due
  have popped := DelayQueue.popDue_eq_some_iff.2 ⟨first, now, rfl⟩
  refine ⟨r, first, now, ?_⟩
  by_cases mine : t.grant? r.key = some r.grant
  -- The grant is still the holder's, so the key is passed on in a table without the record.
  · right
    obtain ⟨h, held, number⟩ := exists_holder_of_grant mine
    have slot := slot_of_holder held
    refine ⟨_, slot, number, ?_⟩
    rw [reap, if_pos running, popped]
    dsimp only
    rw [revoke_of_holder (t := { t with delays := t.delays.tail }) slot number]
  · left
    refine ⟨mine, ?_⟩
    rw [reap_of_stale running popped mine]

/-! ## The backlog -/

/-- The number of all that wait. -/
def standing (slots : KeyMap Slot) : Nat := (slots.entries.flatMap fun e => e.2.waiters).length

/-- Writing a slot over another one changes the number of all that wait by the difference of the
two. -/
theorem standing_insert {slots : KeyMap Slot} {key : String} {s : Slot}
    (held : slots.get? key = some s) (s' : Slot) :
    standing (slots.insert key s') + s.waiters.length = standing slots + s'.waiters.length := by
  -- The map is what is below the key, the slot itself, and what is above the key.
  have split : slots.insert key s = slots := KeyMap.insert_of_get? held
  have sizes : ∀ v : Slot, standing (slots.insert key v)
      = ((slots.below key).flatMap fun e => e.2.waiters).length + v.waiters.length
        + ((slots.above key).flatMap fun e => e.2.waiters).length := by
    intro v
    simp only [standing, KeyMap.insert, List.flatMap_append, List.flatMap_cons,
      List.length_append]
    omega
  have before := sizes s
  have after := sizes s'
  rw [split] at before
  omega

/-- Freeing a key does not add to those who wait. -/
theorem standing_erase_le (slots : KeyMap Slot) (key : String) :
    standing (slots.erase key) ≤ standing slots :=
  (List.filter_sublist.flatMap _).length_le

theorem size_drain {r : DelayRecord} (first : t.delays.records.head? = some r) :
    t.delays.tail.size + 1 = t.delays.size := by
  obtain ⟨rest, split⟩ := List.head?_eq_some_iff.1 first
  change t.delays.records.tail.length + 1 = t.delays.records.length
  rw [split]
  rfl

/-- Passing a key on makes a record only for a waiter who leaves the queue. -/
theorem backlog_handOn {key : String} {s : Slot} (held : t.slots.get? key = some s) :
    (t.handOn key s.waiters).2.backlog ≤ t.backlog := by
  change (t.handOn key s.waiters).2.delays.size + standing (t.handOn key s.waiters).2.slots
    ≤ t.delays.size + standing t.slots
  cases waiting : s.waiters with
  | nil => exact Nat.add_le_add_left (standing_erase_le t.slots key) _
  | cons w ws =>
    have fewer := standing_insert held ⟨t.newHolder w.request, ws⟩
    rw [waiting, List.length_cons] at fewer
    have records : (t.install key w.request ws).2.delays.size ≤ t.delays.size + 1 := by
      rcases t.records_install key w.request ws with ⟨-, same⟩ | ⟨d, -, new⟩
      · rw [same]
        exact Nat.le_succ _
      · rw [new, DelayQueue.size_push]
    change (t.install key w.request ws).2.delays.size
      + standing (t.slots.insert key ⟨t.newHolder w.request, ws⟩) ≤ _
    dsimp only at fewer
    omega

/-- **Each step of the reaper brings the end nearer.** -/
theorem backlog_reap (due : t.isDue = true) : t.reap.2.backlog < t.backlog := by
  obtain ⟨r, first, -, ⟨-, after⟩ | ⟨s, held, -, after⟩⟩ := reap_of_due due
  · have fewer := size_drain first
    rw [after]
    change t.delays.tail.size + standing t.slots < t.delays.size + standing t.slots
    omega
  · have fewer := size_drain first
    have bound := backlog_handOn (t := { t with delays := t.delays.tail }) held
    rw [after]
    change _ ≤ t.delays.tail.size + standing t.slots at bound
    change _ < t.delays.size + standing t.slots
    omega

/-- With as many steps allowed as the backlog counts, the reaper gets to an end. -/
theorem isDue_reapUpTo {n : Nat} (enough : t.backlog ≤ n) : (reapUpTo n t).isDue = false := by
  induction n generalizing t with
  | zero =>
    cases due : t.isDue with
    | false => exact due
    | true =>
      -- No step is allowed, so the backlog is empty; but what is due is part of it.
      have fewer := backlog_reap due
      omega
  | succ n ih =>
    unfold reapUpTo
    cases due : t.isDue with
    | false => rw [if_neg Bool.false_ne_true, due]
    | true =>
      rw [if_pos rfl]
      have fewer := backlog_reap due
      exact ih (by omega)

/-- **Settling comes to an end**: nothing is due when it is over. -/
theorem isDue_settle (t : Table) : t.settle.isDue = false := isDue_reapUpTo (Nat.le_refl _)

/-- Once nothing is due, more steps of the reaper change nothing. -/
theorem reapUpTo_of_rest {n m : Nat} (rest : (reapUpTo n t).isDue = false) (le : n ≤ m) :
    reapUpTo m t = reapUpTo n t := by
  induction n generalizing t m with
  | zero => exact reapUpTo_of_not_due m rest
  | succ n ih =>
    obtain ⟨m, rfl⟩ : ∃ k, m = k + 1 := ⟨m - 1, by omega⟩
    unfold reapUpTo at rest ⊢
    cases due : t.isDue with
    | false => rfl
    | true =>
      rw [due, if_pos rfl] at rest
      exact ih rest (Nat.le_of_succ_le_succ le)

/-- **It does not matter how many steps are allowed**, as long as they are enough. -/
theorem reapUpTo_eq_settle {n : Nat} (enough : t.backlog ≤ n) : reapUpTo n t = t.settle :=
  reapUpTo_of_rest (isDue_settle t) enough

/-! ## Time that passes -/

/-- A millisecond passes, and whatever is due then is looked after. -/
def pace (t : Table) : Table := (t.tick millisecond).settle

theorem tick_tick (t : Table) (a b : Nat) : (t.tick a).tick b = t.tick (a + b) := by
  rw [tick, tick, tick, Nat.add_assoc]

/-- Fewer steps than it takes to get to a distance stay below it. -/
theorem mul_lt_of_lt_ceil {x n p : Nat} (pos : 0 < p) (fewer : n < (x + (p - 1)) / p) :
    n * p < x := by
  have whole : (n + 1) * p ≤ x + (p - 1) := (Nat.le_div_iff_mul_le pos).1 fewer
  rw [Nat.succ_mul] at whole
  omega

/-- The clock can move without anything falling due if it stays below the first deadline. -/
theorem isDue_tick {ns : Nat} (early : t.reaper = .running →
    ∀ r, t.delays.records.head? = some r → t.now + ns < r.deadline) :
    (t.tick ns).isDue = false := by
  rw [← Bool.not_eq_true, isDue_iff]
  rintro ⟨running, r, first, now⟩
  exact absurd (early running r first) (Nat.not_lt.2 now)

/-- Up to the next stop nothing falls due. -/
theorem isDue_before_stop (settled : t.isDue = false) {ms n : Nat} (early : n < t.stride ms) :
    (t.tick (n * millisecond)).isDue = false := by
  refine isDue_tick ?_
  intro running r first
  have late : t.now < r.deadline := lt_deadline_of_not_due settled running (List.mem_of_head? first)
  have next : t.delays.nextDeadline? = some r.deadline := by
    rw [DelayQueue.nextDeadline?, first]
    rfl
  rw [stride, running, next] at early
  rcases lt_max_iff.1 early with none | fewer
  · rw [Nat.lt_one_iff.1 none, Nat.zero_mul]
    exact late
  · have pos : 0 < millisecond := by decide
    exact Nat.add_lt_of_lt_sub' (mul_lt_of_lt_ceil pos (lt_min_iff.1 fewer).2)

/-- A stride is one millisecond at least, and not beyond the end. -/
theorem stride_bounds {ms : Nat} (some_ : ms ≠ 0) : 1 ≤ t.stride ms ∧ t.stride ms ≤ ms := by
  unfold stride
  -- Where nothing is ahead the stride is all that is left.
  split <;> omega

/-- Up to the next stop nothing happens, so the clock can be moved there at once. -/
theorem pace_iterate_stride (settled : t.isDue = false) {ms n : Nat} (early : n < t.stride ms) :
    pace^[n] t = t.tick (n * millisecond) := by
  induction n with
  | zero =>
    rw [Nat.zero_mul]
    rfl
  | succ n ih =>
    have still := isDue_before_stop settled early
    rw [Function.iterate_succ_apply', ih (Nat.lt_of_succ_lt early), pace, tick_tick]
    rw [Nat.succ_mul] at still ⊢
    exact settle_of_not_due still

/-- As many stops as there are milliseconds are enough, and the stops make no difference. -/
theorem advanceFor_eq_pace {stops ms : Nat} (enough : ms ≤ stops) (settled : t.isDue = false) :
    advanceFor stops ms t = pace^[ms] t := by
  induction stops generalizing ms t with
  | zero =>
    rw [Nat.le_zero.1 enough]
    rfl
  | succ stops ih =>
    unfold advanceFor
    by_cases none : ms = 0
    · rw [if_pos none, none]
      rfl
    · rw [if_neg none]
      obtain ⟨least, most⟩ := stride_bounds (t := t) none
      have last : t.stride ms - 1 < t.stride ms := by omega
      -- The stop itself is the last of the milliseconds up to it.
      have stop : (t.tick (t.stride ms * millisecond)).settle = pace^[t.stride ms] t := by
        have whole : t.stride ms = t.stride ms - 1 + 1 := by omega
        conv_rhs => rw [whole, Function.iterate_succ_apply', pace_iterate_stride settled last]
        rw [pace, tick_tick, ← Nat.succ_mul, Nat.succ_eq_add_one, ← whole]
      change advanceFor stops (ms - t.stride ms) (t.tick (t.stride ms * millisecond)).settle = _
      -- The strides add up to the milliseconds that were asked for.
      rw [ih (by omega) (isDue_settle _), stop, ← Function.iterate_add_apply,
        Nat.sub_add_cancel most]

/-- **Time passes millisecond by millisecond.** -/
theorem advance_eq_pace (t : Table) (ms : Nat) : t.advance ms = pace^[ms] t.settle :=
  advanceFor_eq_pace (Nat.le_refl ms) (isDue_settle t)

theorem advance_succ (t : Table) (ms : Nat) :
    t.advance (ms + 1) = ((t.advance ms).tick millisecond).settle := by
  rw [advance_eq_pace, advance_eq_pace, Function.iterate_succ_apply']
  rfl

/-- Nothing is due when time has passed, as whatever fell due was looked after at once. -/
theorem isDue_advance (t : Table) (ms : Nat) : (t.advance ms).isDue = false := by
  cases ms with
  | zero => exact isDue_settle t
  | succ ms =>
    rw [advance_succ]
    exact isDue_settle _

/-- Settling is a run of the reaper alone. -/
theorem exists_run_settle (t : Table) : ∃ n, t.settle = t.run (List.replicate n .reap) := by
  obtain ⟨n, -, same⟩ := reapUpTo_eq_run t.backlog t
  exact ⟨n, same⟩

/-- Time that passes is a run like any other, of the clock and the reaper. -/
theorem exists_run_advance (t : Table) (ms : Nat) : ∃ es, t.advance ms = t.run es := by
  induction ms with
  | zero =>
    obtain ⟨n, same⟩ := exists_run_settle t
    exact ⟨_, same⟩
  | succ ms ih =>
    obtain ⟨es, same⟩ := ih
    obtain ⟨n, settled⟩ := exists_run_settle ((t.advance ms).tick millisecond)
    refine ⟨es ++ .tick millisecond :: List.replicate n .reap, ?_⟩
    rw [advance_succ, settled, run_append, ← same, run_cons]
    rfl

theorem Sound.settle (s : t.Sound) : t.settle.Sound := by
  obtain ⟨n, same⟩ := exists_run_settle t
  rw [same]
  exact s.run _

theorem Sound.advance (s : t.Sound) (ms : Nat) : (t.advance ms).Sound := by
  obtain ⟨es, same⟩ := exists_run_advance t ms
  rw [same]
  exact s.run es

theorem reaper_advance (t : Table) (ms : Nat) : (t.advance ms).reaper = t.reaper := by
  rw [advance_eq_pace]
  induction ms with
  | zero => exact congrArg Scene.reaper (scene_settle t)
  | succ ms ih =>
    rw [Function.iterate_succ_apply', pace]
    exact (congrArg Scene.reaper (scene_settle _)).trans ih

theorem now_advance (t : Table) (ms : Nat) : (t.advance ms).now = t.now + ms * millisecond := by
  induction ms with
  | zero =>
    rw [Nat.zero_mul]
    exact congrArg Scene.now (scene_settle t)
  | succ ms ih =>
    rw [advance_succ, Nat.succ_mul, ← Nat.add_assoc, ← ih]
    exact congrArg Scene.now (scene_settle _)

/-! ## Leases -/

variable {kind : LockKind} {leased : Bool} {reaper : Reaper} {horizon : Horizon}

theorem leased_run (es : List Event) :
    ((opening kind leased reaper horizon).run es).leased = leased := by
  refine opening_induction kind leased reaper horizon (P := fun _ t => t.leased = leased) rfl ?_ es
  intro ms m s ih
  exact (m.way s).settings.2.1.trans ih

theorem horizon_run (es : List Event) :
    ((opening kind leased reaper horizon).run es).horizon = horizon := by
  refine opening_induction kind leased reaper horizon (P := fun _ t => t.horizon = horizon)
    rfl ?_ es
  intro ms m s ih
  exact (m.way s).settings.2.2.trans ih

theorem kind_run (es : List Event) : ((opening kind leased reaper horizon).run es).kind = kind := by
  refine opening_induction kind leased reaper horizon (P := fun _ t => t.kind = kind) rfl ?_ es
  intro ms m s ih
  exact (m.way s).settings.1.trans ih

/-- **No lease outlives its deadline.** Where grants have deadlines, at every moment of every
run each held key has one record under the number of its grant, and it carries the key and
the deadline of the holder; so there are as many records as held keys at least. Whenever
the reaper is there and has looked after all that is due, no deadline of a record or of a
holder has come; and that is so after settling, which takes no time and does nothing but let
the reaper go on, and after any time that passes. -/
theorem no_lease_outlives_its_deadline (kind : LockKind) (reaper : Reaper) (horizon : Horizon)
    (es : List Event) :
    let t := (opening kind true reaper horizon).run es
    (∀ key h, t.holder? key = some h → ∃ d seq, h.expiresAt = some d
        ∧ t.delays.records.filter (fun r => r.grant = h.grant) = [⟨key, h.grant, d, seq⟩])
      ∧ t.trackedKeys ≤ t.delays.size
      ∧ (t.settle.now = t.now ∧ ∃ n, t.settle = t.run (List.replicate n .reap))
      ∧ (t.reaper = .running → ∀ u, (u = t.settle ∨ ∃ ms, u = t.advance ms) →
          (∀ r ∈ u.delays.records, u.now < r.deadline)
            ∧ ∀ key h, u.holder? key = some h → ∃ d, h.expiresAt = some d ∧ u.now < d) := by
  intro t
  have s : t.Sound := sound_run es
  have r : t.Recorded := recorded_run es
  have deadlines : ∀ fs key h, ((opening kind true reaper horizon).run fs).holder? key = some h →
      ∃ d, h.expiresAt = some d := by
    intro fs key h held
    have due := (sound_run fs).expiry_eq key h held
    rw [leased_run, if_pos rfl] at due
    exact ⟨_, due⟩
  refine ⟨?_, r.trackedKeys_le s (leased_run es), ⟨?_, exists_run_settle t⟩, ?_⟩
  · intro key h held
    obtain ⟨d, due⟩ := deadlines es key h held
    obtain ⟨seq, only⟩ := r.filter_eq s.toScheduled held due
    exact ⟨d, seq, due, only⟩
  · exact congrArg Scene.now (scene_settle t)
  · intro running u which
    -- Either way nothing is due in it, and a run leads to it.
    have settled : u.isDue = false ∧ u.reaper = .running
        ∧ ∃ fs, u = (opening kind true reaper horizon).run fs := by
      rcases which with rfl | ⟨ms, rfl⟩
      · obtain ⟨n, same⟩ := exists_run_settle t
        refine ⟨isDue_settle t, (congrArg Scene.reaper (scene_settle t)).trans running,
          es ++ List.replicate n .reap, ?_⟩
        rw [same, run_append]
      · obtain ⟨fs, same⟩ := exists_run_advance t ms
        refine ⟨isDue_advance t ms, (reaper_advance t ms).trans running, es ++ fs, ?_⟩
        rw [same, run_append]
    obtain ⟨still, running', fs, rfl⟩ := settled
    have future := fun {record} => lt_deadline_of_not_due (r := record) still running'
    refine ⟨fun record member => future member, ?_⟩
    intro key h held
    obtain ⟨d, due⟩ := deadlines fs key h held
    obtain ⟨record, member, mine⟩ := (recorded_run fs).present key h d held due
    have own := ((sound_run fs).record_holder record member key h held mine.symm).2
    refine ⟨d, due, ?_⟩
    rw [← Option.some.inj (own.symm.trans due)]
    exact future member

end Table

end KeyedLocks
