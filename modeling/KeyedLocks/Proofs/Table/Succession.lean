/-
One after the other.

Nobody gives a key back, and time passes. The holder loses it at the first whole millisecond at
which his lease is over, the first who waits has it from then on for as long as he asked for, and
so on until nobody waits any more. When that is for each of them can be told beforehand
(`leaseEnd`, `handover`): it depends on nothing but the deadline of the holder and the queue.

The proof follows the table step by step with one number, the stage: how many of the queue have
been served (`Stage`). The clock stays between two handovers, since it stops at every whole
millisecond at which something is due. A step of the reaper that takes the key away comes when the
lease is over, so it comes at the handover, and it brings the key to the next stage. All other
steps leave the stage as it is, whatever they do to other keys and to records that are stale.
-/
import KeyedLocks.Proofs.Table.Elsewhere
import Mathlib.Order.Bounds.Basic

set_option autoImplicit false

namespace KeyedLocks

/-! ## Whole milliseconds -/

/-- The first moment that is no earlier than a given one and a number of whole milliseconds after
the start. -/
def tickAt (start moment : Nat) : Nat := start + nextTick (moment - start)

/-- A whole millisecond is no earlier than the moment exactly if it is no earlier than the first one
that is not. -/
theorem tickAt_le_iff (start moment n : Nat) :
    tickAt start moment ≤ start + n * millisecond ↔ moment ≤ start + n * millisecond := by
  unfold tickAt nextTick millisecond
  omega

/-- From a start on a whole millisecond these are the whole milliseconds of the clock. -/
theorem tickAt_of_whole {start moment : Nat} (whole : millisecond ∣ start)
    (ahead : start ≤ moment) : tickAt start moment = nextTick moment := by
  obtain ⟨n, rfl⟩ := whole
  unfold tickAt nextTick millisecond at *
  omega

/-- **The first whole millisecond** at which a moment has come. -/
theorem isLeast_tickAt (start moment : Nat) :
    IsLeast {x | moment ≤ x ∧ ∃ n, x = start + n * millisecond} (tickAt start moment) := by
  refine ⟨⟨(tickAt_le_iff start moment _).1 (Nat.le_refl _), _, rfl⟩, ?_⟩
  rintro x ⟨le, n, rfl⟩
  exact (tickAt_le_iff start moment n).2 le

theorem le_tickAt (start moment : Nat) : moment ≤ tickAt start moment :=
  (isLeast_tickAt start moment).1.1

/-- Before the moment has come the next whole millisecond is no later. -/
theorem tick_le_tickAt {start moment n : Nat} (early : start + n * millisecond < moment) :
    start + n * millisecond + millisecond ≤ tickAt start moment := by
  unfold tickAt nextTick millisecond at *
  omega

/-- A holder is known by everything else and the number of his grant. -/
theorem Holder.eq_of_unnumbered {h h' : Holder} (same : h.unnumbered = h') :
    h = { h' with grant := h.grant } := by
  rw [← same]
  rfl

namespace Table

variable {t u v : Table} {key : String} {i : Nat}

/-! ## Who comes when -/

/-- **When a lease ends.** Number 0 is the lease of the holder. The others are those of the queue
in their order, each of which begins when the one before is found to be over. -/
def leaseEnd (t : Table) (key : String) : Nat → Nat
  | 0 => ((t.holder? key).bind Holder.expiresAt).getD 0
  | i + 1 =>
    t.horizon.deadline (tickAt t.now (t.leaseEnd key i))
      (((t.queue key)[i]?.map fun w => w.request.lease).getD 0)

/-- When a lease is found to be over, and the key is passed on. -/
def handover (t : Table) (key : String) (i : Nat) : Nat := tickAt t.now (t.leaseEnd key i)

theorem leaseEnd_succ {w : Waiter} (turn : (t.queue key)[i]? = some w) :
    t.leaseEnd key (i + 1) = t.horizon.deadline (t.handover key i) w.request.lease := by
  rw [leaseEnd, turn]
  rfl

theorem leaseEnd_le_handover (t : Table) (key : String) (i : Nat) :
    t.leaseEnd key i ≤ t.handover key i := le_tickAt _ _

/-- The handovers come in the order of the queue. Two may fall on one moment, if a lease is empty or
shorter than what is left of the millisecond. -/
theorem handover_mono (t : Table) (key : String) : Monotone (t.handover key) := by
  refine monotone_nat_of_le_succ ?_
  intro i
  exact Nat.le_trans (t.horizon.le_deadline _ _) (t.leaseEnd_le_handover key (i + 1))

/-- No lease ends before the one of the holder does. -/
theorem le_leaseEnd (t : Table) (key : String) (i : Nat) : t.leaseEnd key 0 ≤ t.leaseEnd key i := by
  cases i with
  | zero => exact Nat.le_refl _
  | succ i =>
    calc t.leaseEnd key 0 ≤ t.handover key 0 := t.leaseEnd_le_handover key 0
      _ ≤ t.handover key i := t.handover_mono key (Nat.zero_le i)
      _ ≤ t.leaseEnd key (i + 1) := t.horizon.le_deadline _ _

/-- Who holds the key at a stage, without the number of his grant. -/
def tenant? (t : Table) (key : String) : Nat → Option Holder
  | 0 => (t.holder? key).map Holder.unnumbered
  | i + 1 => (t.queue key)[i]?.map fun w =>
    ⟨w.request, 0, 1, t.handover key i, some (t.leaseEnd key (i + 1))⟩

/-! ## Stages -/

/-- A table has come from another one to a stage of a key: so many of those who waited have been
served, each of them with one permit for his own lease, and the next of them holds the key. It is
no earlier than the handover to him and no later than the one from him. Before the first handover
the key is as it was. -/
structure Stage (t : Table) (key : String) (i : Nat) (u : Table) : Prop where
  bound : i ≤ (t.queue key).length + 1
  holder : (u.holder? key).map Holder.unnumbered = t.tenant? key i
  queue : u.queue key = (t.queue key).drop i
  served : ∀ j < i, ∀ w, (t.queue key)[j]? = some w → ∃ c ∈ u.calls, c.ticket = w.ticket
    ∧ c.request.key = key
    ∧ ∃ g, c.permit = some ⟨g, w.request.owner, 1, some (t.leaseEnd key (j + 1))⟩
  since : ∀ j < i, t.handover key j ≤ u.now
  til : i ≤ (t.queue key).length → u.now ≤ t.handover key i
  whole : ∃ n, u.now = t.now + n * millisecond
  horizon : u.horizon = t.horizon
  still : i = 0 → t.Untouched u key

/-- A held key whose holder has a deadline. -/
structure Leased (t : Table) (key : String) (h : Holder) : Prop where
  held : t.holder? key = some h
  ends : h.expiresAt = some (t.leaseEnd key 0)

namespace Stage

variable {h : Holder}

/-- At the start nobody was served. -/
theorem start (left : t.now < t.leaseEnd key 0) : t.Stage key 0 t where
  bound := Nat.zero_le _
  holder := rfl
  queue := rfl
  served j none := absurd none (Nat.not_lt_zero j)
  since j none := absurd none (Nat.not_lt_zero j)
  til _ := Nat.le_trans left.le (t.leaseEnd_le_handover key 0)
  whole := ⟨0, by rw [Nat.zero_mul, Nat.add_zero]⟩
  horizon := rfl
  still _ := .refl t key

/-- Whoever holds the key has the deadline of his stage, and there is a holder up to the last
stage. -/
theorem expiresAt (l : t.Leased key h) (s : t.Stage key i u) {h' : Holder}
    (held : u.holder? key = some h') :
    i ≤ (t.queue key).length ∧ h'.expiresAt = some (t.leaseEnd key i) := by
  have same := s.holder
  rw [held, Option.map_some] at same
  cases i with
  | zero =>
    rw [tenant?, l.held, Option.map_some] at same
    refine ⟨Nat.zero_le _, ?_⟩
    change h'.unnumbered.expiresAt = _
    rw [Option.some.inj same]
    exact l.ends
  | succ i =>
    obtain ⟨w, turn, same⟩ := Option.map_eq_some_iff.1 same.symm
    refine ⟨(List.getElem?_eq_some_iff.1 turn).1, ?_⟩
    change h'.unnumbered.expiresAt = _
    rw [← same]

theorem exists_holder (l : t.Leased key h) (s : t.Stage key i u)
    (within : i ≤ (t.queue key).length) : ∃ h', u.holder? key = some h' := by
  have same := s.holder
  cases i with
  | zero =>
    rw [tenant?, l.held, Option.map_some] at same
    obtain ⟨h', held, -⟩ := Option.map_eq_some_iff.1 same
    exact ⟨h', held⟩
  | succ i =>
    rw [tenant?, List.getElem?_eq_getElem within, Option.map_some] at same
    obtain ⟨h', held, -⟩ := Option.map_eq_some_iff.1 same
    exact ⟨h', held⟩

/-- **What leaves the key as it was** leaves the stage as it is. -/
theorem untouched (s : t.Stage key i u) (q : u.Queued) (same : u.Untouched v key)
    (now : v.now = u.now) (far : v.horizon = u.horizon) : t.Stage key i v where
  bound := s.bound
  holder := by rw [same.holder, s.holder]
  queue := by rw [same.queue, s.queue]
  served j early w turn := by
    obtain ⟨c, hc, ticket, here, ready⟩ := s.served j early w turn
    exact ⟨c, same.mem_calls q hc here, ticket, here, ready⟩
  since := by rw [now]; exact s.since
  til := by rw [now]; exact s.til
  whole := by rw [now]; exact s.whole
  horizon := far.trans s.horizon
  still none := (s.still none).trans same

/-- A millisecond passes while the lease is not over. -/
theorem tick (s : t.Stage key i u)
    (left : i ≤ (t.queue key).length → u.now < t.leaseEnd key i) :
    t.Stage key i (u.tick millisecond) where
  bound := s.bound
  holder := s.holder
  queue := s.queue
  served := s.served
  since j early := Nat.le_trans (s.since j early) (Nat.le_add_right _ _)
  til within := by
    obtain ⟨n, now⟩ := s.whole
    have early := left within
    change u.now + millisecond ≤ _
    rw [now] at early ⊢
    -- Both moments are whole, so the clock does not get past the handover.
    exact tick_le_tickAt early
  whole := by
    obtain ⟨n, now⟩ := s.whole
    refine ⟨n + 1, ?_⟩
    change u.now + millisecond = _
    rw [now, Nat.succ_mul, Nat.add_assoc]
  horizon := s.horizon
  still none := (s.still none).trans ⟨rfl, rfl, Nat.le_refl _, fun _ _ _ => rfl⟩

end Stage

/-! ## From one stage to the next -/

/-- Whoever has a permit keeps it when a key is passed on. -/
theorem Queued.mem_calls_handOn (q : t.Queued) {c : Call} (hc : c ∈ t.calls) {g : Grant}
    (ready : c.permit = some g) (k : String) : c ∈ (t.handOn k (t.queue k)).2.calls := by
  rw [calls_handOn, List.mem_map]
  refine ⟨c, hc, ?_⟩
  cases waiting : t.queue k with
  | nil => rfl
  | cons w ws =>
    have first : w ∈ t.queue k := waiting ▸ List.mem_cons_self
    have other := q.ticket_ne_of_permit hc ready (q.mem_queue.1 first).1
    simp [Call.take, grantFor, other]

/-- The first in the queue has a permit when the key is passed on. -/
theorem Queued.exists_served (q : t.Queued) {w : Waiter} {ws : List Waiter}
    (waiting : t.queue key = w :: ws) :
    ∃ c ∈ (t.handOn key (t.queue key)).2.calls, c.ticket = w.ticket ∧ c.request.key = key
      ∧ c.permit = some (t.newHolder w.request).toGrant := by
  obtain ⟨c, hc, -, rfl, here⟩ := q.exists_call_of_mem (waiting ▸ List.mem_cons_self)
  rw [calls_handOn, waiting]
  refine ⟨_, List.mem_map_of_mem hc, rfl, here, ?_⟩
  simp [Call.take, grantFor, Call.toWaiter]

namespace Stage

/-- If the lease is over it is the moment of the handover. -/
theorem now_eq (s : t.Stage key i u) (within : i ≤ (t.queue key).length)
    (ended : t.leaseEnd key i ≤ u.now) : u.now = t.handover key i := by
  obtain ⟨n, whole⟩ := s.whole
  refine Nat.le_antisymm (s.til within) ?_
  rw [whole] at ended ⊢
  exact (tickAt_le_iff t.now _ n).2 ended

/-- Those who were served before the key is passed on, and the first in the queue. -/
theorem served_handOn (s : t.Stage key i u) (sound : u.Sound)
    (expiry : ∀ w, (t.queue key)[i]? = some w →
      u.expiry w.request = some (t.leaseEnd key (i + 1))) :
    ∀ j < i + 1, ∀ w, (t.queue key)[j]? = some w →
      ∃ c ∈ (u.handOn key (u.queue key)).2.calls, c.ticket = w.ticket ∧ c.request.key = key
        ∧ ∃ g, c.permit = some ⟨g, w.request.owner, 1, some (t.leaseEnd key (j + 1))⟩ := by
  intro j early w turn
  rcases Nat.lt_succ_iff_lt_or_eq.1 early with before | rfl
  · obtain ⟨c, hc, ticket, here, g, ready⟩ := s.served j before w turn
    exact ⟨c, sound.mem_calls_handOn hc ready key, ticket, here, g, ready⟩
  · -- It is the turn of the first in the queue.
    obtain ⟨ws, waiting⟩ : ∃ ws, u.queue key = w :: ws := by
      refine List.head?_eq_some_iff.1 ?_
      rw [s.queue, List.head?_drop, turn]
    obtain ⟨c, hc, ticket, here, ready⟩ := sound.exists_served waiting
    refine ⟨c, hc, ticket, here, u.lastGrant + 1, ?_⟩
    rw [ready, Holder.toGrant, newHolder, expiry w turn]

/-- **The key is passed on** when the lease is over, and that brings it to the next stage. -/
theorem handOn (s : t.Stage key i u) (sound : u.Sound) (leased : u.leased = true)
    (within : i ≤ (t.queue key).length) (ended : t.leaseEnd key i ≤ u.now) :
    t.Stage key (i + 1) (u.handOn key (u.queue key)).2 := by
  have now : u.now = t.handover key i := s.now_eq within ended
  have clock : (u.handOn key (u.queue key)).2.now = t.handover key i :=
    (congrArg Scene.now (u.scene_handOn key (u.queue key))).trans now
  have expiry : ∀ w, (t.queue key)[i]? = some w →
      u.expiry w.request = some (t.leaseEnd key (i + 1)) := by
    intro w turn
    rw [Table.expiry, if_pos leased, leaseEnd_succ turn, now, s.horizon]
  refine ⟨Nat.succ_le_succ within, ?_, ?_, s.served_handOn sound expiry, ?_, ?_, ?_, ?_, ?_⟩
  -- The new holder is the one whose turn it is, with the lease that he was told.
  · rw [holder?_handOn, if_pos rfl, s.queue, List.head?_drop, Option.map_map, tenant?]
    refine Option.map_congr ?_
    intro w turn
    have ends := expiry w turn
    simp only [Function.comp_apply, newHolder, Holder.unnumbered, ends, now]
  · rw [queue_handOn, if_pos rfl, s.queue, List.tail_drop]
  · intro j early
    rw [clock]
    exact t.handover_mono key (Nat.lt_succ_iff.1 early)
  · intro _
    rw [clock]
    exact t.handover_mono key (Nat.le_succ i)
  · rw [clock, ← now]
    exact s.whole
  · exact (congrArg Scene.horizon (u.scene_handOn key (u.queue key))).trans s.horizon
  · intro none
    cases none

end Stage

/-- **A step of the reaper** keeps to the stages. -/
theorem Stage.reap {h : Holder} (l : t.Leased key h) (s : t.Stage key i u) (sound : u.Sound)
    (leased : u.leased = true) (due : u.isDue = true) : ∃ j, t.Stage key j u.reap.2 := by
  rcases untouched_or_expired sound due key with same | ⟨h', d, held, ends, ended, after⟩
  -- Another key was concerned, or the record was stale.
  · have scene := scene_reap u
    exact ⟨i, s.untouched sound.toQueued same (congrArg Scene.now scene)
      (congrArg Scene.horizon scene)⟩
  · obtain ⟨within, own⟩ := s.expiresAt l held
    -- The deadline that has come is the one that was told beforehand.
    rw [← Option.some.inj (own.symm.trans ends)] at ended
    have drained := s.untouched sound.toQueued (u.untouched_drain key) rfl rfl
    rw [after]
    exact ⟨i + 1, drained.handOn sound.drain leased within ended⟩

/-- Many steps of the reaper keep to the stages, and may pass several of them at one moment. -/
theorem Stage.reapUpTo {h : Holder} (l : t.Leased key h) (s : t.Stage key i u) (sound : u.Sound)
    (leased : u.leased = true) (n : Nat) : ∃ j, t.Stage key j (reapUpTo n u) := by
  induction n generalizing i u with
  | zero => exact ⟨i, s⟩
  | succ n ih =>
    unfold Table.reapUpTo
    split
    · next due =>
      obtain ⟨j, s'⟩ := s.reap l sound leased due
      exact ih s' (sound.way (way_reap u))
        ((congrArg Scene.leased (scene_reap u)).trans leased)
    · exact ⟨i, s⟩

/-! ## Time that passes -/

/-- An event is about another key: it neither asks for the key, nor does a call for the key look or
depart, nor is the key given back or taken away. The clock and whoever looks after deadlines are
left alone. -/
def Elsewhere (t : Table) (key : String) : Event → Prop
  | .tick _ | .stopReaper => False
  | .reap => True
  | e => ∀ k, t.aim? e = some k → k ≠ key

/-- **Time passes for a key**, a number of milliseconds all in all, while anything may happen to
other keys. -/
inductive Passing (key : String) (t : Table) : Nat → Table → Prop
  | refl : Passing key t 0 t
  | wait (ms : Nat) {n : Nat} {u : Table} (before : Passing key t n u) :
    Passing key t (n + ms) (u.advance ms)
  | elsewhere (e : Event) {n : Nat} {u : Table} (before : Passing key t n u)
    (apart : u.Elsewhere key e) : Passing key t n (u.step e).2

/-- Time that passes for a key is part of a run. -/
theorem Passing.exists_run {n : Nat} (p : Passing key t n u) : ∃ fs, u = t.run fs := by
  induction p with
  | refl => exact ⟨[], rfl⟩
  | wait ms _ ih =>
    obtain ⟨fs, rfl⟩ := ih
    obtain ⟨gs, same⟩ := exists_run_advance (t.run fs) ms
    exact ⟨fs ++ gs, by rw [same, run_append]⟩
  | elsewhere e _ _ ih =>
    obtain ⟨fs, rfl⟩ := ih
    exact ⟨fs ++ [e], by rw [run_append]; rfl⟩

/-- A key at rest at a stage: all that is due was looked after, so there is time left. -/
structure Tenancy (t : Table) (key : String) (i : Nat) (u : Table) : Prop extends
    Stage t key i u, Sound u, Recorded u where
  leased : u.leased = true
  running : u.reaper = .running
  left : i ≤ (t.queue key).length → u.now < t.leaseEnd key i

/-- **Settling** brings a key to rest. -/
theorem Stage.settle {h : Holder} (l : t.Leased key h) (s : t.Stage key i u) (sound : u.Sound)
    (recorded : u.Recorded) (leased : u.leased = true) (running : u.reaper = .running) :
    ∃ j, t.Tenancy key j u.settle := by
  obtain ⟨j, s'⟩ := s.reapUpTo l sound leased u.backlog
  have recorded' : u.settle.Recorded := by
    obtain ⟨n, same⟩ := exists_run_settle u
    rw [same]
    exact recorded.run sound _
  have running' : u.settle.reaper = .running :=
    (congrArg Scene.reaper (scene_settle u)).trans running
  refine ⟨j, s', sound.settle, recorded', (congrArg Scene.leased (scene_settle u)).trans leased,
    running', fun within => ?_⟩
  obtain ⟨h', held⟩ := s'.exists_holder l within
  exact recorded'.lt_deadline sound.settle (isDue_settle u) running' held (s'.expiresAt l held).2

namespace Tenancy

variable {h : Holder}

/-- **Some milliseconds pass**, and the key is at rest again. -/
theorem wait (l : t.Leased key h) (y : t.Tenancy key i u) (ms : Nat) :
    ∃ j, t.Tenancy key j (u.advance ms) := by
  induction ms with
  | zero => exact y.toStage.settle l y.toSound y.toRecorded y.leased y.running
  | succ ms ih =>
    obtain ⟨j, y'⟩ := ih
    have way := step_way y'.toQueued (.tick millisecond)
    rw [advance_succ]
    exact (y'.toStage.tick y'.left).settle l (y'.toSound.way way)
      (way.recorded y'.toSound y'.toRecorded) y'.leased y'.running

/-- The reaper leaves a key alone that has time left. -/
theorem reap (l : t.Leased key h) (y : t.Tenancy key i u) : u.Untouched u.reap.2 key := by
  cases due : u.isDue with
  | false =>
    cases popped : u.delays.popDue u.now with
    | none =>
      rw [reap_of_none_due popped]
      exact .refl u key
    | some _ =>
      rw [isDue, y.running, popped] at due
      cases due
  | true =>
    rcases untouched_or_expired y.toSound due key with same | ⟨h', d, held, ends, ended, -⟩
    · exact same
    · obtain ⟨within, own⟩ := y.expiresAt l held
      have left := y.left within
      rw [Option.some.inj (own.symm.trans ends)] at left
      exact absurd ended (Nat.not_le.2 left)

/-- **What happens to other keys** leaves a key at rest where it is. -/
theorem elsewhere (l : t.Leased key h) (y : t.Tenancy key i u) {e : Event}
    (apart : u.Elsewhere key e) : t.Tenancy key i (u.step e).2 ∧ (u.step e).2.now = u.now := by
  have way := step_way y.toQueued e
  have same : u.Untouched (u.step e).2 key ∧ (u.step e).2.now = u.now
      ∧ (u.step e).2.reaper = u.reaper := by
    have scene : (u.step e).1 ≠ .done → (u.step e).2.scene = u.scene := way.scene
    cases e with
    -- Time passes by `wait` only, so that whatever is due is looked after.
    | tick | stopReaper => exact apart.elim
    | reap =>
      have scene := scene_reap u
      exact ⟨y.reap l, congrArg Scene.now scene, congrArg Scene.reaper scene⟩
    | cancel token =>
      refine ⟨way.untouched y.toSound apart, ?_⟩
      change (u.cancel token).now = _ ∧ (u.cancel token).reaper = _
      unfold cancel
      split <;> exact ⟨rfl, rfl⟩
    | _ =>
      have scene := scene (by intro h; cases h)
      exact ⟨way.untouched y.toSound apart, congrArg Scene.now scene, congrArg Scene.reaper scene⟩
  obtain ⟨same, now, reaper⟩ := same
  refine ⟨⟨y.toStage.untouched y.toQueued same now way.settings.2.2, y.toSound.way way,
    way.recorded y.toSound y.toRecorded, way.settings.2.1.trans y.leased,
    reaper.trans y.running, ?_⟩, now⟩
  rw [now]
  exact y.left

end Tenancy

/-- **A key follows its stages** for as long as time passes. -/
theorem Passing.tenancy {h : Holder} (l : t.Leased key h) (start : t.Tenancy key 0 t) {n : Nat}
    (p : Passing key t n u) : (∃ i, t.Tenancy key i u) ∧ u.now = t.now + n * millisecond := by
  induction p with
  | refl =>
    refine ⟨⟨0, start⟩, ?_⟩
    rw [Nat.zero_mul, Nat.add_zero]
  | wait ms _ ih =>
    obtain ⟨⟨i, y⟩, now⟩ := ih
    refine ⟨y.wait l ms, ?_⟩
    rw [now_advance, now, Nat.add_mul, Nat.add_assoc]
  | elsewhere e _ apart ih =>
    obtain ⟨⟨i, y⟩, now⟩ := ih
    obtain ⟨y', clock⟩ := y.elsewhere l apart
    exact ⟨⟨i, y'⟩, clock.trans now⟩

/-! ## The whole timeline -/

/-- The stage is told by the clock: it is the one after the last handover that has come. -/
theorem Tenancy.stage_eq (y : t.Tenancy key i u) {k : Nat} (within : k ≤ (t.queue key).length)
    (come : t.handover key k ≤ u.now)
    (last : ∀ j, k < j → j ≤ (t.queue key).length → u.now < t.handover key j) : i = k + 1 := by
  rcases Nat.lt_trichotomy i (k + 1) with early | same | late
  · -- In an earlier stage there would be time left, and the handover would not have come.
    -- An earlier stage would have a later handover.
    have i_le : i ≤ k := Nat.lt_succ_iff.1 early
    have left := y.left (Nat.le_trans i_le within)
    have ahead := Nat.le_trans (t.leaseEnd_le_handover key i) (t.handover_mono key i_le)
    omega
  · exact same
  · -- A later stage begins at a handover that has not come.
    have bound := y.bound
    have future := last (k + 1) (Nat.lt_succ_self k) (by omega)
    exact absurd (y.since (k + 1) late) (Nat.not_le.2 future)

/-- A held key has a deadline where grants have deadlines. -/
theorem Sound.leased_of_held {h : Holder} (s : t.Sound) (leased : t.leased = true)
    (held : t.holder? key = some h) : t.Leased key h := by
  refine ⟨held, ?_⟩
  have own := s.expiry_eq key h held
  rw [leased, if_pos rfl] at own
  rw [leaseEnd, held, Option.bind_some, own]
  rfl

/-- **A key passes down its queue.** Take any run of a table whose grants have deadlines, and
anyone who holds a key when the reaper has looked after all that is due. Now some milliseconds
pass, whatever happens to other keys, and nobody asks for the key or gives it back. The holder's
lease ends at its deadline; each handover comes at the first whole millisecond at which the lease
is over, and the next lease begins there and lasts as long as it was asked for. The milliseconds
are counted from the present, and those are the ticks of the timer wherever the clock stands on
one. Before the first handover the key is as it was. After that, look at the last handover that
has come: whoever was next in the queue then holds the key since that moment and until the end of
his lease, and those behind him wait; if nobody was left the key is free and no slot is kept for
it. Everyone who was served was given one grant, with the deadline of his lease. -/
theorem key_passes_down_its_queue (kind : LockKind) (reaper : Reaper) (horizon : Horizon)
    (es : List Event) (key : String) (h : Holder) (n : Nat) (u : Table) :
    let t := (opening kind true reaper horizon).run es
    let ws := t.queue key
    t.reaper = .running → t.isDue = false → t.holder? key = some h → Passing key t n u →
    u.now = t.now + n * millisecond
      ∧ (h.expiresAt = some (t.leaseEnd key 0)
        ∧ (∀ i, IsLeast {x | t.leaseEnd key i ≤ x ∧ ∃ m, x = t.now + m * millisecond}
          (t.handover key i))
        ∧ (∀ i w, ws[i]? = some w →
          t.leaseEnd key (i + 1) = t.horizon.deadline (t.handover key i) w.request.lease)
        ∧ (millisecond ∣ t.now → ∀ i, t.handover key i = nextTick (t.leaseEnd key i)))
      ∧ (u.now < t.handover key 0 → t.Untouched u key)
      ∧ (∀ i ≤ ws.length, t.handover key i ≤ u.now →
        (∀ j, i < j → j ≤ ws.length → u.now < t.handover key j) →
        (∀ w, ws[i]? = some w → u.queue key = ws.drop (i + 1) ∧ ∃ g, u.holder? key
            = some ⟨w.request, g, 1, t.handover key i, some (t.leaseEnd key (i + 1))⟩)
          ∧ (i = ws.length → u.slots.get? key = none)
          ∧ ∀ fs, u = t.run fs → ∀ j ≤ i, ∀ w, ws[j]? = some w →
            ∃ g, given ((opening kind true reaper horizon).history (es ++ fs)) w.ticket
              = [⟨g, w.request.owner, 1, some (t.leaseEnd key (j + 1))⟩])
      ∧ ∃ fs, u = t.run fs := by
  intro t ws running settled held passing
  have sound : t.Sound := sound_run es
  have recorded : t.Recorded := recorded_run es
  have leased : t.leased = true := leased_run es
  have l : t.Leased key h := sound.leased_of_held leased held
  have left : t.now < t.leaseEnd key 0 := recorded.lt_deadline sound settled running held l.ends
  obtain ⟨⟨i, y⟩, now⟩ := passing.tenancy l
    ⟨.start left, sound, recorded, leased, running, fun _ => left⟩
  have ticks : millisecond ∣ t.now → ∀ k, t.handover key k = nextTick (t.leaseEnd key k) := by
    intro whole k
    exact tickAt_of_whole whole (Nat.le_trans left.le (t.le_leaseEnd key k))
  refine ⟨now, ⟨l.ends, fun k => isLeast_tickAt _ _, fun k w turn => leaseEnd_succ turn, ticks⟩,
    ?_, ?_, passing.exists_run⟩
  · intro early
    refine y.still ?_
    by_contra later
    exact absurd (y.since 0 (Nat.pos_of_ne_zero later)) (Nat.not_le.2 early)
  · intro k within come last
    -- The stage is known now, and everything is read off it.
    obtain rfl := y.stage_eq within come last
    have holder := y.holder
    rw [tenant?] at holder
    refine ⟨fun w turn => ⟨y.queue, ?_⟩, fun all => ?_, fun fs same j le w turn => ?_⟩
    · rw [turn, Option.map_some] at holder
      obtain ⟨h', held', same⟩ := Option.map_eq_some_iff.1 holder
      exact ⟨h'.grant, held'.trans (congrArg some (Holder.eq_of_unnumbered same))⟩
    · rw [List.getElem?_eq_none all.ge, Option.map_none] at holder
      exact Option.map_eq_none_iff.1 (Option.map_eq_none_iff.1 holder)
    · obtain ⟨c, hc, ticket, -, g, ready⟩ := y.served j (Nat.lt_succ_iff.2 le) w turn
      rw [same, ← run_append] at hc
      refine ⟨g, ?_⟩
      rw [← ticket, (placed_run (es ++ fs)).given_eq c hc, ready]
      rfl

/-- Three wait behind a lease of five milliseconds, for two and a half, for none, and for ten. The
key is passed on after five milliseconds, after eight, and after eight again. -/
theorem two_handovers_in_one_millisecond :
    let ask (n : Int32) (thread : String) (d : Int64) : Request :=
      ⟨"k", n, ⟨"app", thread⟩, .timeout, some ⟨d, .microseconds⟩, 0⟩
    let t := (opening .timeout true .running .widest).run [.tryAcquire (ask 1 "a" 5000),
      .acquire "" (ask 2 "b" 2500), .acquire "" (ask 3 "c" 0), .acquire "" (ask 4 "d" 10000)]
    let u := t.advance 8
    t.reaper = .running ∧ t.isDue = false
      ∧ t.holder? "k" = some ⟨ask 1 "a" 5000, 1, 1, 0, some 5000000⟩ ∧ Passing "k" t 8 u
      ∧ (List.range 4).map (t.handover "k") = [5000000, 8000000, 8000000, 18000000]
      ∧ u.queue "k" = []
      ∧ ∃ g, u.holder? "k" = some ⟨ask 4 "d" 10000, g, 1, 8000000, some 18000000⟩ := by
  intro ask t u
  have running : t.reaper = .running := by decide +kernel
  have settled : t.isDue = false := by decide +kernel
  have held : t.holder? "k" = some ⟨ask 1 "a" 5000, 1, 1, 0, some 5000000⟩ := by decide +kernel
  have passing : Passing "k" t 8 u := .wait 8 .refl
  have waiting : t.queue "k" = [⟨0, ask 2 "b" 2500⟩, ⟨1, ask 3 "c" 0⟩, ⟨2, ask 4 "d" 10000⟩] := by
    decide +kernel
  have times : (List.range 4).map (t.handover "k") = [5000000, 8000000, 8000000, 18000000] := by
    decide +kernel
  have ends : t.leaseEnd "k" 3 = 18000000 := by decide +kernel
  have clock : u.now = 8000000 := (now_advance t 8).trans (by decide +kernel)
  -- The last handover that has come is number 2, to the one who asked for ten milliseconds.
  have turn := (key_passes_down_its_queue .timeout .running .widest _ "k" _ 8 u running settled
    held passing).2.2.2.1 2
  change 2 ≤ (t.queue "k").length → t.handover "k" 2 ≤ u.now →
    (∀ j, 2 < j → j ≤ (t.queue "k").length → u.now < t.handover "k" j) →
    (∀ w, (t.queue "k")[2]? = some w → u.queue "k" = (t.queue "k").drop 3
      ∧ ∃ g, u.holder? "k" = some ⟨w.request, g, 1, t.handover "k" 2, some (t.leaseEnd "k" 3)⟩)
    ∧ _ at turn
  rw [waiting, clock, ends] at turn
  have last : ∀ j, 2 < j → j ≤ 3 → 8000000 < t.handover "k" j := by
    intro j after within
    obtain rfl : j = 3 := Nat.le_antisymm within after
    decide +kernel
  have second : t.handover "k" 2 = 8000000 := by decide +kernel
  rw [second] at turn
  exact ⟨running, settled, held, passing, times, (turn (by decide) (Nat.le_refl _) last).1 _ rfl⟩

end Table

end KeyedLocks
