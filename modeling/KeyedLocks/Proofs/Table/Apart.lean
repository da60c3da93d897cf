/-
Keys apart from each other.

Two things could carry what happens on one key over to another: an operation on another key,
and the reaper, who takes the records of all keys in one order. The first leaves the side of a
key as it was (`Way.side_other`). Of the second each step leaves the side as it was or takes the
key away from a holder whose deadline has come; and when nothing is due in the table nothing is
due on the side. So whatever else there is to do, and in whatever order, the side ends up where
it would by itself (`side_settle_congr`), and the same goes for time that passes
(`side_advance_congr`).
-/
import KeyedLocks.Proofs.Table.Alone
import KeyedLocks.Proofs.Table.Elsewhere

set_option autoImplicit false

namespace KeyedLocks

namespace Table

variable {t u : Table} {key : String} {tickets : List (Option Nat)}

/-! ## Tickets -/

/-- A step in which nobody joins a queue leaves the tickets in order. -/
theorem Ticketed.way (f : t.Ticketed key tickets) (q : t.Queued) {e : Event} {o : Outcome}
    (w : Way t e o u) (nobody : joins? e o = none) : u.Ticketed key tickets := by
  refine f.mono ?_ w.nextTicket_le
  intro d hd
  rw [w.calls q, nobody, Option.toList_none, List.append_nil] at hd
  obtain ⟨c, hc, rfl⟩ := List.mem_map.1 hd
  exact ⟨c, (List.mem_filter.1 hc).1, rfl, rfl⟩

/-- A place may stand for a request that did not have to wait. -/
theorem Ticketed.append_none (f : t.Ticketed key tickets) : t.Ticketed key (tickets ++ [none]) where
  ascending := by
    rw [List.pairwise_append]
    refine ⟨f.ascending, List.pairwise_singleton _ _, ?_⟩
    intro a _ b hb m _ n hn
    rw [List.mem_singleton.1 hb] at hn
    cases hn
  drawn n hn := by
    refine f.drawn n ?_
    simpa using hn
  own c hc := by
    rw [← f.own c hc]
    simp

/-- Whoever joins a queue has the last ticket for its key. -/
theorem Ticketed.enqueue (f : t.Ticketed key tickets) (q : t.Queued) (token : String)
    (r : Request) :
    (t.enqueue token r).Ticketed key
      (if r.key = key then tickets ++ [some t.nextTicket] else tickets) := by
  have next : (t.enqueue token r).nextTicket = t.nextTicket + 1 := by
    obtain ⟨slots, eq⟩ := t.enqueue_eq token r
    rw [eq]
  -- Tickets in the list were drawn earlier, so the new one is not among them.
  have fresh : some t.nextTicket ∉ tickets := by
    intro member
    exact Nat.lt_irrefl _ (f.drawn _ member)
  by_cases here : r.key = key
  · rw [if_pos here]
    refine ⟨?_, ?_, ?_⟩
    · rw [List.pairwise_append]
      refine ⟨f.ascending, List.pairwise_singleton _ _, ?_⟩
      intro a ha b hb m hm n hn
      rw [List.mem_singleton.1 hb] at hn
      rw [← Option.some.inj hn]
      exact f.drawn m (hm ▸ ha)
    · intro n hn
      rw [next]
      rcases List.mem_append.1 hn with old | new
      · exact Nat.lt_succ_of_lt (f.drawn n old)
      · rw [Option.some.inj (List.mem_singleton.1 new)]
        exact Nat.lt_succ_self _
    · intro c hc
      rw [calls_enqueue, List.mem_append, List.mem_singleton] at hc
      rw [List.mem_append, List.mem_singleton]
      rcases hc with old | rfl
      · have older := q.ticket_lt c old
        rw [← f.own c old]
        refine or_iff_left ?_
        intro same
        rw [Option.some.inj same] at older
        exact Nat.lt_irrefl _ older
      · exact iff_of_true (.inr rfl) here
  · rw [if_neg here]
    refine ⟨f.ascending, fun n hn => next ▸ Nat.lt_succ_of_lt (f.drawn n hn), ?_⟩
    intro c hc
    rw [calls_enqueue, List.mem_append, List.mem_singleton] at hc
    rcases hc with old | rfl
    · exact f.own c old
    · exact iff_of_false fresh here

/-! ## What is done on another key -/

/-- What leaves a key as it was leaves its side as it was, if the scene stays the same. -/
theorem Untouched.side_eq (same : t.Untouched u key) (q : t.Queued) (f : t.Ticketed key tickets)
    (scene : u.scene = t.scene) : u.side key tickets = t.side key tickets := by
  refine side_congr scene same.holder ?_
  intro n hn
  refine same.call n (f.drawn n hn) ?_
  intro c found
  obtain ⟨hc, rfl⟩ := q.call?_eq_some_iff.1 found
  exact (f.own c hc).1 hn

/-- **A step on another key** leaves the side of a key as it was. -/
theorem Way.side_other (s : t.Sound) (f : t.Ticketed key tickets) {e : Event} {o : Outcome}
    (w : Way t e o u) (answers : o ≠ .done) (other : ∀ k, t.aim? e = some k → k ≠ key) :
    u.side key tickets = t.side key tickets :=
  (w.untouched s other).side_eq s.toQueued f (w.scene answers)

/-! ## Looking after what is due -/

/-- The clock goes on alike on the side and in the table. -/
theorem side_tick (t : Table) (ns : Nat) (key : String) (tickets : List (Option Nat)) :
    (t.tick ns).side key tickets = (t.side key tickets).tick ns := rfl

/-- **A step of the reaper** leaves the side as it was, or takes the key away from a holder whose
deadline has come. -/
theorem side_reap (s : t.Sound) (f : t.Ticketed key tickets) (due : t.isDue = true) :
    t.reap.2.side key tickets = t.side key tickets
      ∨ t.reap.2.side key tickets = (t.side key tickets).expire := by
  rcases untouched_or_expired s due key with same | ⟨h, d, held, ends, now, after⟩
  · exact .inl (same.side_eq s.toQueued f (scene_reap t))
  · right
    have holder : (t.side key tickets).holder = some h.unnumbered :=
      congrArg (Option.map Holder.unnumbered) held
    -- The deadline that has come is that of the holder on the side.
    have ended : (t.side key tickets).isDue = true := by
      rw [Side.isDue, holder, Bool.and_eq_true, decide_eq_true_eq, Option.bind_some,
        show h.unnumbered.expiresAt = some d from ends]
      exact ⟨(isDue_iff.1 due).1, decide_eq_true now⟩
    rw [Side.expire, if_pos ended, after]
    exact side_handOn s.drain f.drain

/-- When nothing is due in a table, nothing is due on the side of a key. -/
theorem isDue_side (r : t.Recorded) (s : t.Sound) (settled : t.isDue = false) (key : String)
    (tickets : List (Option Nat)) : (t.side key tickets).isDue = false := by
  by_contra due
  rw [Bool.not_eq_false, Side.isDue, Bool.and_eq_true, decide_eq_true_eq,
    Option.any_eq_true] at due
  obtain ⟨running, d, ends, now⟩ := due
  obtain ⟨h', shown, ends⟩ := Option.bind_eq_some_iff.1 ends
  obtain ⟨h, held, rfl⟩ := Option.map_eq_some_iff.1 shown
  have late := r.lt_deadline s settled running held ends
  exact absurd (of_decide_eq_true now) (Nat.not_le.2 late)

end Table

/-! ## Settling by itself -/

namespace Side

variable {s : Side} {k l : Nat}

/-- Where nothing is due, more steps change nothing. -/
theorem expire_iterate_of_le (settled : (expire^[k] s).isDue = false) (le : k ≤ l) :
    expire^[l] s = expire^[k] s := by
  have fixed : expire (expire^[k] s) = expire^[k] s := if_neg (Bool.eq_false_iff.1 settled)
  rw [← Nat.sub_add_cancel le, Function.iterate_add_apply, Function.iterate_fixed fixed]

/-- There is one state only in which a side can come to rest. -/
theorem expire_iterate_unique (left : (expire^[k] s).isDue = false)
    (right : (expire^[l] s).isDue = false) : expire^[k] s = expire^[l] s := by
  rcases Nat.le_total k l with le | le
  · exact (expire_iterate_of_le left le).symm
  · exact expire_iterate_of_le right le

end Side

namespace Table

variable {t u : Table} {ts us : String → List (Option Nat)}

/-- What is known of a table between steps, with the tickets of the requests to wait for each
key. -/
structure Regular (t : Table) (ts : String → List (Option Nat)) : Prop
    extends Sound t, Recorded t where
  ticketed : ∀ key, t.Ticketed key (ts key)

namespace Regular

/-- A step in which nobody joins a queue keeps it. -/
theorem way (r : t.Regular ts) {e : Event} {o : Outcome} (w : Way t e o u)
    (nobody : joins? e o = none) : u.Regular ts :=
  ⟨r.toSound.way w, w.recorded r.toSound r.toRecorded,
    fun key => (r.ticketed key).way r.toQueued w nobody⟩

theorem reapUpTo (r : t.Regular ts) (n : Nat) : (reapUpTo n t).Regular ts := by
  induction n generalizing t with
  | zero => exact r
  | succ n ih =>
    unfold Table.reapUpTo
    split
    · exact ih (r.way (way_reap t) rfl)
    · exact r

/-- Settling keeps tables in order. -/
theorem settle (r : t.Regular ts) : t.settle.Regular ts := r.reapUpTo _

theorem tick (r : t.Regular ts) (ns : Nat) : (t.tick ns).Regular ts :=
  r.way (step_way r.toQueued (.tick ns)) rfl

theorem pace_iterate (r : t.Regular ts) (n : Nat) : (pace^[n] t).Regular ts := by
  induction n with
  | zero => exact r
  | succ n ih =>
    rw [Function.iterate_succ_apply']
    exact (ih.tick millisecond).settle

/-- Time that passes keeps tables in order. -/
theorem advance (r : t.Regular ts) (ms : Nat) : (t.advance ms).Regular ts := by
  rw [advance_eq_pace]
  exact r.settle.pace_iterate ms

/-- The end keeps tables in order. -/
theorem stop (r : t.Regular ts) (token : String) : (t.cancel token).stopReaper.Regular ts := by
  have off : (t.cancel token).Regular ts := r.way (step_way r.toQueued (.cancel token)) rfl
  exact off.way (step_way off.toQueued .stopReaper) rfl

/-- A request for a key that leaves no call behind has a place all the same. -/
theorem append_none (r : t.Regular ts) (k : String) :
    t.Regular fun key => if k = key then ts key ++ [none] else ts key := by
  refine ⟨r.toSound, r.toRecorded, ?_⟩
  intro key
  split
  · exact (r.ticketed key).append_none
  · exact r.ticketed key

/-- **A request to wait** has the next place for its key, with its ticket if it has one. -/
theorem lock (r : t.Regular ts) (token : String) (q : Request) :
    (t.lock token q).2.Regular fun key =>
      if q.key = key then ts key ++ [(t.lock token q).1.ticket?] else ts key := by
  have way := way_acquire r.toQueued token q
  rw [Table.lock]
  generalize t.acquire token q = answer at way
  obtain ⟨a, u⟩ := answer
  dsimp only at way
  -- Only whoever stays in the queue has a ticket; all others leave an empty place.
  cases way with
  | refuse h => cases h
  | claim _ _ free => exact (r.way (.claim token q free) rfl).append_none q.key
  | reenter _ _ slot held may own =>
    exact (r.way (.reenter token q slot held may own) rfl).append_none q.key
  | decline _ _ slot held off =>
    exact (r.way (.decline token q slot held off) rfl).append_none q.key
  | block _ _ slot held alive =>
    have way : Way t (.acquire token q) _ (t.enqueue token q) := .block token q slot held alive
    exact ⟨r.toSound.way way, way.recorded r.toSound r.toRecorded,
      fun key => (r.ticketed key).enqueue r.toQueued token q⟩

/-! ## Settling and time, seen from a key -/

/-- Of all that the reaper does only what takes the key away can be seen from it. -/
theorem side_reapUpTo (r : t.Regular ts) (key : String) (n : Nat) :
    ∃ k, (Table.reapUpTo n t).side key (ts key) = Side.expire^[k] (t.side key (ts key)) := by
  induction n generalizing t with
  | zero => exact ⟨0, rfl⟩
  | succ n ih =>
    unfold Table.reapUpTo
    split
    · next due =>
      obtain ⟨k, later⟩ := ih (r.way (way_reap t) rfl)
      rcases side_reap r.toSound (r.ticketed key) due with same | expired
      -- A step that is about another key counts as none on the side.
      · exact ⟨k, later.trans (by rw [same])⟩
      · exact ⟨k + 1, later.trans (by rw [expired, Function.iterate_succ_apply])⟩
    · exact ⟨0, rfl⟩

/-- **Settling** takes what two tables show alike to what they show alike, whatever else either
of them has to look after. -/
theorem side_settle_congr (r : t.Regular ts) (r' : u.Regular us) {key : String}
    (same : t.side key (ts key) = u.side key (us key)) :
    t.settle.side key (ts key) = u.settle.side key (us key) := by
  obtain ⟨k, left⟩ := r.side_reapUpTo key t.backlog
  obtain ⟨l, right⟩ := r'.side_reapUpTo key u.backlog
  have still := isDue_side r.settle.toRecorded r.settle.toSound (isDue_settle t) key (ts key)
  have still' := isDue_side r'.settle.toRecorded r'.settle.toSound (isDue_settle u) key (us key)
  change t.settle.side key (ts key) = _ at left
  change u.settle.side key (us key) = _ at right
  rw [left] at still
  rw [right, ← same] at still'
  -- Both have come to rest, and from one side there is one place to rest only.
  rw [left, right, ← same]
  exact Side.expire_iterate_unique still still'

/-- **Time that passes** does so too. -/
theorem side_advance_congr (r : t.Regular ts) (r' : u.Regular us) {key : String}
    (same : t.side key (ts key) = u.side key (us key)) (ms : Nat) :
    (t.advance ms).side key (ts key) = (u.advance ms).side key (us key) := by
  rw [advance_eq_pace, advance_eq_pace]
  induction ms with
  | zero => exact r.side_settle_congr r' same
  | succ ms ih =>
    rw [Function.iterate_succ_apply', Function.iterate_succ_apply']
    have left := (r.settle.pace_iterate ms).tick millisecond
    have right := (r'.settle.pace_iterate ms).tick millisecond
    refine left.side_settle_congr right ?_
    rw [side_tick, side_tick, ih]

end Regular

/-- Stopping touches the scene only. -/
theorem side_stop (t : Table) (token key : String) (tickets : List (Option Nat)) :
    (t.cancel token).stopReaper.side key tickets = (t.side key tickets).stop token := by
  have off : t.cancel token = { t with
      cancelled := if token ∈ t.cancelled then t.cancelled else token :: t.cancelled } := by
    unfold cancel
    split <;> rfl
  -- Only a reaper that runs can be stopped.
  have stopped : ∀ v : Table, v.stopReaper
      = { v with reaper := if v.reaper = .running then .stopped else v.reaper } := by
    intro v
    unfold stopReaper
    by_cases running : v.reaper = .running
    · rw [if_pos running, if_pos running]
    · rw [if_neg running, if_neg running]
  rw [stopped, off]
  rfl

end Table

end KeyedLocks
