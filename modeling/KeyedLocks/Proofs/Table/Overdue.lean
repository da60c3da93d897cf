/-
Records that are overdue.

When the clock stands still the reaper takes one overdue record after the other. A hand-on can put a
new record behind the one that was taken out, and if the lease is over before it begins the new
record is overdue as well; the records alone do not count down. What counts down is the overdue
records and all that wait together (`load`): a hand-on takes a waiter out of his queue for good,
and that is the only way in which a step makes a record (`load_reap`).

Records that are not overdue do not come into it. They are no part of the count, so it bounds the
steps however many of them there are, and no step takes one out (`mem_reap`).
-/
import KeyedLocks.Proofs.Table.Settling

set_option autoImplicit false

namespace KeyedLocks

/-! ## Records whose time has come -/

/-- The records whose deadline has come. -/
def DelayQueue.overdue (q : DelayQueue) (now : Nat) : List DelayRecord :=
  q.records.filter fun r => r.deadline ≤ now

namespace DelayQueue

variable {q : DelayQueue} {now : Nat}

theorem records_tail (q : DelayQueue) : q.tail.records = q.records.tail := rfl

/-- Putting a record in makes one more overdue at most. -/
theorem length_overdue_push_le (key : String) (grant deadline : Nat) :
    ((q.push key grant deadline).overdue now).length ≤ (q.overdue now).length + 1 := by
  have same := ((records_push_perm q key grant deadline).filter fun r => r.deadline ≤ now).length_eq
  rw [overdue, overdue, same, List.filter_cons]
  split
  · exact Nat.le_refl _
  · exact Nat.le_succ _

/-- Taking the first record out makes one less overdue if it was. -/
theorem length_overdue_tail {r : DelayRecord} (first : q.records.head? = some r)
    (due : r.deadline ≤ now) : (q.tail.overdue now).length + 1 = (q.overdue now).length := by
  obtain ⟨rest, split⟩ := List.head?_eq_some_iff.1 first
  have left : q.tail.records = rest := by rw [records_tail, split, List.tail_cons]
  rw [overdue, overdue, left, split, List.filter_cons_of_pos (by simpa using due), List.length_cons]

/-- Nothing that is not yet due stands in front. -/
theorem mem_tail {r first : DelayRecord} (front : q.records.head? = some first)
    (due : first.deadline ≤ now) (later : now < r.deadline) (member : r ∈ q.records) :
    r ∈ q.tail.records := by
  obtain ⟨rest, split⟩ := List.head?_eq_some_iff.1 front
  rw [split] at member
  rcases List.mem_cons.1 member with rfl | behind
  · omega
  · rw [records_tail, split]
    exact behind

end DelayQueue

namespace Table

variable {t : Table}

/-- A record is the one that has to be looked at next: its deadline has come, and it has to be
looked at before all others. -/
structure Next (t : Table) (r : DelayRecord) : Prop where
  member : r ∈ t.delays.records
  due : r.deadline ≤ t.now
  first : ∀ other ∈ t.delays.records, other = r ∨ r.Before other

/-- The record at the front, if it is due, has to be looked at next. -/
theorem next_of_head {r : DelayRecord} (first : t.delays.records.head? = some r)
    (due : r.deadline ≤ t.now) : t.Next r :=
  ⟨List.mem_of_head? first, due, DelayQueue.first_before first⟩

/-! ## What a step costs -/

/-- The overdue records and all that wait, together. -/
def load (t : Table) : Nat := (t.delays.overdue t.now).length + standing t.slots

/-- Passing a key on makes a record only for a waiter who leaves the queue. -/
theorem load_handOn {key : String} {s : Slot} (held : t.slots.get? key = some s) :
    (t.handOn key s.waiters).2.load ≤ t.load := by
  cases waiting : s.waiters with
  | nil => exact Nat.add_le_add_left (standing_erase_le t.slots key) _
  | cons w ws =>
    have fewer := standing_insert held ⟨t.newHolder w.request, ws⟩
    rw [waiting, List.length_cons] at fewer
    have records : ((t.install key w.request ws).2.delays.overdue t.now).length
        ≤ (t.delays.overdue t.now).length + 1 := by
      -- The new holder may be without a deadline, and then no record is made either.
      rcases t.records_install key w.request ws with ⟨-, same⟩ | ⟨d, -, new⟩
      · rw [same]
        exact Nat.le_succ _
      · rw [new]
        exact DelayQueue.length_overdue_push_le key _ d
    change ((t.install key w.request ws).2.delays.overdue t.now).length
      + standing (t.slots.insert key ⟨t.newHolder w.request, ws⟩)
        ≤ (t.delays.overdue t.now).length + standing t.slots
    dsimp only at fewer
    omega

/-- **Each step of the reaper makes the load lighter.** -/
theorem load_reap (due : t.isDue = true) : t.reap.2.load < t.load := by
  obtain ⟨r, first, now, ⟨-, after⟩ | ⟨s, held, -, after⟩⟩ := reap_of_due due
  -- A stale record is one less overdue, and nothing else has changed.
  · have fewer := DelayQueue.length_overdue_tail first now
    rw [after]
    change (t.delays.tail.overdue t.now).length + standing t.slots
      < (t.delays.overdue t.now).length + standing t.slots
    omega
  · have fewer := DelayQueue.length_overdue_tail first now
    -- The record is out before the key is passed on, so its loss is not made up for.
    have bound := load_handOn (t := { t with delays := t.delays.tail }) held
    rw [after]
    change _ ≤ (t.delays.tail.overdue t.now).length + standing t.slots at bound
    change _ < (t.delays.overdue t.now).length + standing t.slots
    omega

/-- Passing a key on leaves every record in its place. -/
theorem mem_handOn {key : String} {r : DelayRecord} (ws : List Waiter)
    (member : r ∈ t.delays.records) : r ∈ (t.handOn key ws).2.delays.records := by
  cases ws with
  | nil => exact member
  | cons w ws =>
    change r ∈ (t.install key w.request ws).2.delays.records
    rcases t.records_install key w.request ws with ⟨-, same⟩ | ⟨d, -, new⟩
    · rw [same]
      exact member
    · rw [new]
      exact DelayQueue.mem_records_push.2 (.inr member)

/-- **Records of the future are not touched** by a step of the reaper. -/
theorem mem_reap {r : DelayRecord} (due : t.isDue = true) (later : t.now < r.deadline)
    (member : r ∈ t.delays.records) : r ∈ t.reap.2.delays.records := by
  obtain ⟨first, front, now, ⟨-, after⟩ | ⟨s, -, -, after⟩⟩ := reap_of_due due
  · rw [after]
    exact DelayQueue.mem_tail front now later member
  · rw [after]
    exact mem_handOn (t := { t with delays := t.delays.tail }) s.waiters
      (DelayQueue.mem_tail front now later member)

/-- What a step of the reaper is: the next record is taken out, and its grant loses its key. -/
theorem exists_next (due : t.isDue = true) : ∃ r, t.Next r
    ∧ t.reap.2 = ({ t with delays := t.delays.tail }.revoke r.key r.grant).2 := by
  obtain ⟨running, r, first, now⟩ := isDue_iff.1 due
  refine ⟨r, next_of_head first now, ?_⟩
  rw [reap_of_popped running (DelayQueue.popDue_eq_some_iff.2 ⟨first, now, rfl⟩)]

/-! ## Many steps -/

/-- The table after some steps of the reaper. -/
def reaps (t : Table) (n : Nat) : Table := t.run (List.replicate n .reap)

@[simp] theorem reaps_zero (t : Table) : t.reaps 0 = t := rfl

@[simp] theorem reaps_succ (t : Table) (n : Nat) : t.reaps (n + 1) = t.reap.2.reaps n := rfl

theorem scene_reaps (t : Table) (n : Nat) : (t.reaps n).scene = t.scene := by
  induction n generalizing t with
  | zero => rfl
  | succ n ih => exact (ih _).trans (scene_reap t)

/-- A reaper who has nothing to do changes nothing, however often he looks. -/
theorem reaps_of_not_due (rest : t.isDue = false) (n : Nat) : t.reaps n = t := by
  have idle : t.reap.2 = t := by
    by_cases running : t.reaper = .running
    · rw [isDue, decide_eq_true running, Bool.true_and] at rest
      rw [reap_of_none_due (Option.isNone_iff_eq_none.1 (Option.isSome_eq_false_iff.1 rest))]
    · rw [reap_of_not_running running]
  induction n with
  | zero => rfl
  | succ n ih => rw [reaps_succ, idle, ih]

theorem reaps_add (t : Table) (m n : Nat) : t.reaps (m + n) = (t.reaps m).reaps n := by
  rw [reaps, List.replicate_add, run_append]
  rfl

/-- Something is due as long as the reaper is not through, and the load bounds his steps. -/
theorem exists_rest (t : Table) : ∃ n, n ≤ t.load ∧ (∀ k < n, (t.reaps k).isDue = true)
    ∧ (t.reaps n).isDue = false := by
  induction bound : t.load using Nat.strong_induction_on generalizing t with
  | _ load ih =>
    cases due : t.isDue with
    | false => exact ⟨0, Nat.zero_le _, fun k hk => absurd hk (Nat.not_lt_zero k), due⟩
    | true =>
      have lighter := load_reap due
      obtain ⟨n, few, busy, rest⟩ := ih _ (bound ▸ lighter) t.reap.2 rfl
      -- The load was lighter by one at least, so there is room for this step.
      refine ⟨n + 1, by omega, ?_, rest⟩
      intro k hk
      cases k with
      | zero => exact due
      | succ k => exact busy k (Nat.lt_of_succ_lt_succ hk)

/-- Settling stops where nothing is due any more, so with enough steps allowed it makes just as many
as are needed. -/
theorem reapUpTo_eq_reaps {n m : Nat} (le : n ≤ m) (busy : ∀ k < n, (t.reaps k).isDue = true)
    (rest : (t.reaps n).isDue = false) : reapUpTo m t = t.reaps n := by
  induction n generalizing t m with
  | zero => exact reapUpTo_of_not_due m rest
  | succ n ih =>
    obtain ⟨m, rfl⟩ : ∃ k, m = k + 1 := ⟨m - 1, by omega⟩
    have due : t.isDue = true := busy 0 (Nat.succ_pos n)
    rw [reapUpTo, if_pos due]
    exact ih (Nat.le_of_succ_le_succ le) (fun k hk => busy (k + 1) (Nat.succ_lt_succ hk)) rest

/-- Records of the future outlast any number of steps of a reaper that is busy. -/
theorem mem_reaps {r : DelayRecord} {n : Nat} (busy : ∀ k < n, (t.reaps k).isDue = true)
    (later : t.now < r.deadline) (member : r ∈ t.delays.records) :
    r ∈ (t.reaps n).delays.records := by
  induction n generalizing t with
  | zero => exact member
  | succ n ih =>
    have due : t.isDue = true := busy 0 (Nat.succ_pos n)
    have still : t.reap.2.now = t.now := congrArg Scene.now (scene_reap t)
    exact ih (fun k hk => busy (k + 1) (Nat.succ_lt_succ hk)) (still.symm ▸ later)
      (mem_reap due later member)

/-- **The reaper comes to rest.** Let the clock stand still in a table with a reaper. He takes the
record that has to be looked at next, takes the key away from its grant, and does so again; after
finitely many records nothing is left to do for him, and it takes him no more steps than there were
overdue records and callers in queues together, whatever leases these ask for. Then no record that
is left is overdue, and every record that was not overdue at the start is still there. -/
theorem reaper_comes_to_rest (t : Table) (running : t.reaper = .running) :
    ∃ n, n ≤ (t.delays.overdue t.now).length
          + (t.slots.entries.flatMap fun e => e.2.waiters).length
      ∧ (∀ k < n, ∃ r, (t.reaps k).Next r ∧ t.reaps (k + 1)
          = ({ t.reaps k with delays := (t.reaps k).delays.tail }.revoke r.key r.grant).2)
      ∧ (∀ k, t.reaps (n + k) = t.reaps n)
      ∧ t.settle = t.reaps n
      ∧ (t.reaps n).now = t.now
      ∧ (∀ r ∈ (t.reaps n).delays.records, t.now < r.deadline)
      ∧ ∀ r ∈ t.delays.records, t.now < r.deadline → r ∈ (t.reaps n).delays.records := by
  obtain ⟨n, few, busy, rest⟩ := exists_rest t
  have scene := scene_reaps t n
  have now : (t.reaps n).now = t.now := congrArg Scene.now scene
  refine ⟨n, few, ?_, ?_, ?_, now, ?_, ?_⟩
  · intro k hk
    obtain ⟨r, next, after⟩ := exists_next (busy k hk)
    refine ⟨r, next, ?_⟩
    rw [← after, reaps_add]
    rfl
  · intro k
    rw [reaps_add, reaps_of_not_due rest]
  -- Settling allows itself as many steps as there are records and waiters, overdue or not.
  · have within : t.load ≤ t.backlog := Nat.add_le_add_right (List.length_filter_le _ _) _
    exact reapUpTo_eq_reaps (Nat.le_trans few within) busy rest
  · intro r member
    have future := lt_deadline_of_not_due rest ((congrArg Scene.reaper scene).trans running) member
    rw [now] at future
    exact future
  · intro r member later
    exact mem_reaps busy later member

/-- Two callers who wait behind a lease of no time ask for no time and for less than none: one
record is overdue, and it takes three steps to be rid of all of them. -/
theorem empty_leases_are_cleared :
    let ask (n : Int32) (thread : String) (d : Int64) : Request :=
      ⟨"k", n, ⟨"app", thread⟩, .timeout, some ⟨d, .milliseconds⟩, 0⟩
    let t := (opening .timeout true .running .widest).run
      [.tryAcquire (ask 1 "a" 0), .acquire "" (ask 2 "b" 0), .acquire "" (ask 3 "c" (-7))]
    t.reaper = .running ∧ (t.delays.overdue t.now).length = 1
      ∧ (t.slots.entries.flatMap fun e => e.2.waiters).length = 2
      ∧ (t.reaps 2).isDue = true
      ∧ ∃ n, n ≤ 3 ∧ t.settle = t.reaps n
        ∧ ∀ r ∈ (t.reaps n).delays.records, t.now < r.deadline := by
  intro ask t
  have running : t.reaper = .running := by decide
  have overdue : (t.delays.overdue t.now).length = 1 := by decide
  have waiting : (t.slots.entries.flatMap fun e => e.2.waiters).length = 2 := by decide
  obtain ⟨n, few, -, -, settled, -, future, -⟩ := reaper_comes_to_rest t running
  rw [overdue, waiting] at few
  exact ⟨running, overdue, waiting, by decide, n, few, settled, future⟩

end Table

end KeyedLocks
