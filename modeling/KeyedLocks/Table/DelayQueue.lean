/-
Records that wait for their time.

A record says that a grant on a key has to be looked at once a deadline has come.
The queue holds its records in the order in which they have to be looked at: by
deadline, and of two with one deadline the one put in first. That order is part of
the type, and so is that a new record's number is greater than every number in the
queue.
-/
set_option autoImplicit false

namespace KeyedLocks

/-! ## Records -/

/-- A grant on a key, the deadline in nanoseconds, and the number of the record in
the order of insertion. -/
structure DelayRecord where
  key : String
  grant : Nat
  deadline : Nat
  seq : Nat
  deriving DecidableEq, Repr

namespace DelayRecord

/-- The order of two records: by deadline, then by insertion. -/
def order (a b : DelayRecord) : Ordering :=
  (compare a.deadline b.deadline).then (compare a.seq b.seq)

/-- A record has to be looked at before another one. -/
def Before (a b : DelayRecord) : Prop :=
  a.deadline < b.deadline ∨ a.deadline = b.deadline ∧ a.seq < b.seq

theorem Before.trans {a b c : DelayRecord} (h : Before a b) (h' : Before b c) : Before a c := by
  unfold Before at *
  omega

theorem Before.irrefl (a : DelayRecord) : ¬ Before a a := by
  unfold Before
  omega

theorem Before.deadline_le {a b : DelayRecord} (h : Before a b) : a.deadline ≤ b.deadline := by
  unfold Before at h
  omega

/-- **The order of records** is the one in which they have to be looked at. -/
theorem order_eq_lt_iff (a b : DelayRecord) : a.order b = .lt ↔ Before a b := by
  simp only [order, Before, Ordering.then_eq_lt, Nat.compare_eq_lt, Nat.compare_eq_eq]

end DelayRecord

/-! ## The queue -/

/-- Records in the order in which they have to be looked at. -/
structure DelayQueue where
  records : List DelayRecord
  nextSeq : Nat
  ascending : records.Pairwise DelayRecord.Before
  numbered : ∀ r ∈ records, r.seq < nextSeq

namespace DelayQueue

/-- The queue without records. -/
def empty : DelayQueue := ⟨[], 0, .nil, by simp⟩

instance : Inhabited DelayQueue := ⟨empty⟩

/-- The number of records. -/
def size (q : DelayQueue) : Nat := q.records.length

/-- Whether there are no records. -/
def isEmpty (q : DelayQueue) : Bool := q.records.isEmpty

/-- The earliest deadline. -/
def nextDeadline? (q : DelayQueue) : Option Nat := q.records.head?.map DelayRecord.deadline

/-- A record put in behind all that have to be looked at no later. -/
def push (q : DelayQueue) (key : String) (grant deadline : Nat) : DelayQueue where
  records :=
    (q.records.filter fun r => r.deadline ≤ deadline)
      ++ ⟨key, grant, deadline, q.nextSeq⟩ :: q.records.filter fun r => deadline < r.deadline
  nextSeq := q.nextSeq + 1
  ascending := by
    refine List.pairwise_append.2 ⟨q.ascending.filter _, ?_, ?_⟩
    · refine List.pairwise_cons.2 ⟨fun r hr => ?_, q.ascending.filter _⟩
      exact .inl (by simpa using (List.mem_filter.1 hr).2)
    · intro a ha b hb
      have early : a.deadline ≤ deadline := by simpa using (List.mem_filter.1 ha).2
      rcases List.mem_cons.1 hb with rfl | hb
      · have older := q.numbered a (List.mem_filter.1 ha).1
        show a.deadline < deadline ∨ a.deadline = deadline ∧ a.seq < q.nextSeq
        omega
      · have late : deadline < b.deadline := by simpa using (List.mem_filter.1 hb).2
        exact .inl (by omega)
  numbered := by
    intro r hr
    rcases List.mem_append.1 hr with hr | hr
    · exact Nat.lt_succ_of_lt (q.numbered r (List.mem_filter.1 hr).1)
    · rcases List.mem_cons.1 hr with rfl | hr
      · exact Nat.lt_succ_self _
      · exact Nat.lt_succ_of_lt (q.numbered r (List.mem_filter.1 hr).1)

/-- The queue without its first record. -/
def tail (q : DelayQueue) : DelayQueue where
  records := q.records.tail
  nextSeq := q.nextSeq
  ascending := q.ascending.sublist (List.tail_sublist _)
  numbered r hr := q.numbered r (List.mem_of_mem_tail hr)

/-- The first record, if its deadline has come, and the queue without it. -/
def popDue (q : DelayQueue) (now : Nat) : Option (DelayRecord × DelayQueue) :=
  match q.records with
  | [] => none
  | r :: _ => if r.deadline ≤ now then some (r, q.tail) else none

/-! ## What each operation does to the records -/

@[simp] theorem records_empty : empty.records = [] := rfl

theorem mem_records_push {q : DelayQueue} {key : String} {grant deadline : Nat}
    {r : DelayRecord} :
    r ∈ (q.push key grant deadline).records
      ↔ r = ⟨key, grant, deadline, q.nextSeq⟩ ∨ r ∈ q.records := by
  simp only [push, List.mem_append, List.mem_cons, List.mem_filter, decide_eq_true_eq]
  constructor
  · rintro (⟨h, -⟩ | h | ⟨h, -⟩)
    · exact .inr h
    · exact .inl h
    · exact .inr h
  · rintro (h | h)
    · exact .inr (.inl h)
    · rcases Nat.lt_or_ge deadline r.deadline with late | early
      · exact .inr (.inr ⟨h, late⟩)
      · exact .inl ⟨h, early⟩

/-- **Nothing is lost.** Putting a record in makes the queue longer by one. -/
theorem size_push (q : DelayQueue) (key : String) (grant deadline : Nat) :
    (q.push key grant deadline).size = q.size + 1 := by
  have split : ∀ l : List DelayRecord,
      (l.filter fun r => r.deadline ≤ deadline).length
        + (l.filter fun r => deadline < r.deadline).length = l.length := by
    intro l
    induction l with
    | nil => rfl
    | cons r l ih =>
      rcases Nat.lt_or_ge deadline r.deadline with late | early
      · simp [late, Nat.not_le_of_lt late]; omega
      · simp [early, Nat.not_lt_of_le early]; omega
  have := split q.records
  simp only [size, push, List.length_append, List.length_cons]
  omega

theorem popDue_eq_some_iff {q q' : DelayQueue} {now : Nat} {r : DelayRecord} :
    q.popDue now = some (r, q') ↔ q.records.head? = some r ∧ r.deadline ≤ now ∧ q' = q.tail := by
  unfold popDue
  split
  · rename_i h
    simp [h]
  · rename_i s rest h
    by_cases due : s.deadline ≤ now
    · simp only [due, if_true, Option.some.injEq, Prod.mk.injEq, h, List.head?_cons]
      constructor
      · rintro ⟨rfl, rfl⟩
        exact ⟨rfl, due, rfl⟩
      · rintro ⟨rfl, -, rfl⟩
        exact ⟨rfl, rfl⟩
    · simp only [due, if_false, h, List.head?_cons, Option.some.injEq]
      constructor
      · intro h
        cases h
      · rintro ⟨rfl, due', -⟩
        exact absurd due' due

end DelayQueue

end KeyedLocks
