/-
A delay queue hands its records out.

A call that sleeps does not look at the queue, it only knows the alarm that it set when it fell
asleep. What keeps it from missing a record is that its alarm is set for the earliest deadline, or
else it was woken (`Alert`): a record that is put in moves the earliest deadline only by coming
before all others, and then it wakes the call. Nothing but the call takes records out, so the
earliest deadline does not move the other way while it sleeps.

The alarm is a timer of whole milliseconds. So a record that is due is found at once by a call that
starts, and by one that was overtaken in its sleep (`Overtaken`); any other call that sleeps finds
it on the next whole millisecond (`HasRung`), which is late by less than one.

Everything else is said of one step: a step that returns a record takes the first one out
(`Takes`), and any other step leaves the records where they are or puts one in. Over a run these
add up to an account of all records (`pushed_perm`) and to their order (`mem_of_returned`).
-/
import KeyedLocks.Table.Watcher
import KeyedLocks.Proofs.Table.Records

set_option autoImplicit false

namespace KeyedLocks

/-- A record that does not come before all others leaves the earliest deadline as it was. -/
theorem DelayQueue.nextDeadline?_push {q : DelayQueue} (key : String)
    {grant deadline first : Nat} (earliest : q.nextDeadline? = some first)
    (late : ¬ deadline < first) : (q.push key grant deadline).nextDeadline? = some first := by
  obtain ⟨r, front, rfl⟩ := Option.map_eq_some_iff.1 earliest
  obtain ⟨rest, split⟩ := List.head?_eq_some_iff.1 front
  have kept : r.deadline ≤ deadline := Nat.le_of_not_lt late
  simp only [nextDeadline?, push, split, List.filter_cons, kept, decide_true, if_true,
    List.cons_append, List.head?_cons, Option.map_some]

namespace Watcher

/-! ## What a call can find -/

/-- Whether a record in the queue is due. -/
def HasDue (w : Watcher) : Prop := ∃ r ∈ w.queue.records, r.deadline ≤ w.now

/-- Whether a timer that is set for a record in the queue has gone off. -/
def HasRung (w : Watcher) : Prop := ∃ r ∈ w.queue.records, nextTick r.deadline ≤ w.now

/-- A call was **overtaken** in its sleep: a record was put in that comes before all others, and
nobody looked since. -/
def Overtaken (es : List WatcherEvent) : Prop :=
  ∃ fs key grant deadline gs, es = fs ++ .push key grant deadline :: gs
    ∧ (∃ alarm, (run {} fs).rest = .asleep alarm)
    ∧ (∀ r ∈ (run {} fs).queue.records, deadline < r.deadline)
    ∧ ∀ e ∈ gs, (∃ k g d, e = .push k g d) ∨ ∃ ns, e = .tick ns

variable {w : Watcher}

/-- A timer does not go off before its record is due. -/
theorem HasRung.hasDue (rung : w.HasRung) : w.HasDue := by
  obtain ⟨r, member, late⟩ := rung
  exact ⟨r, member, Nat.le_trans (le_nextTick r.deadline) late⟩

/-- On a whole millisecond the timers have gone off for all that is due. -/
theorem hasRung_iff (whole : millisecond ∣ w.now) : w.HasRung ↔ w.HasDue := by
  constructor
  · intro rung
    exact rung.hasDue
  · rintro ⟨r, member, due⟩
    exact ⟨r, member, (nextTick_le_iff whole).2 due⟩

/-- The alarm that is set for the earliest deadline goes off before those of all other records. -/
theorem rings_iff : rings w.now w.queue.nextDeadline? = true ↔ w.HasRung := by
  constructor
  · intro rung
    cases earliest : w.queue.nextDeadline? with
    | none =>
      rw [earliest] at rung
      cases rung
    | some at_ =>
      obtain ⟨r, first, rfl⟩ := Option.map_eq_some_iff.1 earliest
      rw [earliest] at rung
      exact ⟨r, List.mem_of_head? first, of_decide_eq_true rung⟩
  · rintro ⟨r, member, late⟩
    cases first : w.queue.records.head? with
    | none =>
      rw [List.head?_eq_none_iff.1 first] at member
      cases member
    | some least =>
      -- The first record has the earliest deadline of all.
      have before : least.deadline ≤ r.deadline := by
        rcases DelayQueue.first_before first r member with rfl | before
        · exact Nat.le_refl _
        · exact before.deadline_le
      rw [DelayQueue.nextDeadline?, first]
      exact decide_eq_true (Nat.le_trans (nextTick_mono before) late)

/-! ## Nothing is missed -/

/-- Whoever sleeps was woken, or has set the alarm for the earliest deadline. -/
def Alert (w : Watcher) : Prop :=
  ∀ alarm, w.rest = .asleep alarm → w.woken = true ∨ alarm = w.queue.nextDeadline?

/-- A call that falls asleep sets its alarm by the queue as it is then. -/
theorem alert_look (w : Watcher) : w.look.2.Alert := by
  unfold look
  split
  · intro alarm asleep
    cases asleep
  · intro alarm asleep
    exact .inr (Rest.asleep.inj asleep).symm

/-- A record that comes first wakes the sleeper, and any other one leaves the alarm right. -/
theorem Alert.push (a : w.Alert) (key : String) (grant deadline : Nat) :
    (w.push key grant deadline).Alert := by
  intro alarm asleep
  rcases a alarm asleep with woken | same
  · left
    simp [Watcher.push, woken]
  · cases earliest : w.queue.nextDeadline? with
    | none =>
      left
      simp [Watcher.push, earliest]
    | some first =>
      by_cases before : deadline < first
      · left
        simp [Watcher.push, earliest, before]
      · right
        rw [same, earliest]
        exact (DelayQueue.nextDeadline?_push key earliest before).symm

/-- **A step keeps whoever sleeps alert.** -/
theorem Alert.step (a : w.Alert) (e : WatcherEvent) : (w.step e).2.Alert := by
  cases e with
  | push key grant deadline => exact a.push key grant deadline
  | start => exact alert_look w
  | poll =>
    change w.poll.2.Alert
    unfold Watcher.poll
    split
    · exact a
    · split
      · exact alert_look w
      · split
        · exact alert_look _
        · exact a
  | drop =>
    intro alarm asleep
    cases asleep
  | tick ns => exact a

theorem Alert.run (a : w.Alert) (es : List WatcherEvent) : (w.run es).Alert := by
  induction es generalizing w with
  | nil => exact a
  | cons e es ih => exact ih (a.step e)

/-- Whoever looks at the queue finds what is due. -/
theorem isSome_look_iff (w : Watcher) : w.look.1.isSome = true ↔ w.HasDue := by
  rw [look_fst, Option.isSome_map, DelayQueue.isSome_popDue_iff]
  rfl

/-- **No record is missed**, whenever it was put in. -/
theorem Alert.isSome_poll_iff (a : w.Alert) {alarm : Option Nat} (asleep : w.rest = .asleep alarm) :
    w.poll.1.isSome = true ↔ w.HasDue ∧ (w.woken = true ∨ w.HasRung) := by
  rw [Watcher.poll, asleep]
  dsimp only
  by_cases rung : rings w.now alarm = true
  · rw [if_pos rung, isSome_look_iff]
    refine ⟨fun due => ⟨due, ?_⟩, And.left⟩
    rcases a alarm asleep with woken | same
    · exact .inl woken
    · rw [same] at rung
      exact .inr (rings_iff.1 rung)
  · rw [if_neg rung]
    by_cases woken : w.woken = true
    · rw [if_pos woken, isSome_look_iff]
      exact ⟨fun due => ⟨due, .inl woken⟩, And.left⟩
    · rw [if_neg woken]
      -- Nobody looks, and no alarm has gone off: the one that is set is that of the earliest.
      refine iff_of_false Bool.false_ne_true ?_
      rintro ⟨-, again | late⟩
      · exact woken again
      · rw [(a alarm asleep).resolve_left woken] at rung
        exact rung (rings_iff.2 late)

/-! ## Who was woken -/

/-- A poll is a look, at the same queue and the same time, or nothing at all. Whoever sleeps and
does not look was not woken. -/
theorem poll_cases (w : Watcher) :
    (w.poll = (none, w) ∧ (w.rest = .absent ∨ w.woken = false))
      ∨ ∃ v : Watcher, v.queue = w.queue ∧ v.now = w.now ∧ w.poll = v.look := by
  unfold poll
  split
  · next absent => exact .inl ⟨rfl, .inl absent⟩
  · split
    · exact .inr ⟨w, rfl, rfl, rfl⟩
    · split
      · exact .inr ⟨{ w with woken := false }, rfl, rfl, rfl⟩
      · next unwoken => exact .inl ⟨rfl, .inr (Bool.eq_false_iff.2 unwoken)⟩

/-- A record that wakes the call comes before all others. -/
theorem woken_push {key : String} {grant deadline : Nat} (before : w.woken = false)
    (after : (w.push key grant deadline).woken = true) :
    ∀ r ∈ w.queue.records, deadline < r.deadline := by
  intro r member
  rw [Watcher.push, before, Bool.false_or, DelayQueue.nextDeadline?] at after
  cases first : w.queue.records.head? with
  | none =>
    rw [List.head?_eq_none_iff.1 first] at member
    cases member
  | some least =>
    rw [first] at after
    have early : deadline < least.deadline := of_decide_eq_true after
    rcases DelayQueue.first_before first r member with rfl | later
    · exact early
    · exact Nat.lt_of_lt_of_le early later.deadline_le

/-- A record that comes before all others wakes the call. -/
theorem woken_of_first {key : String} {grant deadline : Nat}
    (least : ∀ r ∈ w.queue.records, deadline < r.deadline) :
    (w.push key grant deadline).woken = true := by
  rw [Watcher.push, DelayQueue.nextDeadline?]
  cases first : w.queue.records.head? with
  | none => exact Bool.or_true _
  | some r =>
    have early := least r (List.mem_of_head? first)
    simp [early]

/-- A call that looked in vain is not woken any more. -/
theorem woken_look {alarm : Option Nat} (asleep : w.look.2.rest = .asleep alarm) :
    w.look.2.woken = false := by
  unfold look at asleep ⊢
  split at asleep
  · cases asleep
  · rfl

/-- While records are put in and time passes, whoever was woken stays woken. -/
theorem woken_run {alarm : Option Nat} (woken : w.woken = true) (asleep : w.rest = .asleep alarm)
    {gs : List WatcherEvent}
    (idle : ∀ e ∈ gs, (∃ k g d, e = .push k g d) ∨ ∃ ns, e = .tick ns) :
    (w.run gs).woken = true ∧ (w.run gs).rest = .asleep alarm := by
  induction gs generalizing w with
  | nil => exact ⟨woken, asleep⟩
  | cons e gs ih =>
    have later : ∀ f ∈ gs, (∃ k g d, f = .push k g d) ∨ ∃ ns, f = .tick ns := by
      intro f member
      exact idle f (List.mem_cons_of_mem e member)
    rcases idle e List.mem_cons_self with ⟨k, g, d, rfl⟩ | ⟨ns, rfl⟩
    · refine ih (w := w.push k g d) ?_ asleep later
      rw [Watcher.push, woken, Bool.true_or]
    · exact ih (w := w.tick ns) woken asleep later

/-- **Who was woken** is told by the history: it was overtaken in its sleep. -/
theorem woken_iff (es : List WatcherEvent) {alarm : Option Nat}
    (asleep : (run {} es).rest = .asleep alarm) :
    (run {} es).woken = true ↔ Overtaken es := by
  constructor
  -- The induction is on the last event: what clears a wake-up leaves nobody asleep and woken.
  · induction es using List.reverseRecOn generalizing alarm with
    | nil => cases asleep
    | append_singleton es e ih =>
      have last : run {} (es ++ [e]) = ((run {} es).step e).2 := by
        rw [run_append]
        rfl
      have further : (∃ k g d, e = .push k g d) ∨ (∃ ns, e = .tick ns) → Overtaken es →
          Overtaken (es ++ [e]) := by
        rintro idle ⟨fs, key, grant, deadline, gs, rfl, sleeps, least, rest⟩
        refine ⟨fs, key, grant, deadline, gs ++ [e], by simp, sleeps, least, ?_⟩
        intro f member
        rcases List.mem_append.1 member with earlier | now
        · exact rest f earlier
        · rw [List.mem_singleton.1 now]
          exact idle
      rw [last] at asleep ⊢
      intro woken
      cases e with
      | push key grant deadline =>
        cases before : (run {} es).woken with
        | true => exact further (.inl ⟨_, _, _, rfl⟩) (ih asleep before)
        | false =>
          refine ⟨es, key, grant, deadline, [], rfl, ⟨alarm, asleep⟩, ?_, by simp⟩
          exact woken_push before woken
      | tick ns => exact further (.inr ⟨ns, rfl⟩) (ih asleep woken)
      | start =>
        rw [show ((run {} es).step .start).2 = (run {} es).look.2 from rfl] at asleep woken
        rw [woken_look asleep] at woken
        cases woken
      | drop => cases asleep
      | poll =>
        change (run {} es).poll.2.rest = _ at asleep
        change (run {} es).poll.2.woken = true at woken
        rcases poll_cases (run {} es) with ⟨same, absent | unwoken⟩ | ⟨v, -, -, same⟩
        · rw [same, absent] at asleep
          cases asleep
        · rw [same, unwoken] at woken
          cases woken
        · rw [same] at asleep woken
          rw [woken_look asleep] at woken
          cases woken
  · rintro ⟨fs, key, grant, deadline, gs, rfl, ⟨at_, sleeps⟩, least, idle⟩
    rw [run_append]
    exact (woken_run (w := (run {} fs).push key grant deadline) (woken_of_first least) sleeps
      idle).1

/-! ## What a step takes out -/

/-- A record is taken out: it was there and due, it had to be looked at before all others, and the
others are left. -/
structure Takes (w : Watcher) (r : DelayRecord) (u : Watcher) : Prop where
  due : r.deadline ≤ w.now
  least : ∀ other ∈ w.queue.records, other = r ∨ r.Before other
  others : w.queue.records = r :: u.queue.records

/-- A record that is found is taken out. -/
theorem takes_look {r : DelayRecord} (found : w.look.1 = some r) : w.Takes r w.look.2 := by
  rw [look_fst, Option.map_eq_some_iff] at found
  obtain ⟨⟨r', rest⟩, popped, rfl⟩ := found
  obtain ⟨first, due, rfl⟩ := DelayQueue.popDue_eq_some_iff.1 popped
  refine ⟨due, DelayQueue.first_before first, ?_⟩
  obtain ⟨rest, split⟩ := List.head?_eq_some_iff.1 first
  simp only [look, popped, DelayQueue.tail, split, List.tail_cons]

theorem queue_look (nothing : w.look.1 = none) : w.look.2.queue = w.queue := by
  rw [look_fst, Option.map_eq_none_iff] at nothing
  simp only [look, nothing]

/-- **What is returned** is the first record, and it is taken out. -/
theorem takes_step {e : WatcherEvent} {r : DelayRecord} (found : (w.step e).1 = some r) :
    w.Takes r (w.step e).2 := by
  cases e with
  | push | drop | tick => cases found
  | start => exact takes_look found
  | poll =>
    change w.Takes r w.poll.2
    change w.poll.1 = some r at found
    rcases poll_cases w with ⟨same, -⟩ | ⟨v, queue, now, same⟩
    · rw [same] at found
      cases found
    · rw [same] at found ⊢
      -- The call looks again, at a queue that its waking has not changed.
      obtain ⟨due, least, others⟩ := takes_look found
      rw [queue] at least others
      rw [now] at due
      exact ⟨due, least, others⟩

/-- **Where nothing is returned** and nothing is put in, the queue stays as it is. -/
theorem queue_step {e : WatcherEvent} (nothing : (w.step e).1 = none)
    (other : ∀ key grant deadline, e ≠ .push key grant deadline) :
    (w.step e).2.queue = w.queue := by
  cases e with
  | push key grant deadline => exact absurd rfl (other key grant deadline)
  | drop | tick => rfl
  | start => exact queue_look nothing
  | poll =>
    change w.poll.2.queue = w.queue
    change w.poll.1 = none at nothing
    rcases poll_cases w with ⟨same, -⟩ | ⟨v, queue, -, same⟩
    · rw [same]
    · rw [same] at nothing ⊢
      rw [queue_look nothing, queue]

/-! ## The account of all records -/

theorem pushed_concat_push (es : List WatcherEvent) (key : String) (grant deadline : Nat) :
    WatcherEvent.pushed (es ++ [.push key grant deadline])
      = WatcherEvent.pushed es ++ [⟨key, grant, deadline, (WatcherEvent.pushed es).length⟩] := by
  rw [WatcherEvent.pushed, List.foldl_concat]
  rfl

theorem pushed_concat_other (es : List WatcherEvent) {e : WatcherEvent}
    (other : ∀ key grant deadline, e ≠ .push key grant deadline) :
    WatcherEvent.pushed (es ++ [e]) = WatcherEvent.pushed es := by
  rw [WatcherEvent.pushed, List.foldl_concat]
  cases e with
  | push key grant deadline => exact absurd rfl (other key grant deadline)
  | _ => rfl

/-- A run with one more event: where it leads, and what it returns. -/
theorem run_concat (es : List WatcherEvent) (e : WatcherEvent) :
    w.run (es ++ [e]) = ((w.run es).step e).2 := by
  rw [run_append]
  rfl

theorem returned_concat (es : List WatcherEvent) (e : WatcherEvent) :
    w.returned (es ++ [e]) = w.returned es ++ ((w.run es).step e).1.toList := by
  rw [returned_append, returned, returned, List.append_nil]

/-- Numbers are drawn by putting records in, and by nothing else. -/
theorem nextSeq_step (w : Watcher) {e : WatcherEvent}
    (other : ∀ key grant deadline, e ≠ .push key grant deadline) :
    (w.step e).2.queue.nextSeq = w.queue.nextSeq := by
  have looked : ∀ v : Watcher, v.look.2.queue.nextSeq = v.queue.nextSeq := by
    intro v
    unfold look
    split
    · next popped =>
      obtain ⟨-, -, rfl⟩ := DelayQueue.popDue_eq_some_iff.1 popped
      rfl
    · rfl
  cases e with
  | push key grant deadline => exact absurd rfl (other key grant deadline)
  | drop | tick => rfl
  | start => exact looked w
  | poll =>
    change w.poll.2.queue.nextSeq = _
    rcases poll_cases w with ⟨same, -⟩ | ⟨v, queue, -, same⟩
    · rw [same]
    · rw [same, looked, queue]

/-- The number of the next record is the number of those that were put in. -/
theorem nextSeq_run (es : List WatcherEvent) :
    (run {} es).queue.nextSeq = (WatcherEvent.pushed es).length := by
  induction es using List.reverseRecOn with
  | nil => rfl
  | append_singleton es e ih =>
    rw [run_concat]
    by_cases push : ∃ key grant deadline, e = .push key grant deadline
    · obtain ⟨key, grant, deadline, rfl⟩ := push
      rw [pushed_concat_push, List.length_append, ← ih]
      rfl
    · push Not at push
      rw [pushed_concat_other es push, nextSeq_step _ push, ih]

/-- **Every record is accounted for**: it was returned, or it is still there. -/
theorem pushed_perm (es : List WatcherEvent) :
    (WatcherEvent.pushed es).Perm (returned {} es ++ (run {} es).queue.records) := by
  induction es using List.reverseRecOn with
  | nil => exact .refl _
  | append_singleton es e ih =>
    rw [run_concat, returned_concat]
    by_cases push : ∃ key grant deadline, e = .push key grant deadline
    · obtain ⟨key, grant, deadline, rfl⟩ := push
      have added := DelayQueue.records_push_perm (run {} es).queue key grant deadline
      rw [nextSeq_run es] at added
      rw [pushed_concat_push, step, Option.toList_none, List.append_nil]
      refine (ih.append_right _).trans ?_
      rw [List.append_assoc]
      exact ((List.perm_append_singleton _ _).trans added.symm).append_left _
    · push Not at push
      rw [pushed_concat_other es push]
      cases found : ((run {} es).step e).1 with
      | none =>
        rw [queue_step found push, Option.toList_none, List.append_nil]
        exact ih
      | some r =>
        -- The record that is returned goes from one account to the other.
        rw [(takes_step found).others] at ih
        rw [Option.toList_some, List.append_assoc]
        exact ih

/-- The numbers of the records that were put in are those below their count. -/
theorem map_seq_pushed (es : List WatcherEvent) :
    (WatcherEvent.pushed es).map DelayRecord.seq = List.range (WatcherEvent.pushed es).length := by
  induction es using List.reverseRecOn with
  | nil => rfl
  | append_singleton es e ih =>
    by_cases push : ∃ key grant deadline, e = .push key grant deadline
    · obtain ⟨key, grant, deadline, rfl⟩ := push
      rw [pushed_concat_push, List.map_append, ih, List.length_append, List.length_singleton,
        List.range_succ]
      rfl
    · push Not at push
      rw [pushed_concat_other es push, ih]

/-- No two records are the same, for they have different numbers. -/
theorem nodup_pushed (es : List WatcherEvent) : (WatcherEvent.pushed es).Nodup := by
  refine List.Nodup.of_map DelayRecord.seq ?_
  rw [map_seq_pushed]
  exact List.nodup_range

/-! ## The order of two records -/

/-- Of two records that are in the queue together the later one is not returned before the
earlier one. -/
theorem mem_of_returned {a b : DelayRecord} (ha : a ∈ w.queue.records) (hb : b ∈ w.queue.records)
    (before : a.Before b) {fs : List WatcherEvent} {pre post : List DelayRecord}
    (split : w.returned fs = pre ++ b :: post) : a ∈ pre := by
  induction fs generalizing w pre with
  | nil => simp [returned] at split
  | cons e fs ih =>
    rw [returned] at split
    cases found : (w.step e).1 with
    | none =>
      rw [found, Option.toList_none, List.nil_append] at split
      -- Nothing is taken out, so both are still there.
      have kept : ∀ r ∈ w.queue.records, r ∈ (w.step e).2.queue.records := by
        intro r member
        by_cases push : ∃ key grant deadline, e = .push key grant deadline
        · obtain ⟨key, grant, deadline, rfl⟩ := push
          exact DelayQueue.mem_records_push.2 (.inr member)
        · push Not at push
          rw [queue_step found push]
          exact member
      exact ih (kept a ha) (kept b hb) split
    | some r =>
      rw [found, Option.toList_some, List.singleton_append] at split
      obtain ⟨-, least, others⟩ := takes_step found
      have other : r ≠ b := by
        rintro rfl
        rcases least a ha with rfl | after
        · exact DelayRecord.Before.irrefl a before
        · exact DelayRecord.Before.irrefl a (before.trans after)
      cases pre with
      | nil => exact absurd (List.cons.inj split).1 other
      | cons p pre =>
        obtain ⟨rfl, behind⟩ := List.cons.inj split
        by_cases mine : a = r
        · exact mine ▸ List.mem_cons_self
        · rw [others] at ha hb
          exact List.mem_cons_of_mem r (ih ((List.mem_cons.1 ha).resolve_left mine)
            ((List.mem_cons.1 hb).resolve_left (Ne.symm other)) behind)

/-- **A delay queue hands every record out once, in order, never early, and late by less than a
millisecond.** After any run, a call that is started returns exactly if the deadline of some record
in the queue has come. So does a call that is polled in its sleep, if it was overtaken, or else as
soon as the timer of a record that is due has gone off, which is before a millisecond is over; on
whole milliseconds that makes no difference. What is returned is due, it is the record that has to
be looked at before all others, and it alone is taken out; a poll that returns nothing and a call
that is dropped take nothing out. So at every moment the records that were put in are those that
were returned and those that are in the queue, each of them once, and of two records that are in
the queue together the one that has to be looked at first is returned first. -/
theorem every_record_comes_out_once (es : List WatcherEvent) :
    let w : Watcher := run {} es
    (w.start.1.isSome = true ↔ w.HasDue)
      ∧ (∀ alarm, w.rest = .asleep alarm →
        (w.poll.1.isSome = true ↔ w.HasDue ∧ (Overtaken es ∨ w.HasRung))
          ∧ (millisecond ∣ w.now → (w.poll.1.isSome = true ↔ w.HasDue))
          ∧ (w.poll.1 = none → ∀ r ∈ w.queue.records, w.now < r.deadline + millisecond))
      ∧ (∀ e r, (w.step e).1 = some r → w.Takes r (w.step e).2)
      ∧ (∀ e, (w.step e).1 = none → (∀ key grant deadline, e ≠ .push key grant deadline) →
        (w.step e).2.queue = w.queue)
      ∧ (WatcherEvent.pushed es).Nodup
      ∧ (WatcherEvent.pushed es).Perm (returned {} es ++ w.queue.records)
      ∧ ∀ a ∈ w.queue.records, ∀ b ∈ w.queue.records, a.Before b →
        ∀ fs pre post, w.returned fs = pre ++ b :: post → a ∈ pre := by
  intro w
  have alert : w.Alert := Alert.run (fun alarm asleep => by cases asleep) es
  refine ⟨isSome_look_iff w, ?_, fun e r found => takes_step found,
    fun e nothing other => queue_step nothing other, nodup_pushed es, pushed_perm es,
    fun a ha b hb before fs pre post split => mem_of_returned ha hb before split⟩
  intro alarm asleep
  have found := alert.isSome_poll_iff asleep
  rw [woken_iff es asleep] at found
  refine ⟨found, ?_, ?_⟩
  · -- On a whole millisecond the timer of whatever is due has gone off.
    intro whole
    rw [found, hasRung_iff whole]
    exact ⟨And.left, fun due => ⟨due, .inr due⟩⟩
  · intro nothing r member
    by_contra late
    have rung : w.HasRung := by
      refine ⟨r, member, ?_⟩
      have tick := nextTick_lt r.deadline
      omega
    rw [nothing] at found
    cases found.2 ⟨rung.hasDue, .inr rung⟩

/-- **Asleep it may be late.** A record is due after a millisecond and a half, and the call that
fell asleep before does not find it in the two tenths of a millisecond after that. -/
theorem sleeping_call_may_be_late :
    ¬ ∀ (es : List WatcherEvent) (alarm : Option Nat), (run {} es).rest = .asleep alarm →
      ((run {} es).poll.1.isSome = true ↔ ∃ r ∈ (run {} es).queue.records,
        r.deadline ≤ (run {} es).now) := by
  intro always
  have sleeps : (run {} [.push "k" 1 1500000, .start, .tick 1700000]).rest
      = .asleep (some 1500000) := by decide
  have found := (always _ _ sleeps).2 ⟨⟨"k", 1, 1500000, 0⟩, by decide, by decide⟩
  exact absurd found (by decide)

/-- A call that sleeps until a late record is due is woken by an early one. -/
example :
    let w : Watcher := run {} [.push "slow" 1 60, .start, .push "fast" 2 1]
    w.rest = .asleep (some 60) ∧ (w.poll.1.isNone) ∧ ((w.tick 1).poll.1.map DelayRecord.key)
      = some "fast" := by
  decide

end Watcher

end KeyedLocks
