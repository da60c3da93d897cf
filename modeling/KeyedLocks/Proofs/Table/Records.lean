/-
One record for each lease.

The reaper knows of a deadline only through its record, so a lease ends on time only if
its record is there. `Recorded` says that a holder with a deadline has a record under the
number of its grant, and that no number has two. What `Scheduled` says of a record that
names a holder then makes it the holder's own: it carries the key and the deadline.

A record is taken out in one place only, by the reaper who looks after it. If the record
is stale no holder misses it. If it is not, the grant that it names ends in the same step,
and whoever gets the key next brings a record of its own. In between there is a table in
which the holder of one key has no record; `recorded_handOn` therefore asks for the records
of the other keys only.
-/
import KeyedLocks.Proofs.Table.Run
import Mathlib.Data.List.Perm.Subperm

set_option autoImplicit false

namespace KeyedLocks

/-! ## Lists without a repeated number -/

/-- If no two entries share a value, filtering by the value of an entry leaves that entry. -/
theorem filter_eq_singleton {α β : Type} [DecidableEq β] {f : α → β} {l : List α}
    (distinct : (l.map f).Nodup) {a : α} (ha : a ∈ l) : l.filter (fun b => f b = f a) = [a] := by
  induction l with
  | nil => cases ha
  | cons b l ih =>
    rw [List.map_cons, List.nodup_cons] at distinct
    obtain ⟨apart, rest⟩ := distinct
    rcases List.mem_cons.1 ha with rfl | later
    -- It is the first, and the images of all others differ from its own.
    · have others : l.filter (fun c => f c = f a) = [] := by
        rw [List.filter_eq_nil_iff]
        intro c hc same
        rw [decide_eq_true_eq] at same
        exact apart (same ▸ List.mem_map_of_mem hc)
      rw [List.filter_cons_of_pos (by simp), others]
    · have other : f b ≠ f a := by
        intro same
        exact apart (same ▸ List.mem_map_of_mem later)
      rw [List.filter_cons_of_neg (by simpa using other), ih rest later]

/-- The entries of a map under a key. -/
theorem KeyMap.filter_entries {α : Type} (m : KeyMap α) (k : String) :
    m.entries.filter (fun e => e.1 = k) = (m.get? k).toList.map fun v => (k, v) := by
  cases found : m.get? k with
  | none =>
    rw [List.filter_eq_nil_iff.2]
    · rfl
    · intro e he same
      rw [decide_eq_true_eq] at same
      exact KeyMap.get?_eq_none_iff.1 found e.2 (same ▸ he)
  | some v =>
    have keys : (m.entries.map Prod.fst).Nodup := by
      rw [List.Nodup, List.pairwise_map]
      refine m.ascending.imp ?_
      intro a b lt same
      rw [same] at lt
      exact String.lt_irrefl _ lt
    exact filter_eq_singleton keys (KeyMap.get?_eq_some_iff.1 found)

/-- Putting a record in leaves all others where they are, up to their order. -/
theorem DelayQueue.records_push_perm (q : DelayQueue) (key : String) (grant deadline : Nat) :
    (q.push key grant deadline).records.Perm (⟨key, grant, deadline, q.nextSeq⟩ :: q.records) := by
  have late : (q.records.filter fun r => deadline < r.deadline)
      = q.records.filter fun r => !(decide (r.deadline ≤ deadline)) := by
    refine List.filter_congr fun r _ => ?_
    rw [← decide_not, decide_eq_decide, Nat.not_le]
  have together : ((q.records.filter fun r => r.deadline ≤ deadline)
      ++ q.records.filter fun r => deadline < r.deadline).Perm q.records := by
    rw [late]
    exact List.filter_append_perm _ _
  exact List.perm_middle.trans (together.cons _)

/-- The first record has to be looked at before all others. -/
theorem DelayQueue.first_before {q : DelayQueue} {r : DelayRecord}
    (first : q.records.head? = some r) :
    ∀ other ∈ q.records, other = r ∨ r.Before other := by
  obtain ⟨rest, split⟩ := List.head?_eq_some_iff.1 first
  have order := q.ascending
  rw [split] at order ⊢
  intro other member
  rcases List.mem_cons.1 member with same | behind
  · exact .inl same
  · exact .inr ((List.pairwise_cons.1 order).1 other behind)

/-- Some record is due exactly if the first one is. -/
theorem DelayQueue.isSome_popDue_iff {q : DelayQueue} (now : Nat) :
    (q.popDue now).isSome = true ↔ ∃ r ∈ q.records, r.deadline ≤ now := by
  rw [Option.isSome_iff_exists]
  constructor
  · rintro ⟨⟨r, rest⟩, popped⟩
    obtain ⟨first, due, -⟩ := DelayQueue.popDue_eq_some_iff.1 popped
    exact ⟨r, List.mem_of_head? first, due⟩
  · rintro ⟨r, member, due⟩
    obtain ⟨first, front⟩ : ∃ first, q.records.head? = some first := by
      cases records : q.records with
      | nil => rw [records] at member; cases member
      | cons first rest => exact ⟨first, rfl⟩
    have early : first.deadline ≤ now := by
      rcases DelayQueue.first_before front r member with rfl | before
      · exact due
      · exact Nat.le_trans before.deadline_le due
    exact ⟨_, DelayQueue.popDue_eq_some_iff.2 ⟨front, early, rfl⟩⟩

namespace Table

/-- Every number has one record at most, and a holder with a deadline has one. -/
structure Recorded (t : Table) : Prop where
  distinct : (t.delays.records.map DelayRecord.grant).Nodup
  present : ∀ key h d, t.holder? key = some h → h.expiresAt = some d →
    ∃ r ∈ t.delays.records, r.grant = h.grant

variable {t u : Table}

/-! ## What follows for a holder -/

/-- **A holder with a deadline has one record**, with its key and its deadline. -/
theorem Recorded.filter_eq (r : t.Recorded) (s : t.Scheduled) {key : String} {h : Holder}
    {d : Nat} (held : t.holder? key = some h) (due : h.expiresAt = some d) :
    ∃ seq, t.delays.records.filter (fun r => r.grant = h.grant) = [⟨key, h.grant, d, seq⟩] := by
  obtain ⟨record, member, mine⟩ := r.present key h d held due
  obtain ⟨here, own⟩ := s.record_holder record member key h held mine.symm
  have same : record.deadline = d := Option.some.inj (own.symm.trans due)
  have only := filter_eq_singleton r.distinct member
  rw [mine] at only
  refine ⟨record.seq, ?_⟩
  rw [only, ← here, ← mine, ← same]

/-- **Where grants have deadlines, no key is held without a record.** Different holders have
different records, so there are as many records as held keys at least. -/
theorem Recorded.trackedKeys_le (r : t.Recorded) (s : t.Sound) (leased : t.leased = true) :
    t.trackedKeys ≤ t.delays.size := by
  -- Each held key is counted by the number of its grant.
  have numbers : (t.slots.entries.map fun e => e.2.holder.grant).Nodup := by
    rw [List.Nodup, List.pairwise_map]
    refine t.slots.ascending.imp_of_mem ?_
    intro a b ha hb lt same
    have left : t.holder? a.1 = some a.2.holder := holder?_of_slot (KeyMap.get?_eq_some_iff.2 ha)
    have right : t.holder? b.1 = some b.2.holder := holder?_of_slot (KeyMap.get?_eq_some_iff.2 hb)
    rw [s.grant_inj a.1 b.1 _ _ left right same] at lt
    exact String.lt_irrefl _ lt
  -- And each of these numbers is that of a record.
  have recorded : (t.slots.entries.map fun e => e.2.holder.grant)
      ⊆ t.delays.records.map DelayRecord.grant := by
    intro g hg
    obtain ⟨e, he, rfl⟩ := List.mem_map.1 hg
    have held : t.holder? e.1 = some e.2.holder := holder?_of_slot (KeyMap.get?_eq_some_iff.2 he)
    have due := s.expiry_eq e.1 _ held
    rw [if_pos leased] at due
    obtain ⟨record, member, mine⟩ := r.present e.1 _ _ held due
    exact List.mem_map.2 ⟨record, member, mine⟩
  have fewer := (numbers.subperm recorded).length_le
  rw [List.length_map, List.length_map] at fewer
  exact fewer

/-! ## The operations keep it -/

/-- What makes neither holders nor records loses none either. -/
theorem Recorded.mono (r : t.Recorded) (holders : t.KeepsHolders u) (delays : u.delays = t.delays) :
    u.Recorded where
  distinct := by
    rw [delays]
    exact r.distinct
  present := by
    intro key h d held due
    obtain ⟨h₀, held₀, alike⟩ := holders key h held
    rw [delays, alike.grant]
    exact r.present key h₀ d held₀ (alike.expiresAt.symm.trans due)

/-- The records after a grant is made: those from before, and one if the grant has a
deadline. -/
theorem records_install (key : String) (r : Request) (ws : List Waiter) :
    (t.expiry r = none ∧ (t.install key r ws).2.delays = t.delays)
      ∨ ∃ d, t.expiry r = some d
        ∧ (t.install key r ws).2.delays = t.delays.push key (t.lastGrant + 1) d := by
  change (t.expiry r = none ∧ t.scheduled key (t.newHolder r) = t.delays) ∨ ∃ d, t.expiry r = some d
    ∧ t.scheduled key (t.newHolder r) = t.delays.push key (t.lastGrant + 1) d
  cases due : t.expiry r with
  | none =>
    left
    refine ⟨rfl, ?_⟩
    rw [scheduled, show (t.newHolder r).expiresAt = none from due]
  | some d =>
    right
    refine ⟨d, rfl, ?_⟩
    rw [scheduled, show (t.newHolder r).expiresAt = some d from due]
    rfl

/-- **Making a holder** brings its record with it. The holder that was there before, if
there was one, needs none any more. -/
theorem recorded_install (s : t.Scheduled)
    (distinct : (t.delays.records.map DelayRecord.grant).Nodup) {key : String}
    (others : ∀ k h d, k ≠ key → t.holder? k = some h → h.expiresAt = some d →
      ∃ r ∈ t.delays.records, r.grant = h.grant) (r : Request) (ws : List Waiter) :
    (t.install key r ws).2.Recorded := by
  rcases t.records_install key r ws with ⟨none, same⟩ | ⟨d, some, new⟩
  · refine ⟨by rw [same]; exact distinct, ?_⟩
    intro k h d held due
    rw [same]
    rw [holder?_install] at held
    by_cases here : k = key
    · rw [if_pos here] at held
      rw [← Option.some.inj held] at due
      exact absurd (none.symm.trans due) (Option.some_ne_none d).symm
    · rw [if_neg here] at held
      exact others k h d here held due
  · constructor
    · -- The number is new, so no record has it yet.
      have fresh : t.lastGrant + 1 ∉ t.delays.records.map DelayRecord.grant := by
        intro old
        obtain ⟨record, member, number⟩ := List.mem_map.1 old
        have bound := s.record_le record member
        omega
      rw [new, ((DelayQueue.records_push_perm _ _ _ _).map _).nodup_iff, List.map_cons,
        List.nodup_cons]
      exact ⟨fresh, distinct⟩
    -- The new holder has the new record, and all others have theirs still.
    · intro k h d' held due
      rw [new]
      rw [holder?_install] at held
      by_cases here : k = key
      · rw [if_pos here] at held
        rw [← Option.some.inj held]
        exact ⟨_, DelayQueue.mem_records_push.2 (.inl rfl), rfl⟩
      · rw [if_neg here] at held
        obtain ⟨record, member, mine⟩ := others k h d' here held due
        exact ⟨record, DelayQueue.mem_records_push.2 (.inr member), mine⟩

/-- **Passing a key on** needs the records of the other keys only. -/
theorem recorded_handOn (s : t.Scheduled)
    (distinct : (t.delays.records.map DelayRecord.grant).Nodup) {key : String}
    (others : ∀ k h d, k ≠ key → t.holder? k = some h → h.expiresAt = some d →
      ∃ r ∈ t.delays.records, r.grant = h.grant) (ws : List Waiter) :
    (t.handOn key ws).2.Recorded := by
  cases ws with
  | nil =>
    refine ⟨distinct, ?_⟩
    intro k h d held due
    rw [holder?_handOn] at held
    by_cases here : k = key
    · rw [if_pos here] at held
      cases held
    · rw [if_neg here] at held
      exact others k h d here held due
  | cons w ws =>
    have made := recorded_install s distinct others w.request ws
    exact made.mono (.of_eq fun _ => rfl) rfl

/-- Taking the first record out costs nobody but its own grant a record. -/
theorem Recorded.present_drain (r : t.Recorded) {record : DelayRecord}
    (first : t.delays.records.head? = some record) {key : String} {h : Holder} {d : Nat}
    (held : t.holder? key = some h) (due : h.expiresAt = some d) (other : h.grant ≠ record.grant) :
    ∃ r ∈ t.delays.tail.records, r.grant = h.grant := by
  obtain ⟨found, member, mine⟩ := r.present key h d held due
  refine ⟨found, ?_, mine⟩
  obtain ⟨rest, split⟩ := List.head?_eq_some_iff.1 first
  rw [split] at member
  rcases List.mem_cons.1 member with rfl | later
  · exact absurd mine.symm other
  · change found ∈ t.delays.records.tail
    rw [split]
    exact later

theorem Recorded.distinct_drain (r : t.Recorded) :
    (t.delays.tail.records.map DelayRecord.grant).Nodup :=
  r.distinct.sublist ((List.tail_sublist _).map _)

/-- **A step keeps a record for each lease.** -/
theorem Way.recorded (s : t.Sound) (r : t.Recorded) {e : Event} {o : Outcome} (w : Way t e o u) :
    u.Recorded := by
  -- Passing a key on in a table with the same holders and records.
  have passed : ∀ (t' : Table) (key : String) (ws : List Waiter), t'.Scheduled →
      (∀ k, t'.holder? k = t.holder? k) → t'.delays = t.delays → (t'.handOn key ws).2.Recorded := by
    intro t' key ws sched holders delays
    refine recorded_handOn sched (by rw [delays]; exact r.distinct) ?_ ws
    intro k h d _ held due
    rw [delays]
    exact r.present k h d ((holders k).symm.trans held) due
  cases w with
  | refuse | decline | fetch | lapse => exact r.mono (.of_eq fun _ => rfl) rfl
  | aside same =>
    refine r.mono (.of_eq fun k => ?_) same.delays
    rw [holder?, holder?, same.slots]
  | tryClaim q free | claim token q free =>
    exact recorded_install s.toScheduled r.distinct (fun k h d _ => r.present k h d) q []
  | tryReenter q slot held | reenter token q slot held | retain q slot held =>
    exact r.mono (.setHolds held _) rfl
  | keep c g slot hc ready held =>
    have alike : t.KeepsHolders (t.setHolds c.request.key slot (slot.holder.holds - 1)) :=
      .setHolds held _
    exact r.mono (u := (t.forget c.ticket).setHolds _ _ _) alike rfl
  | block token q =>
    have holders : t.KeepsHolders (t.enqueue token q) := .of_eq (t.holder?_enqueue token q)
    obtain ⟨slots, eq⟩ := t.enqueue_eq token q
    exact r.mono holders (by rw [eq])
  | callOff c | leave c =>
    have holders : t.KeepsHolders (t.withdraw c) := .of_eq (t.holder?_withdraw c)
    obtain ⟨slots, eq⟩ := t.withdraw_eq c
    exact r.mono holders (by rw [eq])
  -- The call is forgotten before the key is passed on; holders and records are not touched by that.
  | giveBack c g slot hc ready =>
    exact passed (t.forget c.ticket) _ _ (s.forget hc ready).toScheduled (fun _ => rfl) rfl
  | release q slot | revoke key slot =>
    exact passed t _ _ s.toScheduled (fun _ => rfl) rfl
  | discard record running first due stale =>
    refine ⟨r.distinct_drain, ?_⟩
    intro key h d held due'
    refine r.present_drain first held due' ?_
    -- A holder with the number of the record would be on the key of the record.
    intro same
    have here := (s.record_holder record (List.mem_of_head? first) key h held same).1
    have lost : t.grant? record.key = some h.grant := by
      rw [here]
      exact grant?_of_holder (t := t) held
    exact stale (lost.trans (congrArg some same))
  | expire record slot running first due held mine =>
    refine recorded_handOn s.drain.toScheduled r.distinct_drain ?_ _
    intro k h d other held' due'
    refine r.present_drain first held' due' ?_
    intro same
    exact other (s.grant_inj k record.key h _ held' (holder?_of_slot held) (same.trans mine.symm))

theorem Recorded.run (r : t.Recorded) (s : t.Sound) (es : List Event) : (t.run es).Recorded := by
  induction es generalizing t with
  | nil => exact r
  | cons e es ih =>
    have way := step_way s.toQueued e
    exact ih (way.recorded s r) (s.way way)

variable {kind : LockKind} {leased : Bool} {reaper : Reaper} {horizon : Horizon}

/-- Every table that a run leads to has its records. -/
theorem recorded_run (es : List Event) :
    ((opening kind leased reaper horizon).run es).Recorded := by
  have start : (opening kind leased reaper horizon).Recorded :=
    ⟨List.nodup_nil, fun key h d held => by cases held⟩
  exact start.run (sound_opening kind leased reaper horizon) es

end Table

end KeyedLocks
