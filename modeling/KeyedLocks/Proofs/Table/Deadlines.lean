/-
Longer leases and later deadlines.

On its way to a deadline a duration is cut off twice. A span holds `Span.longest` at most, and
that keeps the order of durations. A lease that the clock cannot follow to its end is replaced by
thirty years, and that does not keep it: a lease of more than thirty years that the clock can
follow ends after one that is longer still and that it cannot follow. This is the only exception,
so the two deadlines are compared exactly.

The longest span is itself beyond the clock. A duration that does not fit into a span is therefore
one that the clock cannot follow, and the first cut never decides anything.
-/
import KeyedLocks.Proofs.Lock.Conversion
import KeyedLocks.Proofs.Table.Settling

set_option autoImplicit false

namespace KeyedLocks

/-! ## Two leases that start together -/

/-- No clock can point as far as the longest span. -/
theorem Horizon.last_lt_longest (z : Horizon) : z.last < Span.longest.toNanoseconds :=
  Nat.lt_of_lt_of_le z.passed (by decide)

/-- What is cut off from a span is beyond the clock. -/
theorem deadline_span (z : Horizon) (now : Nat) (d : LockDuration) :
    z.deadline now d.span.toNanoseconds = z.deadline now d.inNanoseconds := by
  have far := z.last_lt_longest
  rw [d.toNanoseconds_span]
  unfold Horizon.deadline
  by_cases fits : d.inNanoseconds ≤ Span.longest.toNanoseconds
  · rw [Nat.min_eq_left fits]
  · rw [Nat.min_eq_right (Nat.le_of_not_le fits), if_neg (by omega), if_neg (by omega)]

/-- **Of two leases that start together** the longer one ends first exactly if it is the one that
the clock cannot follow, and the other one, which the clock can follow, lasts more than the thirty
years that stand in for it. -/
theorem deadline_lt_iff (z : Horizon) {now lease longer : Nat} (le : lease ≤ longer) :
    z.deadline now longer < z.deadline now lease
      ↔ now + lease ≤ z.last ∧ z.last < now + longer ∧ farFuture < lease := by
  unfold Horizon.deadline
  -- The two ends are found by different rules only where one lease fits and the other does not.
  by_cases fits : now + lease ≤ z.last
  · by_cases fits' : now + longer ≤ z.last
    · rw [if_pos fits, if_pos fits']
      omega
    · rw [if_pos fits, if_neg fits']
      omega
  · rw [if_neg fits, if_neg (by omega)]
    omega

namespace Table

/-- In a run the deadline of a holder is found from the duration that was asked for, as if nothing
had been cut off. -/
theorem expiresAt_of_run {kind : LockKind} {reaper : Reaper} {horizon : Horizon} (es : List Event)
    {key : String} {h : Holder}
    (held : ((opening kind true reaper horizon).run es).holder? key = some h)
    {d : LockDuration} (asked : h.request.duration = some d) :
    h.expiresAt = some (horizon.deadline h.acquiredAt d.inNanoseconds) := by
  have lease : h.request.lease = d.span.toNanoseconds := by
    rw [Request.lease, asked]
  rw [(sound_run es).expiry_eq key h held, leased_run, if_pos rfl, horizon_run, lease,
    deadline_span]

/-- **A longer lease ends no sooner, within thirty years.** Take two grants with deadlines that were
made at the same instant, by one table or by two under the same clock, and whose requests gave
durations of which the first denotes no more time than the second. The second ends before the
first exactly if the clock can follow the first lease to its end and not the second, and the first
lasts more than thirty years. -/
theorem longer_lease_ends_no_sooner_within_thirty_years (kind kind' : LockKind)
    (reaper reaper' : Reaper) (horizon : Horizon) (es es' : List Event) (key key' : String)
    (h h' : Holder) (d d' : LockDuration)
    (held : ((opening kind true reaper horizon).run es).holder? key = some h)
    (held' : ((opening kind' true reaper' horizon).run es').holder? key' = some h')
    (asked : h.request.duration = some d) (asked' : h'.request.duration = some d')
    (together : h'.acquiredAt = h.acquiredAt) (le : d.inNanoseconds ≤ d'.inNanoseconds) :
    ∃ e e', h.expiresAt = some e ∧ h'.expiresAt = some e'
      ∧ (e' < e ↔ h.acquiredAt + d.inNanoseconds ≤ horizon.last
        ∧ horizon.last < h.acquiredAt + d'.inNanoseconds ∧ farFuture < d.inNanoseconds) := by
  have first := expiresAt_of_run es held asked
  have second := expiresAt_of_run es' held' asked'
  rw [together] at second
  exact ⟨_, _, first, second, deadline_lt_iff horizon le⟩

/-- Two that the clock can follow: the one of nine milliseconds ends after the one of five. -/
theorem nine_milliseconds_outlast_five :
    let a : Request := ⟨"a", 1, ⟨"app", "a"⟩, .timeout, some ⟨5, .milliseconds⟩, 0⟩
    let b : Request := ⟨"b", 2, ⟨"app", "b"⟩, .timeout, some ⟨9, .milliseconds⟩, 0⟩
    let t := (opening .timeout true .running .widest).run [.tryAcquire a, .tryAcquire b]
    let h : Holder := ⟨a, 1, 1, 0, some 5000000⟩
    let h' : Holder := ⟨b, 2, 1, 0, some 9000000⟩
    t.holder? "a" = some h ∧ t.holder? "b" = some h'
      ∧ (⟨5, .milliseconds⟩ : LockDuration).inNanoseconds
        ≤ (⟨9, .milliseconds⟩ : LockDuration).inNanoseconds
      ∧ ∃ e e', h.expiresAt = some e ∧ h'.expiresAt = some e' ∧ e ≤ e' := by
  intro a b t h h'
  have held : t.holder? "a" = some h := by decide +kernel
  have held' : t.holder? "b" = some h' := by decide +kernel
  have le : (⟨5, .milliseconds⟩ : LockDuration).inNanoseconds
      ≤ (⟨9, .milliseconds⟩ : LockDuration).inNanoseconds := by decide
  obtain ⟨e, e', first, second, sooner⟩ := longer_lease_ends_no_sooner_within_thirty_years
    .timeout .timeout .running .running .widest _ _ "a" "b" h h' _ _ held held' rfl rfl rfl le
  refine ⟨held, held', le, e, e', first, second, ?_⟩
  -- The clock can follow both, so the second does not end first.
  rw [← Nat.not_lt, sooner]
  decide

/-- One that the clock cannot follow: a lease of about three hundred thousand million years ends
a day before one of thirty years and a day. -/
theorem lease_beyond_the_clock_ends_sooner :
    let a : Request := ⟨"a", 1, ⟨"app", "a"⟩, .timeout, some ⟨10951, .days⟩, 0⟩
    let b : Request := ⟨"b", 2, ⟨"app", "b"⟩, .timeout, some ⟨9223372036854775807, .seconds⟩, 0⟩
    let t := (opening .timeout true .running .widest).run [.tryAcquire a, .tryAcquire b]
    ¬ ∀ (key key' : String) (h h' : Holder) (d d' : LockDuration) (e e' : Nat),
      t.holder? key = some h → t.holder? key' = some h' → h.request.duration = some d →
      h'.request.duration = some d' → h'.acquiredAt = h.acquiredAt →
      d.inNanoseconds ≤ d'.inNanoseconds →
      h.expiresAt = some e → h'.expiresAt = some e' → e ≤ e' := by
  intro a b t always
  have held : t.holder? "a" = some ⟨a, 1, 1, 0, some (10951 * 86400 * second)⟩ := by
    decide +kernel
  -- Thirty years stand in for the lease of `b`, and `a` asked for a day more than that.
  have held' : t.holder? "b" = some ⟨b, 2, 1, 0, some farFuture⟩ := by decide +kernel
  have le := always "a" "b" _ _ _ _ _ _ held held' rfl rfl rfl (by decide) rfl rfl
  exact absurd le (by decide)

end Table

end KeyedLocks
