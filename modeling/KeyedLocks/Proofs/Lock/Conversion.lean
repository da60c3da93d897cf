/-
Durations and their spans.

A duration denotes a number of nanoseconds, and its span is that number or, if it is more than the
longest span holds, the longest span (`toNanoseconds_span`). So the order of durations, in
whatever units they are given, is the order of their spans.

The same span comes out in machine words (`spanInWords?_eq`). A magnitude is below `2 ^ 63`, and the
longest unit has less than `2 ^ 47` nanoseconds, so a word of 128 bits has room for the product;
the narrow words are reached only by numbers that fit into them; and what is left over is less than
a second, so that nothing is carried.
-/
import Mathlib.Algebra.Group.Nat.Defs
import KeyedLocks.Lock.Words

set_option autoImplicit false

namespace KeyedLocks

/-! ## Durations as numbers -/

/-- A span holds a number of nanoseconds, or the longest span if they are more. -/
theorem Span.toNanoseconds_ofNanoseconds (n : Nat) :
    (Span.ofNanoseconds n).toNanoseconds = min n Span.longest.toNanoseconds := by
  have size : UInt64.size = 18446744073709551616 := rfl
  rw [Span.toNanoseconds_longest]
  unfold Span.ofNanoseconds
  split
  -- The span has room for it, so both parts are kept and put together again.
  · next fits =>
    have below : n % second < second := Nat.mod_lt _ (by decide)
    have together : n / second * second + n % second = n := Nat.div_add_mod' n second
    rw [Span.toNanoseconds, UInt64.toNat_ofNat_of_lt' fits,
      UInt32.toNat_ofNat_of_lt' (Nat.lt_trans below (by decide)), together]
    unfold second at *
    omega
  -- It does not, and then the number is more than the longest span has.
  · next beyond =>
    rw [Span.toNanoseconds_longest]
    unfold second at beyond
    omega

/-- The nanoseconds that a duration denotes, with nothing cut off. A magnitude below zero denotes
none. -/
def LockDuration.inNanoseconds (d : LockDuration) : Nat :=
  d.magnitude.toInt.toNat * d.unit.inNanoseconds

/-- A span is what the duration denotes, or else the longest one. -/
theorem LockDuration.toNanoseconds_span (d : LockDuration) :
    d.span.toNanoseconds = min d.inNanoseconds Span.longest.toNanoseconds := by
  unfold span
  split
  · next none =>
    have zero : d.magnitude.toInt.toNat = 0 := by
      rw [Int.toNat_eq_zero]
      exact Int64.le_iff_toInt_le.1 none
    rw [inNanoseconds, zero, Nat.zero_mul, Nat.zero_min, Span.toNanoseconds_zero]
  · exact Span.toNanoseconds_ofNanoseconds _

/-- **The order of spans** is that of their nanoseconds. -/
theorem Span.le_iff_toNanoseconds_le {a b : Span} :
    a ≤ b ↔ a.toNanoseconds ≤ b.toNanoseconds := by
  have low := a.subsecond_lt
  have low' := b.subsecond_lt
  change (a.seconds < b.seconds ∨ a.seconds = b.seconds ∧ a.subsecond ≤ b.subsecond) ↔ _
  rw [UInt64.lt_iff_toNat_lt, ← UInt64.toNat_inj, UInt32.le_iff_toNat_le, toNanoseconds,
    toNanoseconds]
  unfold second at *
  omega

/-! ## Words -/

/-- The word of a unit is its number of nanoseconds. -/
theorem TimeUnit.toNat_word (u : TimeUnit) : u.word.toNat = u.inNanoseconds := by
  cases u <;> rfl

/-- No unit has as many as 2^47 nanoseconds. -/
theorem TimeUnit.inNanoseconds_lt (u : TimeUnit) : u.inNanoseconds < 2 ^ 47 := by
  cases u <;> decide

theorem toNat_saturatingMul {w : Nat} {a b : BitVec w} (fits : a.toNat * b.toNat < 2 ^ w) :
    (saturatingMul a b).toNat = a.toNat * b.toNat := by
  have below : a.umulOverflow b = false := by
    rw [BitVec.umulOverflow, decide_eq_false_iff_not]
    omega
  rw [saturatingMul, below, if_neg (by decide), BitVec.toNat_mul, Nat.mod_eq_of_lt fits]

/-- Parts of which the second is less than a second are the parts of a span. -/
theorem Span.ofParts?_of_lt {seconds : UInt64} {nanoseconds : UInt32}
    (small : nanoseconds.toNat < second) :
    Span.ofParts? seconds nanoseconds = some ⟨seconds, nanoseconds, small⟩ := dif_pos small

namespace LockDuration

variable {d : LockDuration}

section Positive

variable (positive : 0 < d.magnitude)
include positive

/-- A magnitude above zero is widened as it is. -/
theorem toNat_wideMagnitude : d.wideMagnitude.toNat = d.magnitude.toInt.toNat := by
  -- The sign is not set, so widening adds zeros.
  have above : 0 < d.magnitude.toBitVec.toInt := Int64.lt_iff_toInt_lt.1 positive
  have unsigned : d.magnitude.toBitVec.msb = false := by
    rw [BitVec.msb_eq_toInt, decide_eq_false_iff_not]
    omega
  rw [wideMagnitude, BitVec.signExtend_eq_setWidth_of_msb_false unsigned,
    BitVec.toNat_setWidth_of_le (by decide), ← Int64.toInt_toBitVec,
    BitVec.toInt_eq_toNat_of_msb unsigned, Int.toNat_natCast]

/-- **The product is never cut down.** -/
theorem toNat_wideNanoseconds : d.wideNanoseconds.toNat = d.inNanoseconds := by
  have unit : (d.unit.word.toBitVec.setWidth 128).toNat = d.unit.inNanoseconds := by
    rw [BitVec.toNat_setWidth_of_le (by decide), UInt64.toNat_toBitVec, TimeUnit.toNat_word]
  have magnitude : d.magnitude.toInt.toNat < 2 ^ 63 := by
    have bound := d.magnitude.toInt_lt
    omega
  -- The product has 110 bits at most, so that nothing is cut off from it.
  have fits : d.magnitude.toInt.toNat * d.unit.inNanoseconds < 2 ^ 63 * 2 ^ 47 :=
    Nat.mul_lt_mul'' magnitude d.unit.inNanoseconds_lt
  rw [wideNanoseconds, toNat_saturatingMul, toNat_wideMagnitude positive, unit, inNanoseconds]
  rw [toNat_wideMagnitude positive, unit]
  exact Nat.lt_trans fits (by decide)

/-- Whole seconds are divided off in the wide word. -/
theorem toNat_wideSeconds : d.wideSeconds.toNat = d.inNanoseconds / second := by
  rw [wideSeconds, BitVec.toNat_udiv, toNat_wideNanoseconds positive]
  rfl

/-- Seconds that are not beyond the longest span are narrowed as they are. -/
theorem toNat_narrowSeconds (fits : d.inNanoseconds / second < UInt64.size) :
    d.narrowSeconds.toNat = d.inNanoseconds / second := by
  rw [narrowSeconds, UInt64.toNat_ofBitVec, BitVec.toNat_setWidth, toNat_wideSeconds positive]
  exact Nat.mod_eq_of_lt fits

/-- What is left over is always narrowed as it is. -/
theorem toNat_narrowRest : d.narrowRest.toNat = d.inNanoseconds % second := by
  have low : d.inNanoseconds % second < second := Nat.mod_lt _ (by decide)
  have rest : (d.wideNanoseconds % 1000000000).toNat = d.inNanoseconds % second := by
    rw [BitVec.toNat_umod, toNat_wideNanoseconds positive]
    rfl
  rw [narrowRest, UInt32.toNat_ofBitVec, BitVec.toNat_setWidth, rest]
  exact Nat.mod_eq_of_lt (Nat.lt_trans low (by decide))

/-- The seconds are beyond a word of 64 bits exactly if they are more than such a word holds. -/
theorem lt_wideSeconds_iff :
    (UInt64.toBitVec 18446744073709551615).setWidth 128 < d.wideSeconds
      ↔ ¬ d.inNanoseconds / second < UInt64.size := by
  have size : UInt64.size = 18446744073709551616 := rfl
  rw [BitVec.lt_def, toNat_wideSeconds positive]
  change 18446744073709551615 < _ ↔ _
  omega

end Positive

/-- **In words the span is the same**, and there always is one. -/
theorem spanInWords?_eq (d : LockDuration) : d.spanInWords? = some d.span := by
  unfold spanInWords? span
  by_cases none : d.magnitude ≤ 0
  · rw [if_pos none, if_pos none]
  · have positive : 0 < d.magnitude := Int64.not_le.1 none
    have beyond := lt_wideSeconds_iff positive
    change _ = some (if _ then _ else Span.ofNanoseconds d.inNanoseconds)
    rw [if_neg none, if_neg none, Span.ofNanoseconds]
    by_cases fits : d.inNanoseconds / second < UInt64.size
    · have rest := toNat_narrowRest positive
      have low : d.inNanoseconds % second < second := Nat.mod_lt _ (by decide)
      rw [if_neg fun far => beyond.1 far fits, if_pos fits, Span.ofParts?_of_lt (rest ▸ low)]
      -- The words have the numbers that they were narrowed from.
      have seconds : d.narrowSeconds = UInt64.ofNat (d.inNanoseconds / second) := by
        rw [← UInt64.toNat_inj, toNat_narrowSeconds positive fits, UInt64.toNat_ofNat_of_lt' fits]
      have subsecond : d.narrowRest = UInt32.ofNat (d.inNanoseconds % second) := by
        rw [← UInt32.toNat_inj, rest,
          UInt32.toNat_ofNat_of_lt' (Nat.lt_trans low (by decide))]
      exact congrArg some (Span.mk.injEq .. ▸ ⟨seconds, subsecond⟩)
    · rw [if_pos (beyond.2 fits), if_neg fits]

/-- The nanoseconds of a duration, with a magnitude below zero counted as zero. -/
theorem inNanoseconds_eq_max_mul (d : LockDuration) :
    (d.inNanoseconds : Int) = max 0 d.magnitude.toInt * d.unit.inNanoseconds := by
  rw [inNanoseconds, Int.natCast_mul, Int.ofNat_toNat, Int.max_comm]

end LockDuration

/-! ## The whole -/

/-- **A span is exactly what its duration denotes**, as far as a span can hold it. Take any
magnitude and any unit. On the way to the span the words lose nothing: the product of a magnitude
above zero is exact, and so are the seconds that are narrowed and what is left over. The span comes
out, and its nanoseconds are those of the duration, where a magnitude below zero counts as zero, or
those of the longest span if these are fewer. So of two durations, in whatever units, the one that
denotes no more has a span that is no longer. -/
theorem span_is_what_the_duration_denotes (d : LockDuration) :
    (0 < d.magnitude →
        d.wideNanoseconds.toNat = d.magnitude.toInt.toNat * d.unit.word.toNat
          ∧ (d.wideSeconds.toNat < UInt64.size → d.narrowSeconds.toNat = d.wideSeconds.toNat)
          ∧ d.narrowRest.toNat = (d.wideNanoseconds % 1000000000).toNat)
      ∧ d.spanInWords? = some d.span
      ∧ (d.span.toNanoseconds : Int)
        = min (max 0 d.magnitude.toInt * d.unit.inNanoseconds) Span.longest.toNanoseconds
      ∧ ∀ d' : LockDuration,
        max 0 d.magnitude.toInt * d.unit.inNanoseconds
            ≤ max 0 d'.magnitude.toInt * d'.unit.inNanoseconds →
          d.span ≤ d'.span := by
  refine ⟨fun positive => ⟨?_, fun fits => ?_, ?_⟩, d.spanInWords?_eq, ?_, fun d' le => ?_⟩
  · rw [LockDuration.toNat_wideNanoseconds positive, TimeUnit.toNat_word]
    rfl
  · rw [LockDuration.toNat_wideSeconds positive] at fits ⊢
    exact LockDuration.toNat_narrowSeconds positive fits
  · rw [LockDuration.toNat_narrowRest positive, BitVec.toNat_umod,
      LockDuration.toNat_wideNanoseconds positive]
    rfl
  · rw [← d.inNanoseconds_eq_max_mul, d.toNanoseconds_span]
    omega
  -- To cut off at a bound keeps the order.
  · rw [← d.inNanoseconds_eq_max_mul, ← d'.inNanoseconds_eq_max_mul, Int.ofNat_le] at le
    rw [Span.le_iff_toNanoseconds_le, d.toNanoseconds_span, d'.toNanoseconds_span]
    omega

end KeyedLocks
