/-
A span computed in machine words.

The magnitude of a duration is widened to a word of 128 bits and multiplied by the nanoseconds of
its unit, and a product that does not fit there is cut down to the largest word. The product is
taken apart into whole seconds and the nanoseconds that are left over, which are narrowed to words
of 64 and of 32 bits. Where a span is put together from the two, whole seconds that are still among
the nanoseconds are carried over, and if there is no room for them there is no span.

Every one of these steps may lose something. That on the way to a span none of them does, so that
the words come to what `LockDuration.span` says, is a result.
-/
import KeyedLocks.Lock.Duration

set_option autoImplicit false

namespace KeyedLocks

/-- The product of two words, or the largest word if the product does not fit. -/
def saturatingMul {w : Nat} (a b : BitVec w) : BitVec w :=
  if a.umulOverflow b then BitVec.allOnes w else a * b

/-- The nanoseconds in one unit, in a word. -/
def TimeUnit.word (u : TimeUnit) : UInt64 := UInt64.ofNat u.inNanoseconds

namespace Span

/-- The order of spans: by seconds, then by what is left over. -/
protected def le (a b : Span) : Prop :=
  a.seconds < b.seconds ∨ a.seconds = b.seconds ∧ a.subsecond ≤ b.subsecond

instance : LE Span := ⟨Span.le⟩

/-- The span of some seconds and some nanoseconds, if the seconds have room for the whole ones
among the nanoseconds. -/
def ofParts? (seconds : UInt64) (nanoseconds : UInt32) : Option Span :=
  if small : nanoseconds.toNat < second then some ⟨seconds, nanoseconds, small⟩
  else
    let carry := (nanoseconds / 1000000000).toUInt64
    if seconds.toNat + carry.toNat < UInt64.size then
      some ⟨seconds + carry, nanoseconds % 1000000000, by
        rw [UInt32.toNat_mod]
        exact Nat.mod_lt _ (by decide)⟩
    else none

end Span

namespace LockDuration

/-- The magnitude in a word of 128 bits. One below zero would come out as a large number. -/
def wideMagnitude (d : LockDuration) : BitVec 128 := d.magnitude.toBitVec.signExtend 128

/-- The nanoseconds of a duration in a word of 128 bits. -/
def wideNanoseconds (d : LockDuration) : BitVec 128 :=
  saturatingMul d.wideMagnitude (d.unit.word.toBitVec.setWidth 128)

/-- The whole seconds of a duration in a word of 128 bits. -/
def wideSeconds (d : LockDuration) : BitVec 128 := d.wideNanoseconds / 1000000000

/-- The whole seconds, narrowed. -/
def narrowSeconds (d : LockDuration) : UInt64 := UInt64.ofBitVec (d.wideSeconds.setWidth 64)

/-- The nanoseconds that are left over, narrowed. -/
def narrowRest (d : LockDuration) : UInt32 :=
  UInt32.ofBitVec ((d.wideNanoseconds % 1000000000).setWidth 32)

/-- The span of a duration, computed in words. -/
def spanInWords? (d : LockDuration) : Option Span :=
  if d.magnitude ≤ 0 then some .zero
  else if (UInt64.toBitVec 18446744073709551615).setWidth 128 < d.wideSeconds then some .longest
  else Span.ofParts? d.narrowSeconds d.narrowRest

end LockDuration

end KeyedLocks
