/-
Numbers of double precision.

The size of a finite double is a whole number of steps, a step being two to the
power of -1074, and of the binary digits of that number 53 count at most. So a size
is a natural number here, and every operation on sizes is one on natural numbers
with a rounding behind it.

A numeral is read the fast way. As many of its leading digits as fit a 64-bit word
are one double, the power of ten that belongs to them is another, and their product
or quotient is rounded once more. What comes out can differ in the last digit from
the double nearest to the numeral.
-/
import KeyedLocks.Json.Numeral

set_option autoImplicit false

namespace KeyedLocks.Json

/-! ## Rounding -/

/-- A finite number of double precision: its sign, and its size in steps. -/
structure Double where
  negative : Bool
  steps : Nat
  deriving DecidableEq, Repr

namespace Double

/-- The distance from a size to the next one above it. -/
def spacing (steps : Nat) : Nat := 1 <<< (steps.log2 - 52)

/-- The natural number with at most 53 significant binary digits that is nearest to a
quotient, a tie going to the even neighbour. -/
def nearest (dividend divisor : Nat) : Nat :=
  let unit := divisor * spacing (dividend / divisor)
  let q := dividend / unit
  let r := dividend % unit
  let up := unit < 2 * r || (unit == 2 * r && q % 2 == 1)
  (if up then q + 1 else q) * spacing (dividend / divisor)

/-- What is small enough is not rounded. -/
theorem nearest_one {n : Nat} (h : n.log2 ≤ 52) : nearest n 1 = n := by
  simp [nearest, spacing, Nat.sub_eq_zero_of_le h, Nat.mod_one]

/-- A quotient without a remainder is rounded like a whole number. -/
theorem nearest_mul {n d : Nat} (h : 0 < d) : nearest (d * n) d = nearest n 1 := by
  have units : ∀ k, d * n / (d * k) = n / k := fun k => Nat.mul_div_mul_left n k h
  have rests : ∀ k, d * n % (d * k) = d * (n % k) := fun k => Nat.mul_mod_mul_left d n k
  have less : ∀ a b, (d * a < 2 * (d * b)) = (a < 2 * b) := fun a b => by
    rw [Nat.mul_left_comm, Nat.mul_lt_mul_left h]
  have same : ∀ a b, (d * a == 2 * (d * b)) = (a == 2 * b) := fun a b => by
    rw [Nat.mul_left_comm, Bool.eq_iff_iff, beq_iff_eq, beq_iff_eq, Nat.mul_right_inj (by omega)]
  simp only [nearest, Nat.mul_div_cancel_left n h, units, rests, less, same, Nat.div_one,
    Nat.one_mul]

/-! ## Reading a numeral -/

/-- The size that is too large for a double. -/
def limit : Nat := 1 <<< 2098

/-- One in steps. -/
def one : Nat := 1 <<< 1074

/-- The greatest power of ten that is a finite double. -/
def greatestPower : Nat := 308

/-- A power of ten, rounded. -/
def powerOfTen (e : Nat) : Nat := nearest (Nat.pow 10 e) 1

/-- A size over a power of ten. Of a power too great for a double the greatest one is
taken first, as long as anything is left to divide. -/
def shrink (steps e : Nat) : Nat :=
  if steps = 0 ∨ e ≤ greatestPower then nearest steps (powerOfTen e)
  else shrink (nearest steps (powerOfTen greatestPower)) (e - greatestPower)
termination_by e
decreasing_by simp only [greatestPower] at *; omega

/-- The size of a word times a power of ten, if it is finite. -/
def size? (word : Nat) (scale : Int) : Option Nat :=
  let steps := nearest word 1 * one
  if word = 0 then some 0
  else if scale < 0 then some (shrink steps scale.natAbs)
  else if greatestPower < scale.natAbs then none
  else
    let product := nearest (steps * powerOfTen scale.natAbs) 1
    if product < limit then some product else none

/-- A product of zero is zero, whatever the power of ten. -/
@[simp] theorem size?_zero (scale : Int) : size? 0 scale = some 0 := by simp [size?]

end Double

namespace Numeral

/-- Leading digits as far as they fit a 64-bit word: the word, and the digits that no
longer fitted. -/
def significand (word : Nat) : List Char → Nat × List Char
  | [] => (word, [])
  | c :: rest =>
    let next := word * 10 + (c.toNat - 48)
    if next < UInt64.size then significand next rest else (word, c :: rest)

/-- The double that a numeral denotes, if it denotes a finite one. -/
def double? (n : Numeral) : Option Double :=
  let (word, dropped) := significand 0 n.whole
  let (word, unread) := significand word n.fraction
  let places : Int := dropped.length - (n.fraction.length - unread.length : Nat)
  let shift : Int :=
    match n.exponent with
    | none => 0
    | some (true, ds) => -(digitsValue ds : Int)
    | some (false, ds) => digitsValue ds
  (Double.size? word (places + shift)).map fun steps => ⟨n.negative, steps⟩

/-- A numeral too large for a finite double is no number at all. -/
def isFinite (n : Numeral) : Bool := n.double?.isSome

/-- A numeral is a number if it denotes an integer or a finite double. -/
def isNumber (n : Numeral) : Bool := n.integer?.isSome || n.isFinite

end Numeral

end KeyedLocks.Json
