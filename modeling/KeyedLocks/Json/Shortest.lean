/-
Doubles in their shortest form.

A decimal reads back as a double if it lies nearer to it than to any other double. A
decimal half-way between two doubles reads back as the one whose last binary digit is
even. Of the decimals that read back the shortest form has the fewest digits, and of
those of that many digits it is the nearest.

Decimals with the same exponent form a grid, and each grid lies inside the finer ones.
So the search goes from coarse grids to fine ones and ends at the first one with a
decimal that reads back. On the finest grid every double lies itself.

Main statement: the shortest form reads back. What follows it is the layout, in which
a double is told from an integer by its point or by its exponent.
-/
import KeyedLocks.Json.Double

set_option autoImplicit false

namespace KeyedLocks.Json

/-- A number times a power of ten. -/
structure Decimal where
  digits : Nat
  exponent : Int
  deriving DecidableEq, Repr

/-! ## Reading back

The bounds between doubles lie at quarters of a step, so sizes are compared in
quarters here. A grid with a negative exponent is compared after both sides have been
multiplied by a power of ten. -/

namespace Decimal

/-- What both sides are multiplied by on a grid. -/
def scale (exponent : Int) : Nat := Nat.pow 10 (-exponent).toNat

/-- The distance between two decimals of a grid, in quarters, scaled. -/
def gridUnit (exponent : Int) : Nat := Nat.pow 10 exponent.toNat * (4 * Double.one)

end Decimal

namespace Double

/-- How far below a size decimals read back, in quarters. Below a power of two doubles
lie closer together, unless it is one of the least. -/
def reachBelow (steps : Nat) : Nat :=
  if 52 < steps.log2 ∧ steps = 1 <<< steps.log2 then spacing steps else 2 * spacing steps

/-- How far above a size decimals read back, in quarters. -/
def reachAbove (steps : Nat) : Nat := 2 * spacing steps

/-- Whether a decimal reads back as a double of some size. The bounds themselves belong
to a size with an even last digit. -/
def readsBack (steps : Nat) (d : Decimal) : Bool :=
  let scale := Decimal.scale d.exponent
  let x := d.digits * Decimal.gridUnit d.exponent
  let low := (4 * steps - reachBelow steps) * scale
  let high := (4 * steps + reachAbove steps) * scale
  if (steps / spacing steps) % 2 = 0 then low ≤ x && x ≤ high else low < x && x < high

/-! ## The search -/

/-- The neighbours of a size on a grid, the nearer one first. Of two that are equally
near the even one comes first. -/
def neighbours (steps : Nat) (exponent : Int) : List Decimal :=
  let unit := Decimal.gridUnit exponent
  let x := 4 * steps * Decimal.scale exponent
  let below := x / unit
  let r := x % unit
  if 2 * r < unit ∨ (2 * r = unit ∧ below % 2 = 0) then
    [⟨below, exponent⟩, ⟨below + 1, exponent⟩]
  else [⟨below + 1, exponent⟩, ⟨below, exponent⟩]

/-- The exponent of the finest grid is `-1074`. -/
def finest : Nat := 1074

/-- The size itself, as a decimal on the finest grid. -/
def exactly (steps : Nat) : Decimal := ⟨steps * Nat.pow 5 finest, -(finest : Int)⟩

/-- The exponents of the grids, from the coarsest to the finest. No grid above the
greatest power of ten has a decimal but zero that reads back. -/
def exponents : List Int :=
  (List.range (finest + greatestPower + 1)).reverse.map fun n : Nat => (n : Int) - finest

/-- The first decimal on grids that reads back. -/
def firstOn? (steps : Nat) (exponents : List Int) : Option Decimal :=
  exponents.findSome? fun e => (neighbours steps e).find? (readsBack steps)

/-- The shortest decimal that reads back as a double of some size. -/
def shortest (steps : Nat) : Decimal := (firstOn? steps exponents).getD (exactly steps)

/-! ## The shortest form reads back -/

theorem spacing_pos (steps : Nat) : 0 < spacing steps := by
  rw [spacing, Nat.one_shiftLeft]
  exact Nat.pow_pos (by decide)

theorem reachBelow_pos (steps : Nat) : 0 < reachBelow steps := by
  have := spacing_pos steps
  rw [reachBelow]
  split <;> omega

theorem reachAbove_pos (steps : Nat) : 0 < reachAbove steps := by
  have := spacing_pos steps
  rw [reachAbove]
  omega

/-- A decimal that has the very size reads back. -/
theorem readsBack_of_eq {steps : Nat} {d : Decimal}
    (h : d.digits * Decimal.gridUnit d.exponent = 4 * steps * Decimal.scale d.exponent) :
    readsBack steps d = true := by
  have scale_pos : 0 < Decimal.scale d.exponent := Nat.pow_pos (by decide)
  have below := reachBelow_pos steps
  have above := reachAbove_pos steps
  simp only [readsBack, h]
  split
  · simp only [Bool.and_eq_true, decide_eq_true_eq]
    exact ⟨Nat.mul_le_mul_right _ (by omega), Nat.mul_le_mul_right _ (by omega)⟩
  · next odd =>
    have pos : 0 < steps := by
      rcases Nat.eq_zero_or_pos steps with rfl | pos
      · simp at odd
      · exact pos
    simp only [Bool.and_eq_true, decide_eq_true_eq]
    exact ⟨Nat.mul_lt_mul_of_pos_right (by omega) scale_pos,
      Nat.mul_lt_mul_of_pos_right (by omega) scale_pos⟩

/-- Every size lies on the finest grid. -/
theorem readsBack_exactly (steps : Nat) : readsBack steps (exactly steps) = true := by
  apply readsBack_of_eq
  have same : Nat.pow 5 finest * Decimal.gridUnit (-(finest : Int))
      = 4 * Decimal.scale (-(finest : Int)) := by decide +kernel
  simp only [exactly]
  rw [Nat.mul_assoc, same, Nat.mul_left_comm, Nat.mul_assoc]

/-- What a search finds reads back. -/
theorem readsBack_of_firstOn {steps : Nat} {exponents : List Int} {d : Decimal}
    (h : firstOn? steps exponents = some d) : readsBack steps d = true := by
  obtain ⟨e, _, here⟩ := List.exists_of_findSome?_eq_some h
  exact List.find?_some here

/-- **The shortest form reads back.** -/
theorem readsBack_shortest (steps : Nat) : readsBack steps (shortest steps) = true := by
  rw [shortest]
  cases found : firstOn? steps exponents with
  | none => exact readsBack_exactly steps
  | some d => exact readsBack_of_firstOn found

/-! ## The layout -/

/-- The digits of a decimal with the point in its place. Without an exponent there are at
most sixteen digits in front of the point, and at most four zeros between the point and
the first other digit. With an exponent there is one digit in front of the point, and
no point behind a digit that stands alone. -/
def layOut (negative : Bool) (d : Decimal) : Numeral :=
  let ds := Nat.toDigits 10 d.digits
  let place : Int := ds.length + d.exponent
  if 0 < place ∧ place ≤ 16 then
    if 0 ≤ d.exponent then
      ⟨negative, ds ++ List.replicate d.exponent.toNat '0', ['0'], none⟩
    else ⟨negative, ds.take place.toNat, ds.drop place.toNat, none⟩
  else if -5 < place ∧ place ≤ 0 then
    ⟨negative, ['0'], List.replicate (-place).toNat '0' ++ ds, none⟩
  else
    ⟨negative, ds.take 1, ds.drop 1, some (place < 1, Nat.toDigits 10 (place - 1).natAbs)⟩

/-- A double as a numeral. -/
def numeral (d : Double) : Numeral :=
  if d.steps = 0 then ⟨d.negative, ['0'], ['0'], none⟩ else layOut d.negative (shortest d.steps)

end Double

/-- A numeral as it is shown: an integer as it was written, any other number in its
shortest form. -/
def Numeral.shown (n : Numeral) : Numeral :=
  if n.integer?.isSome then n
  else
    match n.double? with
    | some d => d.numeral
    | none => n

/-- An integer is shown as it was written. -/
theorem Numeral.shown_of_integer {n : Numeral} {i : Int} (h : n.integer? = some i) :
    n.shown = n := by
  simp [shown, h]

end KeyedLocks.Json
