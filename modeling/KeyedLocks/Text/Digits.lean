/-
Whole numbers written in decimal, read into a bounded range.

The reader goes from the left and stops at the first digit that is none or that
would leave the range, so of two faults the one further left is reported, and of
a bad digit and an overflow at one place the bad digit. A sign may come first: a
plus always, a minus only where the range has negative numbers. A sign alone is
a bad digit.
-/
set_option autoImplicit false

namespace KeyedLocks.Text

/-! ## Faults -/

/-- Why a text is no number of a range. -/
inductive DigitFault where
  | empty
  | invalidDigit
  | tooLarge
  | tooSmall
  deriving DecidableEq, Repr

/-- The wording of a fault. -/
def DigitFault.message : DigitFault → String
  | .empty => "cannot parse integer from empty string"
  | .invalidDigit => "invalid digit found in string"
  | .tooLarge => "number too large to fit in target type"
  | .tooSmall => "number too small to fit in target type"

/-! ## Ranges -/

/-- The whole numbers from `least` to `greatest`. -/
structure Bounds where
  least : Int
  greatest : Int

namespace Bounds

/-- The numbers of `n` bits without a sign. -/
def word (n : Nat) : Bounds := ⟨0, (1 <<< n : Nat) - 1⟩

/-- The numbers of `n` bits with a sign. -/
def signed (n : Nat) : Bounds := ⟨-(1 <<< (n - 1) : Nat), (1 <<< (n - 1) : Nat) - 1⟩

/-- Whether a number lies in the range. -/
def contains (b : Bounds) (i : Int) : Bool := b.least ≤ i && i ≤ b.greatest

end Bounds

/-! ## Reading -/

/-- The value of a decimal digit. -/
def digitValue? (c : Char) : Option Nat :=
  if '0' ≤ c ∧ c ≤ '9' then some (c.toNat - 48) else none

/-- Digits after a sign, each moving the number away from zero. -/
def readDigits (b : Bounds) (negative : Bool) (acc : Int) : List Char → Except DigitFault Int
  | [] => .ok acc
  | c :: rest =>
    match digitValue? c with
    | none => .error .invalidDigit
    | some d =>
      let next := if negative then acc * 10 - d else acc * 10 + d
      if b.greatest < next then .error .tooLarge
      else if next < b.least then .error .tooSmall
      else readDigits b negative next rest

/-- A number with an optional sign. -/
def readInteger (b : Bounds) : List Char → Except DigitFault Int
  | [] => .error .empty
  | '+' :: rest => if rest.isEmpty then .error .invalidDigit else readDigits b false 0 rest
  | '-' :: rest =>
    if rest.isEmpty ∨ 0 ≤ b.least then .error .invalidDigit else readDigits b true 0 rest
  | cs => readDigits b false 0 cs

/-! ## What a read number is -/

/-- A range that holds zero holds every number read into it. -/
theorem contains_of_readDigits (b : Bounds) (negative : Bool) (acc i : Int) (cs : List Char)
    (start : b.contains acc = true) (h : readDigits b negative acc cs = .ok i) :
    b.contains i = true := by
  induction cs generalizing acc with
  | nil =>
    simp only [readDigits, Except.ok.injEq] at h
    exact h ▸ start
  | cons c rest ih =>
    simp only [readDigits] at h
    split at h
    · cases h
    · rename_i d _
      generalize (if negative = true then acc * 10 - (d : Int) else acc * 10 + d) = next at h
      split at h
      · cases h
      · split at h
        · cases h
        · refine ih next ?_ h
          simp only [Bounds.contains, Bool.and_eq_true, decide_eq_true_eq]
          omega

end KeyedLocks.Text
