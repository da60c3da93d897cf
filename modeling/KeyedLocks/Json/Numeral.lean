/-
JSON numbers as they are written.

A numeral is kept as its digits, because what it means depends on who reads it.
A whole number without a point and an exponent, inside the range of 64-bit words
with or without a sign, is an integer; every other numeral is a floating point
number, also `-0` and `1.0`.
-/
set_option autoImplicit false

namespace KeyedLocks.Json

/-- A number as written: sign, digits before the point, digits after it, and the
exponent with its sign. An empty fraction means that there is no point. -/
structure Numeral where
  negative : Bool
  whole : List Char
  fraction : List Char
  exponent : Option (Bool × List Char)
  deriving DecidableEq, Repr

namespace Numeral

/-! ## Writing -/

/-- A natural number in decimal. -/
def ofNat (n : Nat) : Numeral := ⟨false, Nat.toDigits 10 n, [], none⟩

/-- An integer in decimal. -/
def ofInt (i : Int) : Numeral := ⟨i < 0, Nat.toDigits 10 i.natAbs, [], none⟩

/-- The characters of a numeral. An exponent has its sign. -/
def chars (n : Numeral) : List Char :=
  (if n.negative then ['-'] else []) ++ n.whole
    ++ (if n.fraction.isEmpty then [] else '.' :: n.fraction)
    ++ (match n.exponent with
        | none => []
        | some (negative, digits) => 'e' :: (if negative then '-' else '+') :: digits)

/-- The text of a numeral. -/
def text (n : Numeral) : String := String.ofList n.chars

/-! ## The integer it denotes -/

/-- The value of a run of decimal digits. -/
def digitsValue (ds : List Char) : Nat := Nat.ofDigitChars 10 ds 0

/-- The integer that a numeral denotes, if it denotes one. -/
def integer? (n : Numeral) : Option Int :=
  if n.fraction = [] ∧ n.exponent = none then
    let v := digitsValue n.whole
    if n.negative then
      if 0 < v ∧ v ≤ UInt64.size / 2 then some (-(v : Int)) else none
    else if v < UInt64.size then some (v : Int) else none
  else none

theorem digitsValue_toDigits (n : Nat) : digitsValue (Nat.toDigits 10 n) = n :=
  Nat.ofDigitChars_ten_toDigits

/-- **A written word reads back.** -/
theorem integer?_ofNat (n : Nat) (h : n < UInt64.size) : (ofNat n).integer? = some (n : Int) := by
  simp only [integer?, ofNat, digitsValue_toDigits, and_self, if_true, if_pos h,
    Bool.false_eq_true, if_false]

/-- **A written integer reads back,** from the least signed to the greatest
unsigned word. -/
theorem integer?_ofInt (i : Int) (low : Int64.minValue.toInt ≤ i) (high : i < UInt64.size) :
    (ofInt i).integer? = some i := by
  have least : Int64.minValue.toInt = -9223372036854775808 := by decide
  have size : UInt64.size = 18446744073709551616 := rfl
  simp only [integer?, ofInt, digitsValue_toDigits, and_self, if_true, decide_eq_true_eq]
  split
  · rw [if_pos (by omega)]
    exact congrArg some (by omega)
  · rw [if_pos (by omega)]
    exact congrArg some (by omega)

end Numeral

end KeyedLocks.Json
