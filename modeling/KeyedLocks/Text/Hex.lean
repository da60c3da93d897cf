/-
Hexadecimal digits.

Escapes are written with them and read from them, tables of characters are written
in them, and a numeric host may be. Writing uses lower case; reading takes both.
-/
set_option autoImplicit false

namespace KeyedLocks.Text

/-! ## Writing -/

/-- The hexadecimal digit of a value below sixteen, in lower case. -/
def hexDigit (n : Nat) : Char :=
  if n < 10 then Char.ofNat (48 + n) else Char.ofNat (87 + n)

/-- The hexadecimal digits of a number, without leading zeros. -/
def hexDigits (n : Nat) : List Char :=
  if n < 16 then [hexDigit n] else hexDigits (n / 16) ++ [hexDigit (n % 16)]
termination_by n

/-! ## Reading -/

/-- The value of a hexadecimal digit, in either case. -/
def hexValue? (c : Char) : Option Nat :=
  if '0' ≤ c ∧ c ≤ '9' then some (c.toNat - 48)
  else if 'a' ≤ c ∧ c ≤ 'f' then some (c.toNat - 87)
  else if 'A' ≤ c ∧ c ≤ 'F' then some (c.toNat - 55)
  else none

/-- The number that digits of a base up to sixteen write, if they are digits of that
base. No digits write zero. -/
def readBase (base : Nat) (cs : List Char) : Option Nat :=
  cs.foldlM (fun n c => (hexValue? c).bind fun d =>
    if d < base then some (base * n + d) else none) 0

/-! ## What is written reads back -/

/-- **A hexadecimal digit reads back.** -/
theorem hexValue?_hexDigit : ∀ n < 16, hexValue? (hexDigit n) = some n := by decide

@[simp] theorem readBase_nil (base : Nat) : readBase base [] = some 0 := rfl

theorem readBase_append (base : Nat) (a b : List Char) :
    readBase base (a ++ b) = (readBase base a).bind fun n =>
      b.foldlM (fun n c => (hexValue? c).bind fun d =>
        if d < base then some (base * n + d) else none) n := by
  simp [readBase, List.foldlM_append, Option.bind_eq_bind]

/-- **A number in hexadecimal reads back.** The induction follows the digits from the
last to the first, as they are written. -/
theorem readBase_hexDigits (n : Nat) : readBase 16 (hexDigits n) = some n := by
  induction n using Nat.strongRecOn with
  | _ n ih =>
    rw [hexDigits]
    split
    · next small => simp [readBase, hexValue?_hexDigit n small, small]
    · next large =>
      have low : n % 16 < 16 := Nat.mod_lt _ (by omega)
      rw [readBase_append, ih (n / 16) (by omega)]
      simp [hexValue?_hexDigit _ low, low]
      omega

end KeyedLocks.Text
