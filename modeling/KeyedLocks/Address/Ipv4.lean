/-
Numeric hosts of 32 bits.

A host whose last part is a number is a numeric one as a whole. Its parts are decimal,
octal behind a zero, or hexadecimal behind `0x`. Each part but the last is one byte,
and the last one fills what is left, so that there may be fewer than four. Such a host
is written with four decimal bytes.
-/
import KeyedLocks.Text.Cut
import KeyedLocks.Text.Hex

set_option autoImplicit false

namespace KeyedLocks.Address.Ipv4

open KeyedLocks.Text

/-! ## Parts -/

/-- A part as a number. -/
def readPart : List Char → Option Nat
  | [] => none
  | '0' :: 'x' :: ds => readBase 16 ds
  | '0' :: d :: ds => readBase 8 (d :: ds)
  | ds => readBase 10 ds

/-- The parts of a host. A dot at its end adds none. -/
def parts (cs : List Char) : List (List Char) :=
  let all := cutAt (· == '.') cs
  if all.getLast? = some [] then all.dropLast else all

/-- Whether a part makes a host a numeric one: it is a number, or looks like one. -/
def looksNumeric (part : List Char) : Bool :=
  !part.isEmpty && (part.all Char.isDigit || (readPart part).isSome)

/-- Whether a host is a numeric one. -/
def isNumeric (cs : List Char) : Bool := ((parts cs).getLast?.map looksNumeric).getD false

/-! ## The whole -/

/-- The number that parts make behind the first `n` bytes. -/
def join (n : Nat) : List Nat → Option Nat
  | [] => none
  | [last] => if last < 1 <<< (8 * (4 - n)) then some last else none
  | byte :: rest =>
    if byte < 256 then (join (n + 1) rest).map fun low => (byte <<< (8 * (3 - n))) + low
    else none

/-- A numeric host, if all of its parts are numbers and fit. -/
def read? (cs : List Char) : Option Nat :=
  let all := parts cs
  if 4 < all.length then none else (all.mapM readPart).bind (join 0)

/-- A byte in decimal. -/
def byteText (n : Nat) : List Char := Nat.toDigits 10 (n % 256)

/-- A numeric host in writing. -/
def text (n : Nat) : List Char :=
  joinWith '.' [byteText (n >>> 24), byteText (n >>> 16), byteText (n >>> 8), byteText n]

/-! ## What is read fits -/

private theorem shiftLeft_eq_mul (n shift : Nat) : n <<< shift = n * (1 <<< shift) := by
  simp [Nat.shiftLeft_eq]

private theorem one_shiftLeft_add_eight (shift : Nat) :
    1 <<< (shift + 8) = 256 * (1 <<< shift) := by
  rw [Nat.add_comm, Nat.shiftLeft_add, shiftLeft_eq_mul]
  rfl

/-- **Four parts fill 32 bits at most:** what parts make behind `n` bytes fits into the
bytes that are left. -/
theorem join_lt {n v : Nat} {all : List Nat} (few : n + all.length ≤ 4)
    (h : join n all = some v) : v < 1 <<< (8 * (4 - n)) := by
  induction all generalizing n v with
  | nil => simp [join] at h
  | cons byte rest ih =>
    cases rest with
    | nil =>
      simp only [join] at h
      split at h
      · next fits => exact Option.some.inj h ▸ fits
      · cases h
    | cons next more =>
      simp only [join] at h
      split at h
      · next fits =>
        simp only [Option.map_eq_some_iff] at h
        obtain ⟨low, read, rfl⟩ := h
        simp only [List.length_cons] at few
        have below := ih (by simp only [List.length_cons]; omega) read
        have next : 8 * (4 - n) = 8 * (3 - n) + 8 := by omega
        have same : 4 - (n + 1) = 3 - n := by omega
        rw [same] at below
        rw [next, shiftLeft_eq_mul byte, one_shiftLeft_add_eight]
        have := Nat.mul_le_mul_right (1 <<< (8 * (3 - n))) (Nat.le_of_lt_succ fits)
        omega
      · cases h

end KeyedLocks.Address.Ipv4
