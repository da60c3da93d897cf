/-
Percent escapes.

A part of an address is written in the visible characters of ASCII, less those that
part it from its neighbours. Any other character is written byte by byte, each byte
as a percent sign and two hexadecimal digits. Which characters are reserved differs
from part to part; controls and what is beyond ASCII are escaped everywhere.

Main statement: where the percent sign itself is reserved, undoing the escapes gives
back the bytes of the text.
-/
import KeyedLocks.Text.Hex
import KeyedLocks.Text.Utf8

set_option autoImplicit false

namespace KeyedLocks.Text

/-! ## Escaping -/

/-- A hexadecimal digit in upper case. -/
def upperHexDigit (n : Nat) : Char :=
  if n < 10 then Char.ofNat (48 + n) else Char.ofNat (55 + n)

/-- An escaped byte. -/
def escapeByte (b : UInt8) : List Char :=
  ['%', upperHexDigit (b.toNat / 16), upperHexDigit (b.toNat % 16)]

/-- Whether a character has to be escaped, where some are reserved. -/
def mustEscape (reserved : List Char) (c : Char) : Bool :=
  c.toNat < 0x20 || 0x7F ≤ c.toNat || reserved.contains c

/-- One character of a part. -/
def escapeChar (reserved : List Char) (c : Char) : List Char :=
  if mustEscape reserved c then (encode [c]).flatMap escapeByte else [c]

/-- A part of an address in writing. -/
def escape (reserved : List Char) (cs : List Char) : List Char := cs.flatMap (escapeChar reserved)

/-! ## Undoing it -/

/-- The byte that two digits behind a percent sign stand for. -/
def escapedByte? (a b : Char) : Option UInt8 :=
  match hexValue? a, hexValue? b with
  | some x, some y => some (UInt8.ofNat (16 * x + y))
  | _, _ => none

/-- The bytes of a part, with its escapes undone. A percent sign without two digits
stands for itself. -/
def unescape : List Char → List UInt8
  | '%' :: a :: b :: rest =>
    match escapedByte? a b with
    | some byte => byte :: unescape rest
    | none => 0x25 :: unescape (a :: b :: rest)
  | c :: rest => String.utf8EncodeChar c ++ unescape rest
  | [] => []

/-! ## What is escaped comes back -/

@[simp] theorem unescape_nil : unescape [] = [] := rfl

theorem unescape_cons_of_ne {c : Char} (h : c ≠ '%') (rest : List Char) :
    unescape (c :: rest) = String.utf8EncodeChar c ++ unescape rest := by
  rw [unescape]
  rintro a b rest rfl
  exact absurd rfl h

theorem hexValue?_upperHexDigit : ∀ n < 16, hexValue? (upperHexDigit n) = some n := by decide

/-- An escaped byte comes back. -/
theorem unescape_escapeByte (b : UInt8) (rest : List Char) :
    unescape (escapeByte b ++ rest) = b :: unescape rest := by
  have bound : b.toNat < 256 := b.toNat_lt
  have high := hexValue?_upperHexDigit (b.toNat / 16) (by omega)
  have low := hexValue?_upperHexDigit (b.toNat % 16) (by omega)
  simp only [escapeByte, List.cons_append, List.nil_append, unescape, escapedByte?, high, low]
  rw [Nat.div_add_mod, UInt8.ofNat_toNat]

theorem unescape_escapeBytes (bs : List UInt8) (rest : List Char) :
    unescape (bs.flatMap escapeByte ++ rest) = bs ++ unescape rest := by
  induction bs with
  | nil => rfl
  | cons b bs ih =>
    rw [List.flatMap_cons, List.append_assoc, unescape_escapeByte, ih, List.cons_append]

/-- **What is escaped comes back,** if the percent sign is reserved. -/
theorem unescape_escape {reserved : List Char} (h : '%' ∈ reserved) (cs : List Char) :
    unescape (escape reserved cs) = encode cs := by
  induction cs with
  | nil => rfl
  | cons c cs ih =>
    have step : unescape (escape reserved (c :: cs))
        = String.utf8EncodeChar c ++ unescape (escape reserved cs) := by
      simp only [escape, List.flatMap_cons, escapeChar]
      split
      · rw [unescape_escapeBytes, encode_cons, encode_nil, List.append_nil]
      · next plain =>
        have ne : c ≠ '%' := by
          rintro rfl
          simp [mustEscape, h] at plain
        exact unescape_cons_of_ne ne _
    rw [step, ih, encode_cons]

end KeyedLocks.Text
