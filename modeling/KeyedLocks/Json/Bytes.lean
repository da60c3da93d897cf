/-
JSON that arrives as bytes.

The bytes of a body need not be text. Outside a string a byte that belongs to no
character is malformed like any character that has no place there, but inside a
string it only matters to someone who reads the string: a string that is passed
over may hold any bytes. So each stray piece is read as a spare character, one that
occurs nowhere else in the body, and the literals that hold it are marked as faulty
to read afterwards.
-/
import KeyedLocks.Text.Utf8
import KeyedLocks.Json.Decode

set_option autoImplicit false

namespace KeyedLocks.Json

/-! ## A spare character -/

/-- The first of the code points from `n` on, at most `tries` of them, that is not
among some characters. -/
def firstUnused (cs : List Char) : Nat → Nat → Char
  | 0, n => Char.ofNat n
  | tries + 1, n =>
    if cs.contains (Char.ofNat n) then firstUnused cs tries (n + 1) else Char.ofNat n

/-- A character for private use that is not among some characters. Of so many
candidates that there is one more than there are characters, one is left over. -/
def spareChar (cs : List Char) : Char := firstUnused cs cs.length 0xE000

/-! ## Marking literals -/

/-- A literal that holds a stray piece cannot be read, but it can be passed over. -/
def Literal.mark (stray : Char) : Literal → Literal
  | .whole s => if s.toList.contains stray then .faulty .malformed none else .whole s
  | .faulty read skip => .faulty read skip

mutual

/-- A value with the literals marked that hold a stray piece. -/
def Reading.mark (stray : Char) : Reading → Reading
  | .null => .null
  | .bool b => .bool b
  | .number n => .number n
  | .cutNumber => .cutNumber
  | .cutWord => .cutWord
  | .string s => .string (s.mark stray)
  | .array items => .array (items.mark stray)
  | .object members => .object (members.mark stray)
  | .broken f => .broken f

/-- The items of an array, marked. -/
def Items.mark (stray : Char) : Items → Items
  | .closed => .closed
  | .stop f => .stop f
  | .item v rest => .item (v.mark stray) (rest.mark stray)

/-- The members of an object, marked. -/
def Members.mark (stray : Char) : Members → Members
  | .closed => .closed
  | .stop f => .stop f
  | .member key v rest => .member (key.mark stray) (v.mark stray) (rest.mark stray)

end

/-! ## Bytes as a text -/

/-- Bytes that are one value. -/
def decodeBytes {α : Type} (f : Reading → Decoded α) (bs : List UInt8) : Decoded α :=
  let pieces := Text.pieces bs
  let stray := spareChar (pieces.filterMap id)
  decodeText (fun r => f (r.mark stray)) (pieces.map fun p => p.getD stray)

/-! ## What marking leaves alone -/

/-- A literal without stray pieces is read as it is. -/
theorem Literal.mark_whole {stray : Char} {s : String} (h : stray ∉ s.toList) :
    (Literal.whole s).mark stray = .whole s := by
  simp [Literal.mark, h]

/-- **Passing over a literal asks nothing of its bytes.** -/
@[simp] theorem Literal.skip_mark (stray : Char) (s : Literal) : (s.mark stray).skip = s.skip := by
  cases s with
  | whole s =>
    simp only [Literal.mark]
    split <;> rfl
  | faulty read skip => rfl

end KeyedLocks.Json
