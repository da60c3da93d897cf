/-
Bytes read as UTF-8.

A message body arrives as bytes, and a body need not be text. `pieces` cuts the
bytes into characters and stray pieces, where a stray piece is as long as it can
be while it still is the beginning of some character. Two readings are built on
it: `text?` takes the bytes only if they are text from end to end, and `lossy` puts
the replacement character in the place of every stray piece.
-/
set_option autoImplicit false

namespace KeyedLocks.Text

/-! ## One character -/

/-- What the first byte of a character of several bytes says: its own bits, how
many bytes follow, and the range of the byte after it. That range is what keeps
out overlong forms, surrogates and code points beyond the last. -/
structure Lead where
  bits : Nat
  following : Nat
  low : UInt8
  high : UInt8

/-- The first bytes of characters of two, three and four bytes. -/
def Lead.of? (b : UInt8) : Option Lead :=
  if 0xC2 ≤ b && b ≤ 0xDF then some ⟨b.toNat - 0xC0, 1, 0x80, 0xBF⟩
  -- What would fit fewer bytes is kept out by the range of the second one.
  else if b = 0xE0 then some ⟨0, 2, 0xA0, 0xBF⟩
  -- So are the code points that stand for no character.
  else if b = 0xED then some ⟨0xD, 2, 0x80, 0x9F⟩
  else if 0xE1 ≤ b && b ≤ 0xEF then some ⟨b.toNat - 0xE0, 2, 0x80, 0xBF⟩
  else if b = 0xF0 then some ⟨0, 3, 0x90, 0xBF⟩
  else if 0xF1 ≤ b && b ≤ 0xF3 then some ⟨b.toNat - 0xF0, 3, 0x80, 0xBF⟩
  else if b = 0xF4 then some ⟨4, 3, 0x80, 0x8F⟩
  else none

/-- The bytes that follow a first byte, as many as it asks for: the code point if
all are there, and what is left of the bytes. -/
def takeFollowing : Nat → UInt8 → UInt8 → Nat → List UInt8 → Option Char × List UInt8
  | 0, _, _, acc, rest => (some (Char.ofNat acc), rest)
  | _ + 1, _, _, _, [] => (none, [])
  | n + 1, low, high, acc, b :: rest =>
    if low ≤ b && b ≤ high then takeFollowing n 0x80 0xBF (acc * 64 + (b.toNat - 0x80)) rest
    else (none, b :: rest)

theorem length_takeFollowing_le (n : Nat) (low high : UInt8) (acc : Nat) (bs : List UInt8) :
    (takeFollowing n low high acc bs).2.length ≤ bs.length := by
  induction n generalizing low high acc bs with
  | zero => simp [takeFollowing]
  | succ n ih =>
    cases bs with
    | nil => simp [takeFollowing]
    | cons b rest =>
      simp only [takeFollowing]
      split
      · exact Nat.le_trans (ih ..) (by simp)
      · simp

/-- The first character or stray piece of some bytes, and what is left. -/
def firstPiece (b : UInt8) (rest : List UInt8) : Option Char × List UInt8 :=
  if b < 0x80 then (some (Char.ofNat b.toNat), rest)
  else
    match Lead.of? b with
    | none => (none, rest)
    | some lead => takeFollowing lead.following lead.low lead.high lead.bits rest

theorem length_firstPiece_le (b : UInt8) (rest : List UInt8) :
    (firstPiece b rest).2.length ≤ rest.length := by
  simp only [firstPiece]
  split
  · simp
  · split
    · simp
    · exact length_takeFollowing_le ..

/-! ## All of them -/

/-- The bytes cut into characters and stray pieces. -/
def pieces : List UInt8 → List (Option Char)
  | [] => []
  | b :: rest => (firstPiece b rest).1 :: pieces (firstPiece b rest).2
termination_by bs => bs.length
decreasing_by exact Nat.lt_succ_of_le (length_firstPiece_le b rest)

/-- The text of some bytes, if there is no stray piece in them. -/
def text? (bs : List UInt8) : Option (List Char) := (pieces bs).mapM id

/-- The text of some bytes, with the replacement character for each stray piece. -/
def lossy (bs : List UInt8) : List Char :=
  (pieces bs).map fun p => p.getD '\ufffd'

/-! ## Writing -/

/-- The bytes of a text. -/
def encode (cs : List Char) : List UInt8 := cs.flatMap String.utf8EncodeChar

@[simp] theorem encode_nil : encode [] = [] := rfl

@[simp] theorem encode_cons (c : Char) (cs : List Char) :
    encode (c :: cs) = String.utf8EncodeChar c ++ encode cs := rfl

@[simp] theorem pieces_nil : pieces [] = [] := by simp [pieces]

end KeyedLocks.Text
