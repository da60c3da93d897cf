/-
Hosts of 128 bits.

Such a host is written in brackets as eight pieces of four hexadecimal digits at most,
with colons between them. A row of zero pieces can be left out, once, where two colons
meet, and the last two pieces can be four decimal bytes instead. It is always written
in one way: in lower case, without leading zeros, and with the longest row of zeros
left out.
-/
import KeyedLocks.Text.Cut
import KeyedLocks.Text.Hex

set_option autoImplicit false

namespace KeyedLocks.Address.Ipv6

open KeyedLocks.Text

/-! ## Reading -/

/-- A piece: one to four hexadecimal digits. -/
def readPiece (cs : List Char) : Option Nat :=
  if cs.isEmpty || 4 < cs.length then none else readBase 16 cs

/-- A byte in decimal without leading zeros. -/
def readByte : List Char → Option Nat
  | [] => none
  | '0' :: _ :: _ => none
  | cs => (readBase 10 cs).filter fun n => n < 256

/-- Four bytes as the two pieces that they fill. -/
def readDotted (cs : List Char) : Option (List Nat) :=
  match (cutAt (· == '.') cs).mapM readByte with
  | some [a, b, c, d] => some [256 * a + b, 256 * c + d]
  | _ => none

/-- The last part of a host. -/
def readLast (cs : List Char) : Option (List Nat) :=
  match readPiece cs with
  | some piece => some [piece]
  | none => readDotted cs

/-- Pieces with colons between them, the last of which is read by `last`. -/
def readParts (last : List Char → Option (List Nat)) : List (List Char) → Option (List Nat)
  | [] => some []
  | [part] => last part
  | part :: next :: more => do
    return (← readPiece part) :: (← readParts last (next :: more))

/-- One side of a host: no pieces at all, or pieces with colons between them. -/
def readSide (last : List Char → Option (List Nat)) (cs : List Char) : Option (List Nat) :=
  if cs.isEmpty then some [] else readParts last (cutAt (· == ':') cs)

/-- The two sides of the first place where two colons meet. -/
def splitGap : List Char → List Char × Option (List Char)
  | [] => ([], none)
  | ':' :: ':' :: rest => ([], some rest)
  | c :: rest => (c :: (splitGap rest).1, (splitGap rest).2)

/-- The eight pieces of a host without its brackets. A gap stands for one piece at
least. -/
def read? (cs : List Char) : Option (List Nat) :=
  match splitGap cs with
  | (all, none) => (readSide readLast all).filter fun pieces => pieces.length == 8
  | (left, some right) => do
    let before ← readSide (fun part => (readPiece part).map fun piece => [piece]) left
    let after ← readSide readLast right
    -- Two colons stand for one piece at least, so eight pieces leave no room for them.
    if before.length + after.length < 8 then
      some (before ++ List.replicate (8 - before.length - after.length) 0 ++ after)
    else none

/-! ## Writing -/

/-- How many zeros some pieces start with. -/
def zeros (pieces : List Nat) : Nat := (pieces.takeWhile (· == 0)).length

/-- The longest row of zeros from a position on, as its start and its length. Of two rows
of one length the first counts. -/
def longestRow (start : Nat) : List Nat → Nat × Nat
  | [] => (start, 0)
  | piece :: rest =>
    let here := zeros (piece :: rest)
    let later := longestRow (start + 1) rest
    -- Of two rows of one length the one in front is kept.
    if later.2 ≤ here then (start, here) else later

/-- Pieces in writing. -/
def piecesText (pieces : List Nat) : List Char := joinWith ':' (pieces.map hexDigits)

/-- A host in writing, without its brackets. A single zero is not left out. -/
def text (pieces : List Nat) : List Char :=
  let (start, length) := longestRow 0 pieces
  if length < 2 then piecesText pieces
  else piecesText (pieces.take start) ++ ':' :: ':' :: piecesText (pieces.drop (start + length))

/-! ## What is read -/

/-- **A host that is read has eight pieces.** -/
theorem length_of_read? {cs : List Char} {pieces : List Nat} (h : read? cs = some pieces) :
    pieces.length = 8 := by
  simp only [read?] at h
  split at h
  · simp only [Option.filter_eq_some_iff, beq_iff_eq] at h
    exact h.2
  · simp only [Option.bind_eq_bind, Option.bind_eq_some_iff] at h
    obtain ⟨before, _, after, _, rest⟩ := h
    split at rest
    · next few =>
      simp only [Option.some.injEq] at rest
      subst rest
      simp only [List.length_append, List.length_replicate]
      omega
    · cases rest

/-- A row of zeros that is found is one. -/
theorem zeros_le_length (pieces : List Nat) : zeros pieces ≤ pieces.length :=
  (List.takeWhile_sublist _).length_le

end KeyedLocks.Address.Ipv6
