/-
The canonical form of a text.

Two texts can differ in their characters and still be the same text: a letter with a
mark may be one character or two, and two marks may stand in either order. The
canonical form settles both. Every character is taken apart, marks are put in the
order of their classes, and what can be put together again is.
-/
import KeyedLocks.Text.CombiningClass
import KeyedLocks.Text.Composite

set_option autoImplicit false

namespace KeyedLocks.Text

namespace Canonical

/-! ## Apart -/

/-- What a character stands for in full. -/
def apart (c : Char) : List Char :=
  if c.toNat < 0xC0 then [c] else (decompose 4 c.toNat).map Char.ofNat

/-! ## In order -/

/-- Puts a character in front of a text whose marks are in order, behind the marks of
lower classes. A character of class zero stays in front. -/
def place (c : Char) : List Char → List Char
  | [] => [c]
  | d :: rest =>
    if 0 < combiningClass d ∧ combiningClass d < combiningClass c then d :: place c rest
    else c :: d :: rest

/-- A text with the marks behind each character in the order of their classes. Marks of
one class keep their order. -/
def inOrder (cs : List Char) : List Char := cs.foldr place []

/-! ## Together -/

/-- The composite of two characters. What is put behind a character comes from the marks
or from beyond them. -/
def together? (a b : Char) : Option Char :=
  if b.toNat < 0x300 then none else (compositeOf? a.toNat b.toNat).map Char.ofNat

/-- The first character takes up as many of the marks behind it as it can. Marks that
it has passed by wait in `passed`, the last one first. A mark of the class of the one
in front of it, or of a lower one, is out of reach, and so is a character of class
zero unless it comes directly behind. -/
def takeUp (first : Char) (passed : List Char) : List Char → List Char
  | [] => first :: passed.reverse
  | c :: rest =>
    let reachable :=
      match passed with
      | [] => true
      | d :: _ => combiningClass d < combiningClass c
    match if reachable then together? first c else none with
    | some composite => takeUp composite passed rest
    | none =>
      if combiningClass c = 0 then first :: passed.reverse ++ takeUp c [] rest
      else takeUp first (c :: passed) rest

/-- A text in order with everything put together. Marks that stand behind no character
stay as they are. -/
def together : List Char → List Char
  | [] => []
  | c :: rest => if combiningClass c = 0 then takeUp c [] rest else c :: together rest

end Canonical

/-- The canonical form of a text. -/
def canonical (cs : List Char) : List Char :=
  Canonical.together (Canonical.inOrder (cs.flatMap Canonical.apart))

/-- Whether a text is in its canonical form. -/
def isCanonical (cs : List Char) : Bool := canonical cs == cs

/-! ## What ordering leaves alone -/

namespace Canonical

/-- Placing a character only moves it. -/
theorem perm_place (c : Char) (cs : List Char) : (place c cs).Perm (c :: cs) := by
  induction cs with
  | nil => exact List.Perm.refl _
  | cons d rest ih =>
    simp only [place]
    split
    · exact (ih.cons d).trans (List.Perm.swap c d rest)
    · exact List.Perm.refl _

/-- **Ordering adds nothing and takes nothing away.** -/
theorem perm_inOrder (cs : List Char) : (inOrder cs).Perm cs := by
  induction cs with
  | nil => exact List.Perm.refl _
  | cons c rest ih => exact (perm_place c (inOrder rest)).trans (ih.cons c)

/-- A character of class zero is not moved. -/
theorem place_of_class_zero {c : Char} (h : combiningClass c = 0) (cs : List Char) :
    place c cs = c :: cs := by
  cases cs with
  | nil => rfl
  | cons d rest => simp [place, h]

end Canonical

@[simp] theorem canonical_nil : canonical [] = [] := rfl

end KeyedLocks.Text
