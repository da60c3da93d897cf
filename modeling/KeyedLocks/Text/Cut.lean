/-
Texts cut into pieces.

A host is cut at its dots, a path at its slashes, and a table at its blanks. A cut
takes the separators away and keeps everything else, empty pieces included, so a
text with `n` separators has `n + 1` pieces.
-/
set_option autoImplicit false

namespace KeyedLocks.Text

/-! ## Cutting -/

/-- Puts a character in front of the first piece. -/
def prepend {α : Type} (a : α) : List (List α) → List (List α)
  | [] => [[a]]
  | piece :: more => (a :: piece) :: more

/-- A text cut at its separators. -/
def cutAt {α : Type} (separates : α → Bool) (as : List α) : List (List α) :=
  as.foldr (fun a pieces => if separates a then [] :: pieces else prepend a pieces) [[]]

/-- The pieces of a text between blanks and line breaks, without empty ones. -/
def words (cs : List Char) : List (List Char) :=
  (cutAt (fun c => c == ' ' || c == '\n') cs).filter fun w => !w.isEmpty

/-- Pieces in a row, with a separator between two of them. -/
def joinWith {α : Type} (separator : α) : List (List α) → List α
  | [] => []
  | [piece] => piece
  | piece :: next :: more => piece ++ separator :: joinWith separator (next :: more)

/-! ## What a cut gives -/

@[simp] theorem cutAt_nil {α : Type} (separates : α → Bool) : cutAt separates [] = [[]] := rfl

theorem cutAt_cons {α : Type} (separates : α → Bool) (a : α) (as : List α) :
    cutAt separates (a :: as)
      = if separates a then [] :: cutAt separates as else prepend a (cutAt separates as) := rfl

/-- A cut leaves at least one piece. -/
theorem cutAt_ne_nil {α : Type} (separates : α → Bool) (as : List α) :
    cutAt separates as ≠ [] := by
  cases as with
  | nil => simp
  | cons a as =>
    rw [cutAt_cons]
    split
    · simp
    · cases cutAt separates as <;> simp [prepend]

/-- **A cut takes away the separators and nothing else.** -/
theorem flatten_cutAt {α : Type} (separates : α → Bool) (as : List α) :
    (cutAt separates as).flatten = as.filter fun a => !separates a := by
  induction as with
  | nil => rfl
  | cons a as ih =>
    rw [cutAt_cons]
    cases h : separates a with
    | true => simpa [h] using ih
    | false =>
      cases e : cutAt separates as with
      | nil => exact absurd e (cutAt_ne_nil separates as)
      | cons piece more =>
        rw [e] at ih
        simpa [h, prepend] using ih

/-- **Pieces that are put back give the text they were cut from,** if it has only one
kind of separator. -/
theorem joinWith_cutAt {α : Type} [DecidableEq α] (separator : α) (as : List α) :
    joinWith separator (cutAt (· == separator) as) = as := by
  induction as with
  | nil => rfl
  | cons a as ih =>
    rw [cutAt_cons]
    cases e : cutAt (· == separator) as with
    | nil => exact absurd e (cutAt_ne_nil _ as)
    | cons piece more =>
      rw [e] at ih
      by_cases h : a = separator
      · simp [h, joinWith, ih]
      · cases more with
        | nil => simpa [h, prepend, joinWith] using ih
        | cons next more => simpa [h, prepend, joinWith] using ih

end KeyedLocks.Text
