/-
Domain names in ASCII.

A name is a row of labels with dots between them. It may be given in any characters
and in any case; its form in ASCII is what names are compared by and what is sent.
Characters that only look like a dot are one by the time the name is cut.
-/
import KeyedLocks.Domain.Direction
import KeyedLocks.Domain.Label

set_option autoImplicit false

namespace KeyedLocks.Domain

open KeyedLocks.Text

/-- The labels of a name, if all of them are labels. -/
def labels? (cs : List Char) : Option (List Label) := do
  let replaced ← replaceAll cs
  (cutAt (· == '.') (canonical replaced)).mapM Label.of?

/-- A name in ASCII. Every label has to be well formed, and together they have to run in
directions that fit. -/
def toAscii? (cs : List Char) : Option (List Char) := do
  let labels ← labels? cs
  if labels.all Label.isWellFormed && directionsFit (labels.map Label.text) then
    some (joinWith '.' (labels.map Label.ascii))
  else none

/-- **What a name is turned into has well-formed labels.** -/
theorem exists_labels_of_toAscii? {cs name : List Char} (h : toAscii? cs = some name) :
    ∃ labels, labels? cs = some labels ∧ (∀ l ∈ labels, l.isWellFormed = true)
      ∧ name = joinWith '.' (labels.map Label.ascii) := by
  simp only [toAscii?, Option.bind_eq_bind, Option.bind_eq_some_iff] at h
  obtain ⟨labels, read, rest⟩ := h
  split at rest
  · next fits =>
    simp only [Bool.and_eq_true, List.all_eq_true] at fits
    exact ⟨labels, read, fits.1, (Option.some.inj rest).symm⟩
  · cases rest

end KeyedLocks.Domain
