/-
Tables over code points.

What a standard says about characters it says as a table. A table is kept as a
text, one word an entry, with code points in hexadecimal, and is read when it is
first needed. `0-1F 7F AD` is a class of characters: two single ones and a range.
`41-5A>61 100/12E>101 A8>20+308` says what characters turn into: `41` to `5A` turn
into `61` and the ones after it, every second one from `100` to `12E` turns into
its neighbour, and `A8` turns into two characters.
-/
import KeyedLocks.Text.Cut
import KeyedLocks.Text.Hex

set_option autoImplicit false

namespace KeyedLocks.Text

/-! ## Classes -/

/-- Ascending, disjoint ranges of code points. -/
abbrev CodeRanges : Type := List (Nat × Nat)

namespace CodeRanges

/-- A code point is in a class when one of the ranges holds it. The ranges ascend,
so the search ends at the first range that starts beyond it. -/
def holds (n : Nat) : CodeRanges → Bool
  | [] => false
  | (first, last) :: rest => first ≤ n && (n ≤ last || holds n rest)

/-- A range as it is written: its two ends, or one code point alone. -/
def readRange (word : List Char) : Option (Nat × Nat) :=
  match cutAt (· == '-') word with
  | [only] => (readBase 16 only).map fun n => (n, n)
  | [first, last] => do return (← readBase 16 first, ← readBase 16 last)
  | _ => none

/-- The class that a text describes. -/
def ofText (s : String) : CodeRanges := (words s.toList).filterMap readRange

/-- **What is in a class lies in one of its ranges.** -/
theorem exists_of_holds {n : Nat} {ranges : CodeRanges} (h : holds n ranges = true) :
    ∃ r ∈ ranges, r.1 ≤ n ∧ n ≤ r.2 := by
  induction ranges with
  | nil => simp [holds] at h
  | cons r rest ih =>
    obtain ⟨first, last⟩ := r
    simp only [holds, Bool.and_eq_true, Bool.or_eq_true, decide_eq_true_eq] at h
    rcases h with ⟨low, high | later⟩
    · exact ⟨(first, last), by simp, low, high⟩
    · obtain ⟨r, mem, bounds⟩ := ih later
      exact ⟨r, by simp [mem], bounds⟩

end CodeRanges

/-! ## Images -/

/-- What some characters turn into: those from `first` to `last` in steps, and the
image of the first one. The images of the others lie as far behind it as they
themselves lie behind the first. -/
structure Image where
  first : Nat
  last : Nat
  step : Nat
  image : List Nat

/-- What a code point turns into, if an entry is about it. -/
def Image.of? (m : Image) (n : Nat) : Option (List Nat) :=
  if m.first ≤ n && n ≤ m.last && (n - m.first) % m.step == 0 then
    some (m.image.map fun i => i + (n - m.first))
  else none

/-- What characters turn into. -/
abbrev CodeImages : Type := List Image

namespace CodeImages

/-- What a code point turns into, if it turns into anything. -/
def find? (n : Nat) (t : CodeImages) : Option (List Nat) := t.findSome? fun m => m.of? n

/-- The characters of an entry as they are written: ends, and the step between two of
them. -/
def readRun (word : List Char) : Option (Nat × Nat × Nat) :=
  match cutAt (· == '/') word with
  | [first, last] => do return (← readBase 16 first, ← readBase 16 last, 2)
  | _ => (CodeRanges.readRange word).map fun (first, last) => (first, last, 1)

/-- An entry as it is written. -/
def readImage (word : List Char) : Option Image :=
  match cutAt (· == '>') word with
  | [run, image] => do
    let (first, last, step) ← readRun run
    let image ← (cutAt (· == '+') image).mapM (readBase 16)
    return ⟨first, last, step, image⟩
  | _ => none

/-- The images that a text describes. -/
def ofText (s : String) : CodeImages := (words s.toList).filterMap readImage

@[simp] theorem find?_nil (n : Nat) : find? n [] = none := rfl

/-- The first entry that is about a code point decides. -/
theorem find?_cons (n : Nat) (m : Image) (t : CodeImages) :
    find? n (m :: t) = match m.of? n with
      | some image => some image
      | none => find? n t := by
  cases h : m.of? n <;> simp [find?, h]

end CodeImages

end KeyedLocks.Text
