/-
Blank characters, and texts with their blank ends cut off.

A lock key must not be empty once blanks are cut from both ends, and a number in
the environment may stand between blanks. Both rules use the Unicode property
`White_Space`, which is wider than the six ASCII blanks: a key of one ideographic
space is as empty as a key of one tab.
-/
set_option autoImplicit false

namespace KeyedLocks.Text

/-! ## The property -/

/-- The ranges of the property `White_Space`, each given by its first and last
code point. -/
def blankRanges : List (Nat × Nat) :=
  [(0x9, 0xD), (0x20, 0x20), (0x85, 0x85), (0xA0, 0xA0), (0x1680, 0x1680), (0x2000, 0x200A),
    (0x2028, 0x2029), (0x202F, 0x202F), (0x205F, 0x205F), (0x3000, 0x3000)]

/-- A character is blank when its code point lies in one of the ranges. -/
def isBlank (c : Char) : Bool :=
  blankRanges.any fun r => r.1 ≤ c.toNat && c.toNat ≤ r.2

/-- The blanks of ASCII are blank. -/
theorem isBlank_of_isWhitespace (c : Char) (h : c.isWhitespace = true) : isBlank c = true := by
  simp only [Char.isWhitespace, Bool.or_eq_true, decide_eq_true_eq] at h
  rcases h with ((rfl | rfl) | rfl) | rfl <;> decide

/-! ## Cutting the ends -/

/-- The characters between the first and the last one that is not blank. -/
def trimChars (cs : List Char) : List Char :=
  ((cs.dropWhile isBlank).reverse.dropWhile isBlank).reverse

/-- The text without the blanks at its two ends. -/
def trim (s : String) : String :=
  String.ofList (trimChars s.toList)

/-- A text is blank when nothing is left of it between its blank ends. -/
def isAllBlank (s : String) : Bool :=
  s.toList.all isBlank

@[simp] theorem trimChars_nil : trimChars [] = [] := rfl

private theorem dropWhile_isBlank_eq_nil (cs : List Char) :
    cs.dropWhile isBlank = [] ↔ ∀ c ∈ cs, isBlank c = true := by
  induction cs with
  | nil => simp
  | cons c r ih =>
    cases h : isBlank c <;> simp [h, ih]

/-- **What is cut is blank.** Nothing is left of a text exactly when every
character of it is blank. -/
theorem trimChars_eq_nil_iff (cs : List Char) :
    trimChars cs = [] ↔ ∀ c ∈ cs, isBlank c = true := by
  simp only [trimChars, List.reverse_eq_nil_iff, dropWhile_isBlank_eq_nil, List.mem_reverse]
  constructor
  · intro h c hc
    cases e : isBlank c with
    | true => rfl
    | false =>
      have split : cs.takeWhile isBlank ++ cs.dropWhile isBlank = cs :=
        List.takeWhile_append_dropWhile
      rw [← split, List.mem_append] at hc
      rcases hc with hc | hc
      · have := List.all_takeWhile (p := isBlank) (l := cs)
        rw [List.all_eq_true] at this
        rw [← e]; exact this c hc
      · rw [← e]; exact h c hc
  · intro h c hc
    exact h c ((List.dropWhile_sublist isBlank).mem hc)

/-- A text is all blank exactly when it trims to the empty text. -/
theorem trim_eq_empty_iff (s : String) : trim s = "" ↔ isAllBlank s = true := by
  rw [isAllBlank, List.all_eq_true, ← trimChars_eq_nil_iff, trim]
  constructor
  · intro h
    simpa using congrArg String.toList h
  · intro h
    simp [h]

end KeyedLocks.Text
