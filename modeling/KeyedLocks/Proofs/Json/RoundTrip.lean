/-
What is written as JSON reads back.

A value that is written without blanks is read as itself: its reading has the same shape and no
fault anywhere (`readText_chars`). So whoever decodes a text that was written decodes the value it
was written from (`decodeText_chars`), and it makes no difference that the text arrives as bytes,
where a character that occurs nowhere in it stands in for stray pieces that are not there
(`decodeBytes_chars`).

Numbers are whole numbers here. Nothing else is ever sent.
-/
import KeyedLocks.Json.Bytes
import KeyedLocks.Proofs.Json.Literals
import KeyedLocks.Proofs.Text.Utf8

set_option autoImplicit false

namespace KeyedLocks.Json

/-! ## The reading of a value -/

mutual

/-- A value as it is read, without a fault. -/
def Value.reading : Value → Reading
  | .null => .null
  | .bool b => .bool b
  | .number n => .number n
  | .string s => .string (.whole s)
  | .array items => .array (readingItems items)
  | .object members => .object (readingMembers members)

/-- The items of an array, as they are read. -/
def readingItems : List Value → Items
  | [] => .closed
  | v :: rest => .item v.reading (readingItems rest)

/-- The members of an object, as they are read. -/
def readingMembers : List (String × Value) → Members
  | [] => .closed
  | (k, v) :: rest => .member (.whole k) v.reading (readingMembers rest)

end

mutual

/-- Every number in a value is a whole number. -/
def Value.Integral : Value → Prop
  | .number n => ∃ i, n = .ofInt i
  | .array items => IntegralItems items
  | .object members => IntegralMembers members
  | _ => True

/-- Every number in the items of an array is a whole number. -/
def IntegralItems : List Value → Prop
  | [] => True
  | v :: rest => v.Integral ∧ IntegralItems rest

/-- Every number in the members of an object is a whole number. -/
def IntegralMembers : List (String × Value) → Prop
  | [] => True
  | (_, v) :: rest => v.Integral ∧ IntegralMembers rest

end

/-! ## The characters of a value -/

/-- A string is written between two marks. -/
theorem stringChars_append (s : String) (rest : List Char) :
    stringChars s ++ rest = '"' :: (s.toList.flatMap escapeChar ++ '"' :: rest) := by
  simp [stringChars]

/-- More items are a comma and then items. -/
theorem moreItemChars_cons (v : Value) (vs : List Value) :
    moreItemChars (v :: vs) = ',' :: itemChars (v :: vs) := by
  simp [moreItemChars, itemChars]

/-- More members are a comma and then members. -/
theorem moreMemberChars_cons (m : String × Value) (ms : List (String × Value)) :
    moreMemberChars (m :: ms) = ',' :: memberChars (m :: ms) := by
  simp [moreMemberChars, memberChars]

/-- What follows an item or a member stops a number in front of it. -/
theorem stops_moreItemChars (vs : List Value) (rest : List Char) :
    Stops (moreItemChars vs ++ rest) := by
  cases vs with
  | nil => exact stops_cons rest (.inr (.inl rfl))
  | cons v vs =>
    rw [moreItemChars_cons]
    exact stops_cons _ (.inl rfl)

/-- A number that is the value of a member ends there. -/
theorem stops_moreMemberChars (ms : List (String × Value)) (rest : List Char) :
    Stops (moreMemberChars ms ++ rest) := by
  cases ms with
  | nil => exact stops_cons rest (.inr (.inr rfl))
  | cons m ms =>
    rw [moreMemberChars_cons]
    exact stops_cons _ (.inl rfl)

/-- A character that a value can start with: no blank, and no closing bracket. -/
def Starts (c : Char) : Prop := isSpace c = false ∧ c ≠ ']'

theorem starts_of_isDigit {c : Char} (digit : isDigit c = true) : Starts c := by
  have other : ∀ d : Char, isDigit d = false → c ≠ d := by
    rintro d not rfl
    rw [digit] at not
    cases not
  refine ⟨?_, other _ (by decide)⟩
  simp only [isSpace, Bool.or_eq_false_iff, beq_eq_false_iff_ne]
  exact ⟨⟨⟨other _ (by decide), other _ (by decide)⟩, other _ (by decide)⟩, other _ (by decide)⟩

/-- A whole number starts with a digit or its sign. -/
theorem exists_chars_ofInt (i : Int) : ∃ c cs, (Numeral.ofInt i).chars = c :: cs ∧ Starts c := by
  by_cases negative : i < 0
  · refine ⟨'-', Nat.toDigits 10 i.natAbs, ?_, by decide, by decide⟩
    simp [Numeral.chars, Numeral.ofInt, negative]
  · cases front : Nat.toDigits 10 i.natAbs with
    | nil => exact absurd front Nat.toDigits_ne_nil
    | cons d ds =>
      refine ⟨d, ds, ?_, starts_of_isDigit (isDigit_of_mem_toDigits (n := i.natAbs) ?_)⟩
      · simp [Numeral.chars, Numeral.ofInt, negative, front]
      · rw [front]
        exact List.mem_cons_self

/-- Every value starts with a character that is no blank and no closing bracket, so an array with
items is not taken for an empty one. -/
theorem Value.exists_chars {v : Value} (integral : v.Integral) :
    ∃ c cs, v.chars = c :: cs ∧ Starts c := by
  cases v with
  | null => exact ⟨'n', _, by rw [chars], by decide, by decide⟩
  | bool b => cases b <;> exact ⟨_, _, by rw [chars], by decide, by decide⟩
  | number n =>
    obtain ⟨i, rfl⟩ : ∃ i, n = .ofInt i := by simpa [Integral] using integral
    rw [chars]
    exact exists_chars_ofInt i
  | string s => exact ⟨'"', _, by rw [chars, stringChars]; rfl, by decide, by decide⟩
  | array items => exact ⟨'[', _, by rw [chars], by decide, by decide⟩
  | object members => exact ⟨'\x7b', _, by rw [chars], by decide, by decide⟩

theorem exists_itemChars {v : Value} (integral : v.Integral) (vs : List Value) (rest : List Char) :
    ∃ c cs, itemChars (v :: vs) ++ rest = c :: cs ∧ Starts c := by
  obtain ⟨c, cs, start, starts⟩ := v.exists_chars integral
  refine ⟨c, cs ++ (moreItemChars vs ++ rest), ?_, starts⟩
  rw [itemChars, start]
  simp

/-- How the first of the members is written, up to what follows. -/
theorem memberChars_append (k : String) (v : Value) (ms : List (String × Value))
    (rest : List Char) :
    memberChars ((k, v) :: ms) ++ rest = '"' :: (k.toList.flatMap escapeChar
      ++ '"' :: ':' :: (v.chars ++ (moreMemberChars ms ++ rest))) := by
  rw [memberChars, List.append_assoc, List.append_assoc, stringChars_append]
  simp

/-! ## The steps of the reader -/

/-- With so many steps, values that are no longer than that are read as themselves, and so are
items and members. A member is read after its first quotation mark. -/
structure Reads (steps : Nat) : Prop where
  value : ∀ v : Value, v.Integral → v.chars.length ≤ steps → ∀ rest, Stops rest →
    readValue steps (v.chars ++ rest) = (v.reading, rest)
  items : ∀ v vs, IntegralItems (v :: vs) → (itemChars (v :: vs)).length ≤ steps → ∀ rest,
    readItems steps (itemChars (v :: vs) ++ rest) = (readingItems (v :: vs), rest)
  members : ∀ k v ms, IntegralMembers ((k, v) :: ms) →
    (memberChars ((k, v) :: ms)).length ≤ steps → ∀ rest,
    readMembers steps (k.toList.flatMap escapeChar
        ++ '"' :: ':' :: (v.chars ++ (moreMemberChars ms ++ rest)))
      = (readingMembers ((k, v) :: ms), rest)

namespace Reads

variable {steps : Nat} (r : Reads steps)
include r

theorem value_succ (v : Value) (integral : v.Integral) (enough : v.chars.length ≤ steps + 1)
    (rest : List Char) (stops : Stops rest) :
    readValue (steps + 1) (v.chars ++ rest) = (v.reading, rest) := by
  cases v with
  | null => simp [Value.chars, Value.reading, readValue, skipSpace, isSpace, readWord, afterWord]
  | bool b =>
    cases b <;>
      simp [Value.chars, Value.reading, readValue, skipSpace, isSpace, readWord, afterWord]
  | number n =>
    obtain ⟨i, rfl⟩ : ∃ i, n = .ofInt i := by simpa [Value.Integral] using integral
    rw [Value.chars, Value.reading]
    exact readValue_ofInt steps i stops
  | string s =>
    rw [Value.chars, stringChars_append, readValue, skipSpace_cons_of_not _ _ rfl]
    simp only [readLiteral_escape, Value.reading]
  | array items =>
    cases items with
    | nil => simp [Value.chars, Value.reading, readingItems, readValue, skipSpace, isSpace]
    | cons v vs =>
      have each : IntegralItems (v :: vs) := by simpa [Value.Integral] using integral
      have first : v.Integral := by
        rw [IntegralItems] at each
        exact each.1
      -- The bracket took one character, so there are steps enough for what stands in it.
      have short : (itemChars (v :: vs)).length ≤ steps := by
        rw [Value.chars, List.length_cons] at enough
        omega
      have read := r.items v vs each short rest
      obtain ⟨c, cs, front, space, other⟩ := exists_itemChars first vs rest
      rw [front] at read
      rw [Value.chars, List.cons_append, front, readValue, skipSpace_cons_of_not _ _ rfl]
      simp only [skipSpace_cons_of_not c _ space]
      split
      · next same => cases same
      -- An item never starts with the bracket that would close the array.
      · next same => exact absurd (List.cons.inj same).1 other
      · rw [read, Value.reading]
  | object members =>
    cases members with
    | nil => simp [Value.chars, Value.reading, readingMembers, readValue, skipSpace, isSpace]
    | cons m ms =>
      obtain ⟨k, v⟩ := m
      have each : IntegralMembers ((k, v) :: ms) := by simpa [Value.Integral] using integral
      have short : (memberChars ((k, v) :: ms)).length ≤ steps := by
        rw [Value.chars, List.length_cons] at enough
        omega
      have read := r.members k v ms each short rest
      rw [Value.chars, List.cons_append, memberChars_append, readValue,
        skipSpace_cons_of_not _ _ rfl]
      simp only [skipSpace_cons_of_not '"' _ rfl, read, Value.reading]

/-- Items are read one after the other, with a step for each. -/
theorem items_succ (v : Value) (vs : List Value) (integral : IntegralItems (v :: vs))
    (enough : (itemChars (v :: vs)).length ≤ steps + 1) (rest : List Char) :
    readItems (steps + 1) (itemChars (v :: vs) ++ rest) = (readingItems (v :: vs), rest) := by
  rw [IntegralItems] at integral
  rw [itemChars, List.length_append] at enough
  -- Behind a value there is at least one character more, so the value is shorter than the items.
  have more : 0 < (moreItemChars vs).length := by
    cases vs <;> simp [moreItemChars]
  have read := r.value v integral.1 (by omega) _ (stops_moreItemChars vs rest)
  rw [itemChars, List.append_assoc, readItems, read]
  cases vs with
  | nil => simp [moreItemChars, readingItems, skipSpace, isSpace]
  | cons w ws =>
    rw [moreItemChars_cons, List.length_cons] at enough
    have next := r.items w ws integral.2 (by omega) rest
    rw [IntegralItems] at integral
    obtain ⟨c, cs, front, space, other⟩ := exists_itemChars integral.2.1 ws rest
    rw [front] at next
    rw [moreItemChars_cons, List.cons_append, front]
    simp only [skipSpace_cons_of_not ',' _ rfl, skipSpace_cons_of_not c _ space]
    split
    · next same => cases same
    · next same => exact absurd (List.cons.inj same).1 other
    · rw [next]
      simp only [readingItems]

/-- Members are read one after the other, from behind the mark of the first name. -/
theorem members_succ (k : String) (v : Value) (ms : List (String × Value))
    (integral : IntegralMembers ((k, v) :: ms))
    (enough : (memberChars ((k, v) :: ms)).length ≤ steps + 1) (rest : List Char) :
    readMembers (steps + 1) (k.toList.flatMap escapeChar
        ++ '"' :: ':' :: (v.chars ++ (moreMemberChars ms ++ rest)))
      = (readingMembers ((k, v) :: ms), rest) := by
  rw [IntegralMembers] at integral
  simp only [memberChars, List.length_append, List.length_cons] at enough
  -- The marks and the colon make the member longer than its value.
  have read := r.value v integral.1 (by omega) _ (stops_moreMemberChars ms rest)
  rw [readMembers, readLiteral_escape]
  simp only [skipSpace_cons_of_not ':' _ rfl, read]
  cases ms with
  | nil => simp [moreMemberChars, readingMembers, skipSpace, isSpace]
  | cons m ms =>
    obtain ⟨l, w⟩ := m
    rw [moreMemberChars_cons, List.length_cons] at enough
    have next := r.members l w ms integral.2 (by omega) rest
    rw [moreMemberChars_cons, List.cons_append, memberChars_append]
    simp only [skipSpace_cons_of_not ',' _ rfl, skipSpace_cons_of_not '"' _ rfl, next,
      readingMembers]

end Reads

/-- **The reader has enough steps** if it has as many as there are characters: every step takes
one at least. -/
theorem reads (steps : Nat) : Reads steps := by
  induction steps with
  | zero =>
    refine ⟨fun v integral enough => ?_, fun v vs integral enough => ?_,
      fun k v ms integral enough => ?_⟩
    -- Nothing is written in no characters, so there is nothing to read without a step.
    · obtain ⟨c, cs, start, -⟩ := v.exists_chars integral
      simp [start] at enough
    · rw [IntegralItems] at integral
      obtain ⟨c, cs, start, -⟩ := v.exists_chars integral.1
      simp [itemChars, start] at enough
    · simp [memberChars, stringChars] at enough
  | succ steps ih => exact ⟨ih.value_succ, ih.items_succ, ih.members_succ⟩

/-! ## Whole texts -/

/-- **A text that was written is read** as the value that it was written from, with nothing
behind it. -/
theorem readText_chars {v : Value} (integral : v.Integral) :
    readText v.chars = (v.reading, []) := by
  have read := (reads (2 * v.chars.length + 2)).value v integral (by omega) [] stops_nil
  rw [List.append_nil] at read
  rw [readText, read]
  rfl

/-- Whoever decodes what was written of a value decodes the value as it is read without a fault. -/
theorem decodeText_chars {α : Type} (f : Reading → Decoded α) {v : Value} (integral : v.Integral) :
    decodeText f v.chars = f v.reading := by
  rw [decodeText, readText_chars integral]
  dsimp only
  cases f v.reading <;> rfl

end KeyedLocks.Json
