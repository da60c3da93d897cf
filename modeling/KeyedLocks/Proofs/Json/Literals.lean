/-
Strings and whole numbers read back.

What is written of a string has no mark and no control character left in it but the escapes,
and each escape is read as the character that it was written for (`readString_escape`). What is
written of a number starts with a zero only if there is nothing else, so it is read as it stands
(`readNumeral_ofInt`), as long as what follows it cannot be taken for more of it (`Stops`).
-/
import KeyedLocks.Json.Reader

set_option autoImplicit false

namespace KeyedLocks.Json

/-! ## Strings -/

/-- One letter behind a backslash. -/
theorem readString_plainEscape {c d : Char} (rest : List Char) (stands : plainEscape? c = some d) :
    readString ('\\' :: c :: rest) = withChar d (readString rest) := by
  have other : c ≠ 'u' := by
    rintro rfl
    cases stands
  simp [readString, other, stands]

/-- A character that stands for itself. -/
theorem readString_itself {c : Char} (rest : List Char) (mark : c ≠ '"') (backslash : c ≠ '\\')
    (visible : 0x20 ≤ c.toNat) : readString (c :: rest) = withChar c (readString rest) := by
  have shown : ¬ c.toNat < 0x20 := by omega
  simp [readString, backslash, shown]

/-- Four digits behind a backslash, for a control character. -/
theorem readString_control {c : Char} (rest : List Char) (control : c.toNat < 0x20) :
    readString ('\\' :: 'u' :: '0' :: '0' :: Text.hexDigit (c.toNat / 16)
        :: Text.hexDigit (c.toNat % 16) :: rest) = withChar c (readString rest) := by
  have zero : Text.hexValue? '0' = some 0 := rfl
  have quad : hexQuad? '0' '0' (Text.hexDigit (c.toNat / 16)) (Text.hexDigit (c.toNat % 16))
      = some c.toNat := by
    rw [hexQuad?, zero, Text.hexValue?_hexDigit _ (by omega), Text.hexValue?_hexDigit _ (by omega)]
    exact congrArg some (by omega)
  -- A control character is far below the surrogates, so the four digits stand alone.
  have single : isTrailing c.toNat = false ∧ isLeading c.toNat = false := by
    simp only [isTrailing, isLeading, Bool.and_eq_false_iff, decide_eq_false_iff_not]
    omega
  rw [readString, quad]
  simp only [single, Bool.false_eq_true, if_false, Char.ofNat_toNat]

/-- Whatever a character is written as, it is read as the character. -/
theorem readString_escapeChar (c : Char) (rest : List Char) :
    readString (escapeChar c ++ rest) = withChar c (readString rest) := by
  unfold escapeChar
  split
  -- The short escapes come first, in the order in which they are looked for.
  · exact readString_plainEscape rest rfl
  · exact readString_plainEscape rest rfl
  · exact readString_plainEscape rest rfl
  · exact readString_plainEscape rest rfl
  · exact readString_plainEscape rest rfl
  · exact readString_plainEscape rest rfl
  · exact readString_plainEscape rest rfl
  · next mark backslash _ _ _ _ _ =>
    split
    · next control => exact readString_control rest control
    · next visible => exact readString_itself rest mark backslash (by omega)

/-- **A string is read up to its mark,** and every escape as what it was written for. -/
theorem readString_escape (cs rest : List Char) :
    readString (cs.flatMap escapeChar ++ '"' :: rest) = .ok (cs, rest) := by
  induction cs with
  | nil => simp [readString]
  | cons c cs ih =>
    rw [List.flatMap_cons, List.append_assoc, readString_escapeChar, ih]
    rfl

/-- A string that was written ends at its closing mark and not before. -/
theorem readLiteral_escape (s : String) (rest : List Char) :
    readLiteral (s.toList.flatMap escapeChar ++ '"' :: rest) = (.whole s, rest) := by
  rw [readLiteral, readString_escape]
  simp

/-! ## Whole numbers -/

/-- What follows a number cannot be taken for more of it. -/
def Stops (rest : List Char) : Prop :=
  ∀ c ∈ rest.head?, isDigit c = false ∧ c ≠ '.' ∧ c ≠ 'e' ∧ c ≠ 'E'

/-- The end of the text is no more of a number. -/
theorem stops_nil : Stops [] := by
  intro c hc
  cases hc

/-- A comma and the closing brackets do. -/
theorem stops_cons {c : Char} (rest : List Char) (h : c = ',' ∨ c = ']' ∨ c = '\x7d') :
    Stops (c :: rest) := by
  intro d hd
  cases hd
  rcases h with rfl | rfl | rfl <;> decide

theorem isDigit_of_mem_toDigits {n : Nat} {c : Char} (hc : c ∈ Nat.toDigits 10 n) :
    isDigit c = true := by
  have digit := Nat.isDigit_of_mem_toDigits (by omega) (by omega) hc
  simp only [Char.isDigit, Bool.and_eq_true, decide_eq_true_eq] at digit
  simp only [isDigit, Bool.and_eq_true, decide_eq_true_eq]
  exact digit

/-- The digits of a number other than zero start with another digit than zero. -/
theorem exists_toDigits_cons {n : Nat} (pos : n ≠ 0) :
    ∃ d ds, Nat.toDigits 10 n = d :: ds ∧ d ≠ '0' := by
  induction n using Nat.strongRecOn with
  | _ n ih =>
    rw [Nat.toDigits_eq_if (by omega)]
    split
    -- A number of one digit is that digit, and a longer one begins with the digits of a tenth of
    -- it.
    · next small =>
      refine ⟨n.digitChar, [], rfl, ?_⟩
      have all : ∀ m < 10, m ≠ 0 → m.digitChar ≠ '0' := by decide
      exact all n small pos
    · next large =>
      obtain ⟨d, ds, front, other⟩ := ih (n / 10) (by omega) (by omega)
      exact ⟨d, ds ++ [(n % 10).digitChar], by rw [front, List.cons_append], other⟩

theorem digits_append_of_head {ds rest : List Char} (all : ∀ c ∈ ds, isDigit c = true)
    (last : ∀ c ∈ rest.head?, isDigit c = false) : digits (ds ++ rest) = (ds, rest) := by
  have taken : rest.takeWhile isDigit = [] ∧ rest.dropWhile isDigit = rest := by
    cases rest with
    | nil => exact ⟨rfl, rfl⟩
    | cons c cs => simp [last c rfl]
  rw [digits, List.takeWhile_append_of_pos all, List.dropWhile_append_of_pos all, taken.1, taken.2,
    List.append_nil]

/-- Digits are read up to where they stop. -/
theorem digits_append {ds rest : List Char} (all : ∀ c ∈ ds, isDigit c = true)
    (stops : Stops rest) : digits (ds ++ rest) = (ds, rest) :=
  digits_append_of_head all fun c hc => (stops c hc).1

/-- Behind the digits there is neither a fraction nor an exponent. -/
theorem readFraction_of_stops (n : Numeral) {rest : List Char} (stops : Stops rest) :
    readFraction n rest = (.number n, rest) := by
  cases rest with
  | nil => rfl
  | cons c cs =>
    obtain ⟨-, point, small, large⟩ := stops c rfl
    simp [readFraction, readScale, point, small, large]

/-- What is written of a number is read as these digits, without a fraction and an exponent. -/
theorem readNumeral_toDigits (negative : Bool) (n : Nat) {rest : List Char} (stops : Stops rest) :
    readNumeral negative (Nat.toDigits 10 n ++ rest)
      = (.number ⟨negative, Nat.toDigits 10 n, [], none⟩, rest) := by
  rw [readNumeral, digits_append (fun c => isDigit_of_mem_toDigits) stops]
  by_cases zero : n = 0
  · subst zero
    exact readFraction_of_stops _ stops
  · obtain ⟨d, ds, front, other⟩ := exists_toDigits_cons zero
    rw [front]
    simp [other, readFraction_of_stops _ stops]

/-- A digit is neither a blank nor the first letter of anything else. -/
theorem readValue_of_digit (steps : Nat) {c : Char} (rest : List Char) (digit : isDigit c = true) :
    readValue (steps + 1) (c :: rest) = readNumeral false (c :: rest) := by
  -- No other character that starts a value is a digit, and no blank is one either.
  have plain : ∀ d : Char, d < '0' ∨ '9' < d → c ≠ d := by
    rintro d out rfl
    simp only [isDigit, Bool.and_eq_true, decide_eq_true_eq] at digit
    rcases out with below | above
    · exact absurd digit.1 (Char.not_le.2 below)
    · exact absurd digit.2 (Char.not_le.2 above)
  have space : isSpace c = false := by
    simp only [isSpace, Bool.or_eq_false_iff, beq_eq_false_iff_ne]
    exact ⟨⟨⟨plain _ (by decide), plain _ (by decide)⟩, plain _ (by decide)⟩, plain _ (by decide)⟩
  rw [readValue, skipSpace_cons_of_not c rest space]
  simp [plain 'n' (by decide), plain 't' (by decide), plain 'f' (by decide), plain '-' (by decide),
    plain '"' (by decide), plain '[' (by decide), plain '\x7b' (by decide), digit]

/-- **A whole number is read as it is written.** -/
theorem readValue_ofInt (steps : Nat) (i : Int) {rest : List Char} (stops : Stops rest) :
    readValue (steps + 1) ((Numeral.ofInt i).chars ++ rest) = (.number (.ofInt i), rest) := by
  by_cases negative : i < 0
  · have chars : (Numeral.ofInt i).chars = '-' :: Nat.toDigits 10 i.natAbs := by
      simp [Numeral.chars, Numeral.ofInt, negative]
    rw [chars, List.cons_append, readValue, skipSpace_cons_of_not _ _ rfl]
    simp only [readNumeral_toDigits true i.natAbs stops, Numeral.ofInt, negative, decide_true]
  -- Without a sign the number is recognised by its first digit.
  · have chars : (Numeral.ofInt i).chars = Nat.toDigits 10 i.natAbs := by
      simp [Numeral.chars, Numeral.ofInt, negative]
    have read := readNumeral_toDigits false i.natAbs stops
    rw [chars]
    cases front : Nat.toDigits 10 i.natAbs with
    | nil => exact absurd front Nat.toDigits_ne_nil
    | cons d ds =>
      have digit : isDigit d = true := isDigit_of_mem_toDigits (n := i.natAbs) (by simp [front])
      rw [front] at read
      rw [List.cons_append, readValue_of_digit steps (ds ++ rest) digit, ← List.cons_append, read]
      simp only [Numeral.ofInt, negative, decide_false, front]

end KeyedLocks.Json
