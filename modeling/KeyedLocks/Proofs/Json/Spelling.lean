/-
Literals and numerals against the grammar.

A literal is passed over part by part, so whoever passes over it finds out which parts it is spelled
with (`exists_parts_of_skipString`), and reading the same parts fails only where surrogates are not
paired (`toOption_readString`). What a literal stands for is therefore settled by its parts, however
it was found (`readLiteral_of_spells`, `exists_of_readLiteral`).

A numeral is read as far as it goes. What is read is spelled right (`exists_of_readNumeral`), and
what is spelled right is read up to its end if what follows cannot be taken for more of it
(`readNumeral_of_spells`).
-/
import KeyedLocks.Json.Grammar
import KeyedLocks.Proofs.Json.Literals
import Mathlib.Data.List.TakeWhile

set_option autoImplicit false

namespace KeyedLocks.Json

/-! ## What a reading says -/

/-- The string that a literal stands for, if any, unless it is not spelled right. -/
def Literal.text? : Literal → Option (Option String)
  | .whole s => some (some s)
  | .faulty _ none => some none
  | .faulty _ (some _) => none

mutual

/-- What a reading says, unless it breaks off somewhere. -/
def Reading.tree? : Reading → Option Tree
  | .null => some .null
  | .bool b => some (.bool b)
  | .number n => some (.number n)
  | .cutNumber => none
  | .cutWord => none
  | .string s => s.text?.map .string
  | .array items => items.trees?.map .array
  | .object members => members.trees?.map .object
  | .broken _ => none

/-- What the items of an array say. -/
def Items.trees? : Items → Option (List Tree)
  | .closed => some []
  | .stop _ => none
  | .item v rest => v.tree?.bind fun t => rest.trees?.map (t :: ·)

/-- What the members of an object say. -/
def Members.trees? : Members → Option (List (Option String × Tree))
  | .closed => some []
  | .stop _ => none
  | .member key v rest =>
    key.text?.bind fun name => v.tree?.bind fun t => rest.trees?.map ((name, t) :: ·)

end

/-! ## Passing over a literal -/

/-- The letter of the four digits is none of the short escapes. -/
theorem ne_u_of_plainEscape? {e c : Char} (stands : plainEscape? e = some c) : e ≠ 'u' := by
  rintro rfl
  cases stands

/-- To pass over a part is to pass over its characters. -/
theorem skipString_part {cs : List Char} {p : LiteralPart} (spelled : SpellsPart cs p)
    (rest : List Char) : skipString (cs ++ rest) = skipString rest := by
  cases spelled with
  | itself mark backslash visible =>
    have shown : ¬ (Char.toNat _ < 0x20) := Nat.not_lt.2 visible
    simp [skipString, backslash, shown]
  | escape stands => simp [skipString, ne_u_of_plainEscape? stands, stands]
  | unit quad => simp [skipString, quad]

/-- A literal is passed over part by part, up to its closing mark. -/
theorem skipString_parts {cs : List Char} {ps : List LiteralPart} (spelled : SpellsParts cs ps)
    (rest : List Char) : skipString (cs ++ '"' :: rest) = .ok rest := by
  induction spelled with
  | nil => simp [skipString]
  | cons part _ ih => rw [List.append_assoc, skipString_part part, ih]

/-- **What is passed over** is spelled with parts. -/
theorem exists_parts_of_skipString {cs rest : List Char} (passed : skipString cs = .ok rest) :
    ∃ body ps, cs = body ++ '"' :: rest ∧ SpellsParts body ps := by
  fun_induction skipString cs with
  | case1 => cases passed
  | case2 tail =>
    cases passed
    exact ⟨[], [], rfl, .nil⟩
  | case3 => cases passed
  | case4 a b c d tail n quad ih =>
    obtain ⟨body, ps, rfl, spelled⟩ := ih passed
    exact ⟨_, _, rfl, .cons (.unit quad) spelled⟩
  | case5 => cases passed
  | case6 => cases passed
  | case7 => cases passed
  | case8 e tail _ _ c stands ih =>
    obtain ⟨body, ps, rfl, spelled⟩ := ih passed
    exact ⟨_, _, rfl, .cons (.escape stands) spelled⟩
  | case9 => cases passed
  -- A character that stands for itself is no backslash, for a backslash would have been an escape
  -- or the end.
  | case10 c tail mark _ _ lone escaped visible ih =>
    obtain ⟨body, ps, rfl, spelled⟩ := ih passed
    have backslash : c ≠ '\\' := fun same => by
      cases front : body ++ '"' :: rest with
      | nil => exact lone same front
      | cons d ds => exact escaped d ds same front
    exact ⟨_, _, rfl, .cons (.itself mark backslash (Nat.not_lt.1 visible)) spelled⟩

/-! ## Reading a literal -/

/-- What is read with a character in front was read without it. -/
theorem exists_of_withChar {c : Char} {r : Except Fault (List Char × List Char)}
    {s rest : List Char} (read : withChar c r = .ok (s, rest)) : ∃ s', r = .ok (s', rest) := by
  cases r with
  | error f => cases read
  | ok p =>
    cases read
    exact ⟨p.1, rfl⟩

/-- What can be read can be passed over. -/
theorem skipString_of_readString {cs s rest : List Char} (read : readString cs = .ok (s, rest)) :
    skipString cs = .ok rest := by
  fun_induction readString cs generalizing s with
  | case2 tail =>
    cases read
    simp [skipString]
  -- A pair of surrogates is one character here and two units to whoever passes over.
  | case6 a b c d n quad _ _ e f g h tail m quad' _ ih =>
    obtain ⟨s', read⟩ := exists_of_withChar read
    simp [skipString, quad, quad', ih read]
  | case9 a b c d tail n quad _ _ ih =>
    obtain ⟨s', read⟩ := exists_of_withChar read
    simp [skipString, quad, ih read]
  | case13 e tail _ _ c stands ih =>
    obtain ⟨s', read⟩ := exists_of_withChar read
    simp [skipString, stands, ih read]
  | case15 c tail mark _ _ lone escaped visible ih =>
    obtain ⟨s', read⟩ := exists_of_withChar read
    simp [skipString, visible, ih read]
  | _ => cases read

/-- A part that stands for a character is read as the character. -/
theorem readString_part {cs : List Char} {c : Char} (spelled : SpellsPart cs (.char c))
    (rest : List Char) : readString (cs ++ rest) = withChar c (readString rest) := by
  cases spelled with
  | itself mark backslash visible => exact readString_itself rest mark backslash visible
  | escape stands => exact readString_plainEscape rest stands

theorem toOption_withChar (c : Char) (r : Except Fault (List Char × List Char)) :
    (withChar c r).toOption = r.toOption.map fun p => (c :: p.1, p.2) := by
  cases r <;> rfl

/-- No surrogate is both. -/
theorem not_isTrailing_of_isLeading {n : Nat} (leading : isLeading n = true) :
    isTrailing n = false := by
  simp only [isLeading, Bool.and_eq_true, decide_eq_true_eq] at leading
  simp only [isTrailing, Bool.and_eq_false_iff, decide_eq_false_iff_not]
  omega

/-- A unit that wants a second one finds none in the characters that follow, or in the mark. -/
theorem readString_lone {a b c d : Char} {n : Nat} (quad : hexQuad? a b c d = some n)
    (leading : isLeading n = true) {rest : List Char}
    (single : ∀ more, rest ≠ '\\' :: 'u' :: more) :
    (readString ('\\' :: 'u' :: a :: b :: c :: d :: rest)).toOption = none := by
  rw [readString, quad]
  simp only [not_isTrailing_of_isLeading leading, leading, Bool.false_eq_true, if_false, if_true]
  split
  · next e f g h more => exact absurd rfl (single _)
  · rfl

theorem ne_unit_of_spells {body : List Char} {ps : List LiteralPart}
    (spelled : SpellsParts body ps) (char : ∀ m qs, ps ≠ .unit m :: qs) (rest more : List Char) :
    body ++ '"' :: rest ≠ '\\' :: 'u' :: more := by
  cases spelled with
  | nil => simp
  | cons part parts =>
    cases part with
    | itself mark backslash visible => simp [backslash]
    | escape stands => simp [ne_u_of_plainEscape? stands]
    | unit quad => exact absurd rfl (char _ _)

/-- A unit is spelled with four digits. -/
theorem exists_of_spells_unit {body : List Char} {n : Nat} {ps : List LiteralPart}
    (spelled : SpellsParts body (.unit n :: ps)) :
    ∃ a b c d more, body = '\\' :: 'u' :: a :: b :: c :: d :: more
      ∧ hexQuad? a b c d = some n ∧ SpellsParts more ps := by
  cases spelled with
  | cons part parts =>
    cases part with
    | unit quad => exact ⟨_, _, _, _, _, rfl, quad, parts⟩

/-- **Reading parts** gives the characters that they stand for, and fails if they stand for none. -/
theorem toOption_readString {body : List Char} {ps : List LiteralPart}
    (spelled : SpellsParts body ps) (rest : List Char) :
    (readString (body ++ '"' :: rest)).toOption = (joinParts? ps).map fun cs => (cs, rest) := by
  fun_induction joinParts? ps generalizing body with
  | case1 =>
    cases spelled
    simp [readString, Except.toOption]
  | case2 c ps ih =>
    obtain _ | ⟨part, parts⟩ := spelled
    rw [List.append_assoc, readString_part part, toOption_withChar, ih parts, Option.map_map,
      Option.map_map]
    rfl
  -- A unit that trails is not read, and neither is one that leads without its counterpart. All
  -- other parts are read as they are joined.
  | case3 n m ps trailing =>
    obtain ⟨a, b, c, d, more, rfl, quad, -⟩ := exists_of_spells_unit spelled
    simp [readString, quad, trailing, Except.toOption]
  | case4 n m ps other leading trailing ih =>
    obtain ⟨a, b, c, d, more, rfl, quad, parts⟩ := exists_of_spells_unit spelled
    obtain ⟨e, f, g, h, more, rfl, quad', parts⟩ := exists_of_spells_unit parts
    simp only [List.cons_append, readString, quad, quad', other, leading, trailing, if_true,
      Bool.false_eq_true, if_false, toOption_withChar, ih parts, Option.map_map]
    rfl
  | case5 n m ps other leading other' =>
    obtain ⟨a, b, c, d, more, rfl, quad, parts⟩ := exists_of_spells_unit spelled
    obtain ⟨e, f, g, h, more, rfl, quad', -⟩ := exists_of_spells_unit parts
    simp [readString, quad, quad', other, leading, other', Except.toOption]
  | case6 n m ps other single ih =>
    obtain ⟨a, b, c, d, more, rfl, quad, parts⟩ := exists_of_spells_unit spelled
    simp only [List.cons_append, readString, quad, other, single, Bool.false_eq_true, if_false,
      toOption_withChar, ih parts, Option.map_map]
    rfl
  | case7 n ps char alone =>
    obtain ⟨a, b, c, d, more, rfl, quad, parts⟩ := exists_of_spells_unit spelled
    rcases Bool.or_eq_true_iff.1 alone with trailing | leading
    · simp [readString, quad, trailing, Except.toOption]
    · exact readString_lone quad leading (ne_unit_of_spells parts char rest)
  | case8 n ps char single ih =>
    obtain ⟨a, b, c, d, more, rfl, quad, parts⟩ := exists_of_spells_unit spelled
    obtain ⟨other, single⟩ : isTrailing n = false ∧ isLeading n = false := by simpa using single
    simp only [List.cons_append, readString, quad, other, single, Bool.false_eq_true, if_false,
      toOption_withChar, ih parts, Option.map_map]
    rfl

/-- **A literal that is spelled right** is read up to its mark. -/
theorem readLiteral_of_spells {body : List Char} {s : Option String}
    (spelled : SpellsLiteral body s) (rest : List Char) :
    ∃ l, readLiteral (body ++ '"' :: rest) = (l, rest) ∧ l.text? = some s := by
  obtain ⟨parts⟩ := spelled
  have read := toOption_readString parts rest
  rw [readLiteral]
  cases result : readString (body ++ '"' :: rest) with
  | ok p =>
    rw [result] at read
    obtain ⟨cs, joined, rfl⟩ := Option.map_eq_some_iff.1 read.symm
    exact ⟨_, rfl, by rw [joined]; rfl⟩
  -- It is spelled right, so it can be passed over though it cannot be read.
  | error f =>
    rw [result] at read
    have none := Option.map_eq_none_iff.1 read.symm
    rw [skipString_parts parts]
    exact ⟨_, rfl, by rw [none]; rfl⟩

/-- **A literal that is read** is spelled right. -/
theorem exists_of_readLiteral {cs rest : List Char} {l : Literal} {s : Option String}
    (read : readLiteral cs = (l, rest)) (text : l.text? = some s) :
    ∃ body, cs = body ++ '"' :: rest ∧ SpellsLiteral body s := by
  -- Whether it could be read or not, it was passed over: otherwise it would stand for nothing.
  have passed : skipString cs = .ok rest := by
    rw [readLiteral] at read
    cases result : readString cs with
    | ok p =>
      rw [result] at read
      cases read
      exact skipString_of_readString result
    | error f =>
      rw [result] at read
      cases skipped : skipString cs with
      | ok tail =>
        rw [skipped] at read
        cases read
        rfl
      | error g =>
        rw [skipped] at read
        cases read
        cases text
  obtain ⟨body, ps, rfl, parts⟩ := exists_parts_of_skipString passed
  obtain ⟨l', read', text'⟩ := readLiteral_of_spells (.mk parts) rest
  rw [read] at read'
  cases read'
  rw [text] at text'
  cases text'
  exact ⟨body, rfl, .mk parts⟩

/-! ## Reading a numeral -/

/-- What is read of digits is all digits, and the rest follows them. -/
theorem append_of_digits {cs ds rest : List Char} (read : digits cs = (ds, rest)) :
    cs = ds ++ rest ∧ ∀ c ∈ ds, isDigit c = true := by
  cases read
  exact ⟨List.takeWhile_append_dropWhile.symm, fun c hc => List.mem_takeWhile_imp hc⟩

@[simp] theorem tree?_wantsDigit (cs : List Char) : (wantsDigit cs).tree? = none := by
  cases cs <;> simp [wantsDigit, Reading.tree?]

/-- The digits of an exponent, after its sign. -/
def readPower (n : Numeral) (negative : Bool) (cs : List Char) : Reading × List Char :=
  match digits cs with
  | ([], rest) => (wantsDigit rest, [])
  | (ds, rest) => (.number { n with exponent := some (negative, ds) }, rest)

/-- An exponent is its sign, if any, and digits. -/
theorem readExponent_eq (n : Numeral) (cs : List Char) :
    ∃ sign negative tail, cs = sign ++ tail ∧ SpellsSign sign negative
      ∧ readExponent n cs = readPower n negative tail := by
  unfold readExponent
  -- What may stand in front of the digits is a plus, a minus or nothing, and only the sign depends
  -- on it.
  split
  next negative tail taken =>
    split at taken
    · cases taken
      exact ⟨_, _, _, rfl, .plus, rfl⟩
    · cases taken
      exact ⟨_, _, _, rfl, .minus, rfl⟩
    · cases taken
      exact ⟨_, _, _, rfl, .none, rfl⟩

/-- An exponent that was read is spelled as one. -/
theorem exists_of_readExponent {n : Numeral} {cs rest : List Char} {v : Reading} {t : Tree}
    (read : readExponent n cs = (v, rest)) (tree : v.tree? = some t) :
    ∃ sign ds negative, cs = sign ++ (ds ++ rest) ∧ SpellsSign sign negative ∧ Digits ds
      ∧ t = .number { n with exponent := some (negative, ds) } := by
  obtain ⟨sign, negative, tail, rfl, signed, same⟩ := readExponent_eq n cs
  rw [same, readPower] at read
  split at read
  · cases read
    simp at tree
  · next ds tail' other split =>
    cases read
    cases tree
    obtain ⟨rfl, digit⟩ := append_of_digits split
    exact ⟨_, _, _, rfl, signed, ⟨other, digit⟩, rfl⟩

/-- The part of a numeral behind its fraction is spelled correctly too. It may be empty. -/
theorem exists_of_readScale {negative : Bool} {whole fs cs rest : List Char} {v : Reading}
    {t : Tree} (read : readScale ⟨negative, whole, fs, none⟩ cs = (v, rest))
    (tree : v.tree? = some t) :
    ∃ core e, cs = core ++ rest ∧ SpellsExponent core e ∧ t = .number ⟨negative, whole, fs, e⟩ := by
  unfold readScale at read
  split at read
  · obtain ⟨sign, ds, less, rfl, signed, some, rfl⟩ := exists_of_readExponent read tree
    exact ⟨_, _, by simp, .letter (.inl rfl) signed some, rfl⟩
  · obtain ⟨sign, ds, less, rfl, signed, some, rfl⟩ := exists_of_readExponent read tree
    exact ⟨_, _, by simp, .letter (.inr rfl) signed some, rfl⟩
  · cases read
    cases tree
    exact ⟨[], none, rfl, .none, rfl⟩

/-- A fraction that was read is spelled as one, and what follows it is an exponent or nothing. -/
theorem exists_of_readFraction {negative : Bool} {whole cs rest : List Char} {v : Reading}
    {t : Tree} (read : readFraction ⟨negative, whole, [], none⟩ cs = (v, rest))
    (tree : v.tree? = some t) :
    ∃ fraction exponent fs e, cs = fraction ++ (exponent ++ rest) ∧ SpellsFraction fraction fs
      ∧ SpellsExponent exponent e ∧ t = .number ⟨negative, whole, fs, e⟩ := by
  unfold readFraction at read
  split at read
  · split at read
    · cases read
      simp at tree
    · next ds tail some split =>
      obtain ⟨rfl, digit⟩ := append_of_digits split
      obtain ⟨core, e, rfl, scale, rfl⟩ := exists_of_readScale read tree
      exact ⟨_, _, _, _, rfl, .point ⟨some, digit⟩, scale, rfl⟩
  · obtain ⟨core, e, rfl, scale, rfl⟩ := exists_of_readScale read tree
    exact ⟨_, _, _, _, rfl, .none, scale, rfl⟩

/-- **A numeral that is read** is spelled right. -/
theorem exists_of_readNumeral {negative : Bool} {cs rest : List Char} {v : Reading} {t : Tree}
    (read : readNumeral negative cs = (v, rest)) (tree : v.tree? = some t) :
    ∃ core n, cs = core ++ rest ∧ SpellsUnsigned negative core n ∧ t = .number n := by
  unfold readNumeral at read
  split at read
  · cases read
    simp at tree
  · next tail split =>
    obtain ⟨rfl, digit⟩ := append_of_digits split
    obtain ⟨_, _, _, _, rfl, point, scale, rfl⟩ := exists_of_readFraction read tree
    exact ⟨_, _, by simp, .mk ⟨⟨by simp, digit⟩, fun _ => rfl⟩ point scale, rfl⟩
  · cases read
    simp [Reading.tree?] at tree
  · next ds tail some alone more split =>
    obtain ⟨rfl, digit⟩ := append_of_digits split
    obtain ⟨_, _, _, _, rfl, point, scale, rfl⟩ := exists_of_readFraction read tree
    -- A zero in front with more digits behind it was refused one case earlier.
    have zero : ds.head? = .some '0' → ds = ['0'] := by
      intro first
      obtain ⟨tail, rfl⟩ := List.head?_eq_some_iff.1 first
      cases tail with
      | nil => rfl
      | cons d ds => exact absurd rfl (more d ds)
    exact ⟨_, _, by simp, .mk ⟨⟨some, digit⟩, zero⟩ point scale, rfl⟩

/-! ## Reading what is spelled -/

variable {rest : List Char}

/-- The digits of an exponent are read up to where they stop. -/
theorem readPower_of_digits (n : Numeral) (negative : Bool) {ds : List Char} (all : Digits ds)
    (stops : Stops rest) :
    readPower n negative (ds ++ rest)
      = (.number { n with exponent := some (negative, ds) }, rest) := by
  rw [readPower, digits_append all.digit stops]
  split
  · next same => exact absurd (congrArg Prod.fst same) all.nonempty
  · next same =>
    cases same
    rfl

/-- An exponent is read with its sign. -/
theorem readExponent_of_spells (n : Numeral) {sign ds : List Char} {negative : Bool}
    (signed : SpellsSign sign negative) (all : Digits ds) (stops : Stops rest) :
    readExponent n (sign ++ (ds ++ rest))
      = (.number { n with exponent := some (negative, ds) }, rest) := by
  rw [← readPower_of_digits n negative all stops]
  cases signed with
  | plus => rfl
  | minus => rfl
  | none =>
    obtain ⟨some, digit⟩ := all
    cases ds with
    | nil => exact absurd rfl some
    | cons d ds =>
      -- Without a sign the first digit must not be mistaken for one.
      have first := digit d List.mem_cons_self
      rw [List.nil_append, List.cons_append]
      unfold readExponent
      split
      next taken =>
        split at taken
        · next same =>
          cases same
          cases first
        · next same =>
          cases same
          cases first
        · cases taken
          rfl

/-- What may stand behind a fraction is read, and where there is nothing, nothing is taken for it.
-/
theorem readScale_of_spells (negative : Bool) (whole fs : List Char) {core : List Char}
    {e : Option (Bool × List Char)} (scale : SpellsExponent core e) (stops : Stops rest) :
    readScale ⟨negative, whole, fs, none⟩ (core ++ rest)
      = (.number ⟨negative, whole, fs, e⟩, rest) := by
  cases scale with
  | none =>
    cases rest with
    | nil => rfl
    | cons c cs =>
      obtain ⟨-, -, small, large⟩ := stops c rfl
      simp [readScale, small, large]
  | letter letter signed all =>
    rw [List.cons_append, List.append_assoc]
    rcases letter with rfl | rfl <;> exact readExponent_of_spells _ signed all stops

/-- Where an exponent may stand, neither a digit nor a point comes next. -/
theorem head_of_exponent {core : List Char} {e : Option (Bool × List Char)}
    (scale : SpellsExponent core e) (stops : Stops rest) :
    ∀ c ∈ (core ++ rest).head?, isDigit c = false ∧ c ≠ '.' := by
  intro c hc
  cases scale with
  | none => exact ⟨(stops c hc).1, (stops c hc).2.1⟩
  | letter letter =>
    cases hc
    rcases letter with rfl | rfl <;> decide

/-- What may stand behind the whole part is read. -/
theorem readFraction_of_spells (negative : Bool) (whole : List Char)
    {fraction exponent fs : List Char} {e : Option (Bool × List Char)}
    (point : SpellsFraction fraction fs) (scale : SpellsExponent exponent e) (stops : Stops rest) :
    readFraction ⟨negative, whole, [], none⟩ (fraction ++ (exponent ++ rest))
      = (.number ⟨negative, whole, fs, e⟩, rest) := by
  have head := head_of_exponent scale stops
  rw [← readScale_of_spells negative whole fs scale stops]
  cases point with
  | none =>
    rw [List.nil_append]
    unfold readFraction
    split
    · next same =>
      rw [same] at head
      exact absurd rfl (head '.' rfl).2
    · rfl
  | point all =>
    rw [List.cons_append, readFraction, digits_append_of_head all.digit fun c hc => (head c hc).1]
    split
    · next same => exact absurd (congrArg Prod.fst same) all.nonempty
    · next same =>
      cases same
      rfl

/-- **A numeral that is spelled right** is read, unless what follows could be taken for more of
it. -/
theorem readNumeral_of_spells {negative : Bool} {core : List Char} {n : Numeral}
    (spelled : SpellsUnsigned negative core n) (stops : Stops rest) :
    readNumeral negative (core ++ rest) = (.number n, rest) := by
  obtain ⟨all, point, scale⟩ := spelled
  next whole fraction exponent fs e =>
  -- The whole part ends where the fraction begins, or the exponent, or what follows.
  have last : ∀ c ∈ (fraction ++ (exponent ++ rest)).head?, isDigit c = false := by
    intro c hc
    cases point with
    | none => exact (head_of_exponent scale stops c hc).1
    | point =>
      cases hc
      rfl
  rw [← readFraction_of_spells negative whole point scale stops, List.append_assoc,
    List.append_assoc, readNumeral, digits_append_of_head all.digit last]
  split
  · next same => exact absurd (congrArg Prod.fst same) all.nonempty
  · next same =>
    cases same
    rfl
  · next same =>
    cases same
    cases all.zero rfl
  · next same =>
    cases same
    rfl

end KeyedLocks.Json
