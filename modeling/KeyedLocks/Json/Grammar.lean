/-
The grammar of JSON texts.

What a text says is a tree. Blanks and the spelling of escapes are not in it; numbers are in it as
numerals, because what a numeral means is up to whoever asks for it. The grammar says which texts
spell which tree (`Spells`), and it knows nothing of how a text is read.

A literal may be spelled right and yet stand for no string, when surrogates in it are not paired,
and a numeral may be too large for any number. Whether that is allowed depends on where it
stands, and so does how deep arrays and objects may be put inside one another. So these are
requirements on a tree (`Tree.Proper`, `Tree.depth`) and not on its spelling.
-/
import KeyedLocks.Json.Reader

set_option autoImplicit false

namespace KeyedLocks.Json

/-! ## Trees -/

/-- What a text says. A literal that stands for no string is `none`. -/
inductive Tree where
  | null
  | bool (b : Bool)
  | number (n : Numeral)
  | string (s : Option String)
  | array (items : List Tree)
  | object (members : List (Option String × Tree))

-- Equality cannot be derived for a type that stands in lists of itself.
mutual

/-- Whether two trees are the same. -/
def Tree.decEq : (t u : Tree) → Decidable (t = u)
  | .null, u => match u with
    | .null => isTrue rfl
    | .bool _ | .number _ | .string _ | .array _ | .object _ => isFalse nofun
  | .bool a, u => match u with
    | .bool b => decidable_of_iff (a = b) (by simp)
    | .null | .number _ | .string _ | .array _ | .object _ => isFalse nofun
  | .number m, u => match u with
    | .number n => decidable_of_iff (m = n) (by simp)
    | .null | .bool _ | .string _ | .array _ | .object _ => isFalse nofun
  | .string r, u => match u with
    | .string s => decidable_of_iff (r = s) (by simp)
    | .null | .bool _ | .number _ | .array _ | .object _ => isFalse nofun
  | .array ts, u => match u with
    | .array us =>
      have := itemsDecEq ts us
      decidable_of_iff (ts = us) (by simp)
    | .null | .bool _ | .number _ | .string _ | .object _ => isFalse nofun
  | .object ms, u => match u with
    | .object ns =>
      have := membersDecEq ms ns
      decidable_of_iff (ms = ns) (by simp)
    | .null | .bool _ | .number _ | .string _ | .array _ => isFalse nofun

/-- Whether two arrays have the same items. -/
def itemsDecEq : (ts us : List Tree) → Decidable (ts = us)
  | [], [] => isTrue rfl
  | [], _ :: _ | _ :: _, [] => isFalse nofun
  | t :: ts, u :: us =>
    have := t.decEq u
    have := itemsDecEq ts us
    decidable_of_iff (t = u ∧ ts = us) (by simp)

/-- Whether two objects have the same members in the same order. -/
def membersDecEq : (ms ns : List (Option String × Tree)) → Decidable (ms = ns)
  | [], [] => isTrue rfl
  | [], _ :: _ | _ :: _, [] => isFalse nofun
  | (name, t) :: ms, (name', u) :: ns =>
    have := t.decEq u
    have := membersDecEq ms ns
    decidable_of_iff ((name = name' ∧ t = u) ∧ ms = ns) (by simp)

end

instance : DecidableEq Tree := Tree.decEq

mutual

/-- How many arrays and objects stand inside one another. -/
def Tree.depth : Tree → Nat
  | .array items => itemsDepth items + 1
  | .object members => membersDepth members + 1
  | _ => 0

/-- How deep the deepest item of an array is. -/
def itemsDepth : List Tree → Nat
  | [] => 0
  | t :: ts => max t.depth (itemsDepth ts)

/-- How deep the deepest member of an object is. -/
def membersDepth : List (Option String × Tree) → Nat
  | [] => 0
  | (_, t) :: ms => max t.depth (membersDepth ms)

end

mutual

/-- Every literal stands for a string, and every numeral for a number. -/
def Tree.Proper : Tree → Prop
  | .number n => n.isNumber = true
  | .string s => s.isSome = true
  | .array items => ProperItems items
  | .object members => ProperMembers members
  | _ => True

/-- Every item of an array is proper. -/
def ProperItems : List Tree → Prop
  | [] => True
  | t :: ts => t.Proper ∧ ProperItems ts

/-- Every member of an object is proper, its name included. -/
def ProperMembers : List (Option String × Tree) → Prop
  | [] => True
  | (name, t) :: ms => name.isSome = true ∧ t.Proper ∧ ProperMembers ms

end

/-- What stands under a name in an object, in the order of the text. -/
def valuesOf (members : List (Option String × Tree)) (name : String) : List Tree :=
  members.filterMap fun m => if m.1 = some name then some m.2 else none

/-- What is asked for stands there once. -/
def Required {β : Type} (means : Tree → β → Prop) (ts : List Tree) (b : β) : Prop :=
  ∃ t, ts = [t] ∧ means t b

/-- What is asked for stands there once or not at all, and has a value of its own if it does not. -/
inductive Optional {β : Type} (means : Tree → β → Prop) (absent : β) : List Tree → β → Prop
  | absent : Optional means absent [] absent
  | present {t : Tree} {b : β} (meant : means t b) : Optional means absent [t] b

/-! ## What a tree means -/

/-- A tree is a string. -/
def Tree.IsString (t : Tree) (s : String) : Prop := t = .string (some s)

/-- A tree is a truth value. -/
def Tree.IsBool (t : Tree) (b : Bool) : Prop := t = .bool b

/-- A numeral without a point and an exponent denotes an integer, with one exception: a zero with a
sign is a floating point number. -/
structure Numeral.Denotes (n : Numeral) (i : Int) : Prop where
  fraction : n.fraction = []
  exponent : n.exponent = none
  zero : n.negative = true → i ≠ 0
  value : i = if n.negative then -(digitsValue n.whole : Int) else digitsValue n.whole

/-- A tree is an integer. -/
def Tree.IsInteger (t : Tree) (i : Int) : Prop := ∃ n, t = .number n ∧ n.Denotes i

/-- A choice is its name, or an object with that name and null under it. -/
def Tree.IsChoice (t : Tree) (name : String) : Prop :=
  t = .string (some name) ∨ t = .object [(some name, .null)]

/-- A tree is a record if it is an object whose members say it, or an array of as many items as the
record has fields that says what these items would say under the names of the fields. -/
inductive Tree.IsRecord {α : Type} (fields : List String)
    (means : List (Option String × Tree) → α → Prop) : Tree → α → Prop
  | object {ms : List (Option String × Tree)} {a : α} (meant : means ms a) :
      IsRecord fields means (.object ms) a
  | array {ts : List Tree} {a : α} (length : ts.length = fields.length)
      (meant : means ((fields.map some).zip ts) a) : IsRecord fields means (.array ts) a

/-! ## Blanks and numerals -/

/-- Nothing but blanks. -/
def Blank (ws : List Char) : Prop := ∀ c ∈ ws, isSpace c = true

/-- One digit at least, and nothing else. -/
structure Digits (ds : List Char) : Prop where
  nonempty : ds ≠ []
  digit : ∀ c ∈ ds, isDigit c = true

/-- The digits in front of the point start with a zero only if there is no other. -/
structure WholeDigits (ds : List Char) : Prop extends Digits ds where
  zero : ds.head? = some '0' → ds = ['0']

/-- A point and digits, or nothing. -/
inductive SpellsFraction : List Char → List Char → Prop
  | none : SpellsFraction [] []
  | point {ds : List Char} (digits : Digits ds) : SpellsFraction ('.' :: ds) ds

/-- The sign of an exponent. -/
inductive SpellsSign : List Char → Bool → Prop
  | none : SpellsSign [] false
  | plus : SpellsSign ['+'] false
  | minus : SpellsSign ['-'] true

/-- A letter, a sign and digits, or nothing. -/
inductive SpellsExponent : List Char → Option (Bool × List Char) → Prop
  | none : SpellsExponent [] none
  | letter {c : Char} {sign ds : List Char} {negative : Bool} (letter : c = 'e' ∨ c = 'E')
      (signed : SpellsSign sign negative) (digits : Digits ds) :
      SpellsExponent (c :: (sign ++ ds)) (some (negative, ds))

/-- What a numeral is behind its sign. -/
inductive SpellsUnsigned (negative : Bool) : List Char → Numeral → Prop
  | mk {whole fraction exponent fs : List Char} {e : Option (Bool × List Char)}
      (digits : WholeDigits whole) (point : SpellsFraction fraction fs)
      (scale : SpellsExponent exponent e) :
      SpellsUnsigned negative (whole ++ (fraction ++ exponent)) ⟨negative, whole, fs, e⟩

/-! ## String literals -/

/-- A part of a literal: a character, or a code unit that is given by its number. -/
inductive LiteralPart where
  | char (c : Char)
  | unit (n : Nat)

/-- How a part is spelled. -/
inductive SpellsPart : List Char → LiteralPart → Prop
  | itself {c : Char} (mark : c ≠ '"') (backslash : c ≠ '\\') (visible : 0x20 ≤ c.toNat) :
      SpellsPart [c] (.char c)
  | escape {e c : Char} (stands : plainEscape? e = some c) : SpellsPart ['\\', e] (.char c)
  | unit {a b c d : Char} {n : Nat} (quad : hexQuad? a b c d = some n) :
      SpellsPart ['\\', 'u', a, b, c, d] (.unit n)

/-- How the parts of a literal are spelled. -/
inductive SpellsParts : List Char → List LiteralPart → Prop
  | nil : SpellsParts [] []
  | cons {first rest : List Char} {p : LiteralPart} {ps : List LiteralPart}
      (part : SpellsPart first p) (parts : SpellsParts rest ps) :
      SpellsParts (first ++ rest) (p :: ps)

/-- The characters that parts stand for, if surrogates come in pairs. -/
def joinParts? : List LiteralPart → Option (List Char)
  | [] => some []
  | .char c :: ps => (joinParts? ps).map (c :: ·)
  | .unit n :: .unit m :: ps =>
    if isTrailing n then none
    else if isLeading n then
      if isTrailing m then (joinParts? ps).map (pairChar n m :: ·) else none
    else (joinParts? (.unit m :: ps)).map (Char.ofNat n :: ·)
  | .unit n :: ps =>
    if isTrailing n || isLeading n then none else (joinParts? ps).map (Char.ofNat n :: ·)

/-- A literal between its marks, and the string that it stands for. -/
inductive SpellsLiteral : List Char → Option String → Prop
  | mk {body : List Char} {ps : List LiteralPart} (parts : SpellsParts body ps) :
      SpellsLiteral body ((joinParts? ps).map String.ofList)

/-! ## Values -/

mutual

/-- A text spells a tree, from its first character to its last. -/
inductive Spells : List Char → Tree → Prop
  | null : Spells ['n', 'u', 'l', 'l'] .null
  | yes : Spells ['t', 'r', 'u', 'e'] (.bool true)
  | no : Spells ['f', 'a', 'l', 's', 'e'] (.bool false)
  | number {cs : List Char} {n : Numeral} (plain : SpellsUnsigned false cs n) :
      Spells cs (.number n)
  | negative {cs : List Char} {n : Numeral} (signed : SpellsUnsigned true cs n) :
      Spells ('-' :: cs) (.number n)
  | string {body : List Char} {s : Option String} (literal : SpellsLiteral body s) :
      Spells ('"' :: (body ++ ['"'])) (.string s)
  | emptyArray {ws : List Char} (blank : Blank ws) : Spells ('[' :: (ws ++ [']'])) (.array [])
  | array {ws cs : List Char} {ts : List Tree} (blank : Blank ws) (items : SpellsItems cs ts) :
      Spells ('[' :: (ws ++ (cs ++ [']']))) (.array ts)
  | emptyObject {ws : List Char} (blank : Blank ws) :
      Spells ('\x7b' :: (ws ++ ['\x7d'])) (.object [])
  | object {ws cs : List Char} {ms : List (Option String × Tree)} (blank : Blank ws)
      (members : SpellsMembers cs ms) : Spells ('\x7b' :: (ws ++ (cs ++ ['\x7d']))) (.object ms)

/-- The items of an array, with commas between them, and blanks behind each and before the next. -/
inductive SpellsItems : List Char → List Tree → Prop
  | one {cs ws : List Char} {t : Tree} (item : Spells cs t) (blank : Blank ws) :
      SpellsItems (cs ++ ws) [t]
  | more {cs ws ws' rest : List Char} {t : Tree} {ts : List Tree} (item : Spells cs t)
      (blank : Blank ws) (blank' : Blank ws') (items : SpellsItems rest ts) :
      SpellsItems (cs ++ (ws ++ ',' :: (ws' ++ rest))) (t :: ts)

/-- The members of an object, likewise. -/
inductive SpellsMembers : List Char → List (Option String × Tree) → Prop
  | one {cs ws : List Char} {m : Option String × Tree} (member : SpellsMember cs m)
      (blank : Blank ws) : SpellsMembers (cs ++ ws) [m]
  | more {cs ws ws' rest : List Char} {m : Option String × Tree}
      {ms : List (Option String × Tree)} (member : SpellsMember cs m) (blank : Blank ws)
      (blank' : Blank ws') (members : SpellsMembers rest ms) :
      SpellsMembers (cs ++ (ws ++ ',' :: (ws' ++ rest))) (m :: ms)

/-- A name, a colon with blanks around it, and a value. -/
inductive SpellsMember : List Char → Option String × Tree → Prop
  | mk {body ws ws' cs : List Char} {name : Option String} {t : Tree}
      (literal : SpellsLiteral body name) (blank : Blank ws) (blank' : Blank ws')
      (value : Spells cs t) :
      SpellsMember ('"' :: (body ++ '"' :: (ws ++ ':' :: (ws' ++ cs)))) (name, t)

end

/-- A text spells a tree, with blanks around it or without. -/
inductive SpellsText : List Char → Tree → Prop
  | mk {ws cs ws' : List Char} {t : Tree} (blank : Blank ws) (value : Spells cs t)
      (blank' : Blank ws') : SpellsText (ws ++ (cs ++ ws')) t

end KeyedLocks.Json
