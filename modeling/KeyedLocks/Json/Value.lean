/-
JSON values, and how they are written.

An object is a list of members, so that the order in which a record names its
fields is the order in which they are written. There are two layouts: `compact`
without any blank, which is what goes over the wire, and `pretty` with one item a
line and two blanks for each level, which is what a person sees.
-/
import KeyedLocks.Text.Quoted
import KeyedLocks.Json.Numeral

set_option autoImplicit false

namespace KeyedLocks.Json

/-- A JSON value. -/
inductive Value where
  | null
  | bool (b : Bool)
  | number (n : Numeral)
  | string (s : String)
  | array (items : List Value)
  | object (members : List (String × Value))

namespace Value

/-- A natural number as a value. -/
def nat (n : Nat) : Value := .number (.ofNat n)

/-- An integer as a value. -/
def int (i : Int) : Value := .number (.ofInt i)

/-- The value of an optional part: null where there is none. -/
def ofOption {α : Type} (f : α → Value) : Option α → Value
  | none => .null
  | some a => f a

end Value

/-! ## Strings -/

/-- One character inside a string literal. Only quotation marks, backslashes and
control characters are escaped. -/
def escapeChar (c : Char) : List Char :=
  match c with
  | '"' => ['\\', '"']
  | '\\' => ['\\', '\\']
  | '\x08' => ['\\', 'b']
  | '\x0c' => ['\\', 'f']
  | '\n' => ['\\', 'n']
  | '\r' => ['\\', 'r']
  | '\t' => ['\\', 't']
  | c =>
    if c.toNat < 0x20 then
      ['\\', 'u', '0', '0', Text.hexDigit (c.toNat / 16), Text.hexDigit (c.toNat % 16)]
    else [c]

/-- The characters of a string literal. -/
def stringChars (s : String) : List Char :=
  '"' :: s.toList.flatMap escapeChar ++ ['"']

/-! ## The compact layout -/

mutual

/-- A value without blanks. -/
def Value.chars : Value → List Char
  | .null => ['n', 'u', 'l', 'l']
  | .bool true => ['t', 'r', 'u', 'e']
  | .bool false => ['f', 'a', 'l', 's', 'e']
  | .number n => n.chars
  | .string s => stringChars s
  | .array items => '[' :: itemChars items
  | .object members => '\x7b' :: memberChars members

/-- The items of an array and its closing bracket. -/
def itemChars : List Value → List Char
  | [] => [']']
  | v :: rest => v.chars ++ moreItemChars rest

/-- What follows an item. -/
def moreItemChars : List Value → List Char
  | [] => [']']
  | v :: rest => ',' :: v.chars ++ moreItemChars rest

/-- The members of an object and its closing brace. -/
def memberChars : List (String × Value) → List Char
  | [] => ['\x7d']
  | (k, v) :: rest => stringChars k ++ ':' :: v.chars ++ moreMemberChars rest

/-- What follows a member. -/
def moreMemberChars : List (String × Value) → List Char
  | [] => ['\x7d']
  | (k, v) :: rest => ',' :: stringChars k ++ ':' :: v.chars ++ moreMemberChars rest

end

/-- A value as text without blanks. -/
def Value.compact (v : Value) : String := String.ofList v.chars

/-! ## The layout for people -/

/-- A line break and the blanks of a level. -/
def lineBreak (level : Nat) : List Char := '\n' :: List.replicate (2 * level) ' '

mutual

/-- A value laid out at a level. An empty array or object stays on its line. -/
def Value.prettyChars (level : Nat) : Value → List Char
  | .null => ['n', 'u', 'l', 'l']
  | .bool true => ['t', 'r', 'u', 'e']
  | .bool false => ['f', 'a', 'l', 's', 'e']
  | .number n => n.chars
  | .string s => stringChars s
  | .array [] => ['[', ']']
  | .array (v :: rest) =>
    '[' :: lineBreak (level + 1) ++ v.prettyChars (level + 1) ++ prettyItems level rest
  | .object [] => ['\x7b', '\x7d']
  | .object ((k, v) :: rest) =>
    '\x7b' :: lineBreak (level + 1) ++ stringChars k ++ [':', ' ']
      ++ v.prettyChars (level + 1) ++ prettyMembers level rest

/-- The items after the first, one a line. -/
def prettyItems (level : Nat) : List Value → List Char
  | [] => lineBreak level ++ [']']
  | v :: rest =>
    ',' :: lineBreak (level + 1) ++ v.prettyChars (level + 1) ++ prettyItems level rest

/-- The members after the first, one a line. -/
def prettyMembers (level : Nat) : List (String × Value) → List Char
  | [] => lineBreak level ++ ['\x7d']
  | (k, v) :: rest =>
    ',' :: lineBreak (level + 1) ++ stringChars k ++ [':', ' ']
      ++ v.prettyChars (level + 1) ++ prettyMembers level rest

end

/-- A value as text with one item a line. -/
def Value.pretty (v : Value) : String := String.ofList (v.prettyChars 0)

/-! ## What one piece is -/

@[simp] theorem itemChars_nil : itemChars [] = [']'] := by simp [itemChars]

@[simp] theorem memberChars_nil : memberChars [] = ['\x7d'] := by simp [memberChars]

end KeyedLocks.Json
