/-
Texts quoted for a reader.

A message that names a text it could not use puts it between quotation marks and
writes what would not be seen as an escape: the usual two-character forms for
NUL, tab, carriage return and line feed, a backslash before a backslash or a
quotation mark, and the code point in hexadecimal for every other character that
is not graphic. An apostrophe stands as itself.
-/
import KeyedLocks.Text.Graphic
import KeyedLocks.Text.Hex

set_option autoImplicit false

namespace KeyedLocks.Text

/-! ## Quotation -/

/-- One character of a quoted text. -/
def quoteChar (c : Char) : List Char :=
  match c with
  | '\x00' => ['\\', '0']
  | '\t' => ['\\', 't']
  | '\r' => ['\\', 'r']
  | '\n' => ['\\', 'n']
  | '"' => ['\\', '"']
  | '\\' => ['\\', '\\']
  | c => if isGraphic c then [c] else ['\\', 'u', '\x7b'] ++ hexDigits c.toNat ++ ['\x7d']

/-- The characters of a text between quotation marks. -/
def quoteChars (cs : List Char) : List Char :=
  '"' :: cs.flatMap quoteChar ++ ['"']

/-- A text between quotation marks, with what would not be seen escaped. -/
def quoted (s : String) : String :=
  String.ofList (quoteChars s.toList)

/-! ## Each piece by itself -/

@[simp] theorem quoteChars_nil : quoteChars [] = ['"', '"'] := rfl

/-- Quoting goes character by character, so the inside of a quoted text is the
inside of its two halves in a row. -/
theorem quoteChars_append (a b : List Char) :
    quoteChars (a ++ b) = '"' :: a.flatMap quoteChar ++ (b.flatMap quoteChar ++ ['"']) := by
  simp [quoteChars]

end KeyedLocks.Text
