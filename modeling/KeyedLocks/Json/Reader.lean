/-
From characters to a reading.

The reader goes over the characters once. Where it meets something that cannot
stand there it leaves a fault in that place and reads no further: whoever walks
over the reading stops at the fault too, so what would come after it is never
asked for.
-/
import KeyedLocks.Json.Reading

set_option autoImplicit false

namespace KeyedLocks.Json

/-! ## Blanks and words -/

/-- The blanks between the parts of a text. -/
def isSpace (c : Char) : Bool := c == ' ' || c == '\n' || c == '\t' || c == '\r'

/-- The text after its leading blanks. -/
def skipSpace (cs : List Char) : List Char := cs.dropWhile isSpace

@[simp] theorem skipSpace_nil : skipSpace [] = [] := rfl

theorem skipSpace_cons_of_not (c : Char) (cs : List Char) (h : isSpace c = false) :
    skipSpace (c :: cs) = c :: cs := by
  simp [skipSpace, h]

/-- The rest of a text after the rest of a word. -/
def afterWord : List Char → List Char → Except Fault (List Char)
  | [], rest => .ok rest
  | _ :: _, [] => .error .eof
  | w :: ws, c :: rest => if w = c then afterWord ws rest else .error .malformed

@[simp] theorem afterWord_append (ws rest : List Char) : afterWord ws (ws ++ rest) = .ok rest := by
  induction ws with
  | nil => rfl
  | cons w ws ih => simp [afterWord, ih]

/-! ## Numerals -/

/-- Whether a character is a decimal digit. -/
def isDigit (c : Char) : Bool := '0' ≤ c && c ≤ '9'

/-- The leading digits of a text, and the rest. -/
def digits (cs : List Char) : List Char × List Char := (cs.takeWhile isDigit, cs.dropWhile isDigit)

/-- A part of a text that still wants a digit: cut off at its end, malformed
anywhere else. -/
def wantsDigit : List Char → Reading
  | [] => .cutNumber
  | _ :: _ => .broken .malformed

/-- The exponent of a numeral, after its letter. -/
def readExponent (n : Numeral) (cs : List Char) : Reading × List Char :=
  let (negative, cs) :=
    match cs with
    | '+' :: rest => (false, rest)
    | '-' :: rest => (true, rest)
    | _ => (false, cs)
  match digits cs with
  | ([], rest) => (wantsDigit rest, [])
  | (ds, rest) => (.number { n with exponent := some (negative, ds) }, rest)

/-- What may follow the digits of a numeral: an exponent. -/
def readScale (n : Numeral) : List Char → Reading × List Char
  | 'e' :: rest => readExponent n rest
  | 'E' :: rest => readExponent n rest
  | rest => (.number n, rest)

/-- What may follow the whole part of a numeral: a fraction, then an exponent. -/
def readFraction (n : Numeral) : List Char → Reading × List Char
  | '.' :: rest =>
    match digits rest with
    | ([], rest) => (wantsDigit rest, [])
    | (ds, rest) => readScale { n with fraction := ds } rest
  | rest => readScale n rest

/-- A numeral after its sign. A zero in front of further digits is malformed. -/
def readNumeral (negative : Bool) (cs : List Char) : Reading × List Char :=
  match digits cs with
  | ([], rest) => (wantsDigit rest, [])
  | (['0'], rest) => readFraction ⟨negative, ['0'], [], none⟩ rest
  -- A zero in front says that the whole part is zero, so no digit may follow.
  | ('0' :: _ :: _, _) => (.broken .malformed, [])
  | (ds, rest) => readFraction ⟨negative, ds, [], none⟩ rest

/-! ## String literals -/

/-- The value of four hexadecimal digits. -/
def hexQuad? (a b c d : Char) : Option Nat :=
  match Text.hexValue? a, Text.hexValue? b, Text.hexValue? c, Text.hexValue? d with
  | some a, some b, some c, some d => some (((a * 16 + b) * 16 + c) * 16 + d)
  | _, _, _, _ => none

/-- The fault of a text that is too short for four digits. It counts as ended if
fewer than four bytes are left. -/
def shortQuad (cs : List Char) : Fault :=
  if (String.ofList cs).utf8ByteSize < 4 then .eof else .malformed

/-- The character that a one-letter escape stands for. -/
def plainEscape? : Char → Option Char
  | '"' => some '"'
  | '\\' => some '\\'
  | '/' => some '/'
  | 'b' => some '\x08'
  | 'f' => some '\x0c'
  | 'n' => some '\n'
  | 'r' => some '\r'
  | 't' => some '\t'
  | _ => none

/-- The first of two code units that stand for one character. -/
def isLeading (n : Nat) : Bool := 0xD800 ≤ n && n ≤ 0xDBFF

/-- The second of two code units that stand for one character. -/
def isTrailing (n : Nat) : Bool := 0xDC00 ≤ n && n ≤ 0xDFFF

/-- The character of two code units. -/
def pairChar (n m : Nat) : Char := Char.ofNat (0x10000 + (n - 0xD800) * 0x400 + (m - 0xDC00))

/-- The fault of a text that should go on with an escaped second code unit. -/
def unpaired : List Char → Fault
  | [] => .eof
  | ['\\'] => .eof
  | '\\' :: 'u' :: rest => if rest.length < 4 then shortQuad rest else .malformed
  | _ => .malformed

/-- Puts a character in front of what is read after it. -/
def withChar (c : Char) (r : Except Fault (List Char × List Char)) :
    Except Fault (List Char × List Char) :=
  r.map fun (cs, rest) => (c :: cs, rest)

/-- The characters of a string literal after its quotation mark, and the rest. -/
def readString : List Char → Except Fault (List Char × List Char)
  | [] => .error .eof
  | '"' :: rest => .ok ([], rest)
  | '\\' :: 'u' :: a :: b :: c :: d :: rest =>
    match hexQuad? a b c d with
    | none => .error .malformed
    | some n =>
      -- The second of two code units cannot stand alone.
      if isTrailing n then .error .malformed
      else if isLeading n then
        match rest with
        | '\\' :: 'u' :: e :: f :: g :: h :: rest =>
          match hexQuad? e f g h with
          | none => .error .malformed
          | some m =>
            -- The first of two was read, and only the second of two can complete it.
            if isTrailing m then withChar (pairChar n m) (readString rest) else .error .malformed
        | rest => .error (unpaired rest)
      else withChar (Char.ofNat n) (readString rest)
  | '\\' :: 'u' :: rest => .error (shortQuad rest)
  | ['\\'] => .error .eof
  | '\\' :: c :: rest =>
    match plainEscape? c with
    | none => .error .malformed
    | some c => withChar c (readString rest)
  | c :: rest => if c.toNat < 0x20 then .error .malformed else withChar c (readString rest)

/-- The rest after a string literal that is only passed over: escapes are looked
at one by one. -/
def skipString : List Char → Except Fault (List Char)
  | [] => .error .eof
  | '"' :: rest => .ok rest
  | '\\' :: 'u' :: a :: b :: c :: d :: rest =>
    match hexQuad? a b c d with
    | none => .error .malformed
    -- Code units are not paired here: nobody asks for the characters of what is passed over.
    | some _ => skipString rest
  | '\\' :: 'u' :: rest => .error (shortQuad rest)
  | ['\\'] => .error .eof
  | '\\' :: c :: rest =>
    match plainEscape? c with
    | none => .error .malformed
    | some _ => skipString rest
  | c :: rest => if c.toNat < 0x20 then .error .malformed else skipString rest

/-- A string literal after its quotation mark, and the rest. -/
def readLiteral (cs : List Char) : Literal × List Char :=
  match readString cs with
  | .ok (s, rest) => (.whole (String.ofList s), rest)
  | .error f =>
    -- The fault counts only for whoever wants the characters, if the string can be passed over.
    match skipString cs with
    | .ok rest => (.faulty f none, rest)
    | .error g => (.faulty f (some g), [])

/-! ## Values -/

/-- A word after its first letter. -/
def readWord (word : List Char) (v : Reading) (cs : List Char) : Reading × List Char :=
  match afterWord word cs with
  | .ok rest => (v, rest)
  | .error .eof => (.cutWord, [])
  | .error .malformed => (.broken .malformed, [])

mutual

/-- A value, after any blanks, and the rest of the text. Each step down or along
takes at least one character, so the number of characters bounds the steps. -/
def readValue : Nat → List Char → Reading × List Char
  | 0, _ => (.broken .eof, [])
  | steps + 1, cs =>
    match skipSpace cs with
    | [] => (.broken .eof, [])
    | 'n' :: rest => readWord ['u', 'l', 'l'] .null rest
    | 't' :: rest => readWord ['r', 'u', 'e'] (.bool true) rest
    | 'f' :: rest => readWord ['a', 'l', 's', 'e'] (.bool false) rest
    | '-' :: rest => readNumeral true rest
    | '"' :: rest =>
      let (s, rest) := readLiteral rest
      (.string s, rest)
    -- Only an empty array may close right behind its bracket.
    | '[' :: rest =>
      match skipSpace rest with
      | [] => (.array (.stop .eof), [])
      | ']' :: rest => (.array .closed, rest)
      | rest =>
        let (items, rest) := readItems steps rest
        (.array items, rest)
    | '\x7b' :: rest =>
      match skipSpace rest with
      | [] => (.object (.stop .eof), [])
      | '\x7d' :: rest => (.object .closed, rest)
      | '"' :: rest =>
        let (members, rest) := readMembers steps rest
        (.object members, rest)
      | _ => (.object (.stop .malformed), [])
    | c :: rest =>
      if isDigit c then readNumeral false (c :: rest) else (.broken .malformed, [])

/-- An item and the items after it. -/
def readItems : Nat → List Char → Items × List Char
  | 0, _ => (.stop .eof, [])
  | steps + 1, cs =>
    let (v, rest) := readValue steps cs
    match skipSpace rest with
    | [] => (.item v (.stop .eof), [])
    | ']' :: rest => (.item v .closed, rest)
    | ',' :: rest =>
      match skipSpace rest with
      | [] => (.item v (.item (.broken .eof) .closed), [])
      -- A comma promises one more item.
      | ']' :: _ => (.item v (.item (.broken .malformed) .closed), [])
      | rest =>
        let (items, rest) := readItems steps rest
        (.item v items, rest)
    | _ => (.item v (.stop .malformed), [])

/-- A member whose quotation mark is read already, and the members after it. -/
def readMembers : Nat → List Char → Members × List Char
  | 0, _ => (.stop .eof, [])
  | steps + 1, cs =>
    let (key, rest) := readLiteral cs
    match skipSpace rest with
    | [] => (.member key (.broken .eof) .closed, [])
    | ':' :: rest =>
      let (v, rest) := readValue steps rest
      match skipSpace rest with
      | [] => (.member key v (.stop .eof), [])
      | '\x7d' :: rest => (.member key v .closed, rest)
      | ',' :: rest =>
        match skipSpace rest with
        -- A comma promises one more member, with a name in quotation marks.
        | [] => (.member key v (brokenMember .eof), [])
        | '"' :: rest =>
          let (members, rest) := readMembers steps rest
          (.member key v members, rest)
        | _ => (.member key v (brokenMember .malformed), [])
      | _ => (.member key v (.stop .malformed), [])
    | _ => (.member key (.broken .malformed) .closed, [])

/-- A member that breaks off before its key. -/
def brokenMember (f : Fault) : Members := .member (.faulty f (some f)) (.broken f) .closed

end

/-- A text as a reading and what stands behind it: nothing but blanks if the text
is one value. -/
def readText (cs : List Char) : Reading × List Char :=
  let (v, rest) := readValue (2 * cs.length + 2) cs
  (v, skipSpace rest)

end KeyedLocks.Json
