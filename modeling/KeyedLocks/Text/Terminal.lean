/-
Texts without control sequences.

What goes to a terminal may hold control sequences, and what goes elsewhere should
not. A control sequence starts with an escape and goes on until a character ends
it; which one does depends on the kind of sequence. This module follows a sequence
from character to character and keeps what stands outside.

Of the controls outside sequences only blanks are kept. A blank in the middle of a
short sequence is kept too, and so is the text behind it: the sequence is held up
until the next control and goes on there.
-/
set_option autoImplicit false

namespace KeyedLocks.Text

namespace Terminal

/-! ## Where a text stands -/

/-- How far a control sequence has come. An `intro` is an escape with what follows it
directly, a `control` a sequence with parameters, a `device` one that carries a
string for the device. A `command` string ends with a bell, a `sealed` string with a
terminator of its own. -/
inductive State where
  | ground
  | escape
  | intro
  | controlEntry
  | controlParameters
  | controlTail
  | controlIgnored
  | deviceEntry
  | deviceParameters
  | deviceTail
  | command
  | sealed
  deriving DecidableEq, Repr

/-- What a character means inside a sequence goes by its place in the table of ASCII:
among the marks in front of the digits, among the digits with the two marks behind
them, among the comparison signs, or among the letters. -/
inductive Kind where
  | mark
  | digit
  | comparison
  | letter
  | other
  deriving DecidableEq, Repr

/-- The kind of a character. -/
def Kind.of (c : Char) : Kind :=
  if c.toNat < 0x20 then .other
  else if c.toNat < 0x30 then .mark
  else if c.toNat < 0x3C then .digit
  else if c.toNat < 0x40 then .comparison
  else if c.toNat < 0x7F then .letter
  else .other

/-- Whether a character holds the byte that ends a sealed string. -/
def terminates (c : Char) : Bool := 0x80 ≤ c.toNat && (String.utf8EncodeChar c).contains 0x9C

namespace State

/-- What a character behind an escape starts. -/
def afterEscape : Char → State
  | '[' => controlEntry
  | ']' => command
  | 'P' => deviceEntry
  | 'X' => sealed
  | '^' => sealed
  | '_' => sealed
  | _ => ground

/-- The state behind a character. An escape starts anew from everywhere, and cancelling
or substituting ends every sequence; other controls change nothing but a command. -/
def next (s : State) (c : Char) : State :=
  if c = '\x1b' then escape
  else if c = '\x18' ∨ c = '\x1a' then ground
  else
    match s, Kind.of c with
    | command, _ => if c = '\x07' then ground else command
    | sealed, _ => if terminates c then ground else sealed
    | s, .other => s
    | ground, _ => ground
    | escape, .mark => intro
    | escape, _ => afterEscape c
    | intro, .mark => intro
    | intro, _ => ground
    | controlEntry, .mark => controlTail
    | controlEntry, .letter => ground
    | controlEntry, _ => controlParameters
    | controlParameters, .mark => controlTail
    | controlParameters, .digit => controlParameters
    | controlParameters, .comparison => controlIgnored
    | controlParameters, _ => ground
    | controlTail, .mark => controlTail
    | controlTail, .letter => ground
    | controlTail, _ => controlIgnored
    | controlIgnored, .letter => ground
    | controlIgnored, _ => controlIgnored
    | deviceEntry, .mark => deviceTail
    | deviceEntry, .letter => sealed
    | deviceEntry, _ => deviceParameters
    | deviceParameters, .mark => deviceTail
    | deviceParameters, .digit => deviceParameters
    | deviceParameters, _ => sealed
    | deviceTail, .mark => deviceTail
    | deviceTail, _ => sealed

/-- Whether a blank is kept in the middle of a sequence. -/
def keepsBlanks : State → Bool
  | ground | escape | intro => true
  | controlEntry | controlParameters | controlTail | controlIgnored => true
  | deviceEntry | deviceParameters | deviceTail | command | sealed => false

end State

/-! ## What is kept -/

/-- The blanks among the controls. -/
def isBlankControl (c : Char) : Bool := c == '\t' || c == '\n' || c == '\x0c' || c == '\r'

/-- Whether a character is kept outside sequences. -/
def isKept (c : Char) : Bool :=
  if c.toNat < 0x20 then isBlankControl c else c != '\x7f'

/-- What is kept of a text, from a state on. While `heldUp`, text is kept although a
sequence is not at its end; a character of more than one byte ends that sequence. -/
def keep (s : State) (heldUp : Bool) : List Char → List Char
  | [] => []
  | c :: rest =>
    if s = .ground ∨ heldUp = true then
      if isKept c then c :: keep (if c.toNat < 0x80 then s else .ground) heldUp rest
      else keep (s.next c) false rest
    else if s.keepsBlanks && isBlankControl c then c :: keep s true rest
    else keep (s.next c) false rest

/-- A text without control sequences. -/
def visible (cs : List Char) : List Char := keep .ground false cs

/-! ## What is kept of a text -/

@[simp] theorem visible_nil : visible [] = [] := rfl

/-- **Nothing is added:** what is kept stands in the text in the same order. -/
theorem keep_sublist (s : State) (heldUp : Bool) (cs : List Char) :
    (keep s heldUp cs).Sublist cs := by
  induction cs generalizing s heldUp with
  | nil => simp [keep]
  | cons c rest ih =>
    simp only [keep]
    split
    · split
      · exact (ih _ _).cons_cons c
      · exact (ih _ _).cons c
    · split
      · exact (ih _ _).cons_cons c
      · exact (ih _ _).cons c

/-- **A text without controls is kept whole.** -/
theorem visible_of_all_kept (cs : List Char) (h : ∀ c ∈ cs, isKept c = true) :
    visible cs = cs := by
  suffices all : ∀ heldUp, keep .ground heldUp cs = cs from all false
  induction cs with
  | nil => simp [keep]
  | cons c rest ih =>
    intro heldUp
    have kept : isKept c = true := h c (by simp)
    simp only [keep, true_or, if_true, kept, ite_self]
    rw [ih (fun d hd => h d (by simp [hd]))]

end Terminal

end KeyedLocks.Text
