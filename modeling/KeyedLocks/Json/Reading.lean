/-
What a text says as JSON, faults included.

A record is refused at the first thing that is wrong with its text, and a wrong
type may stand before a broken spot or after it. So a text is first read into a
`Reading`: the shape of the value as far as it goes, with the fault at the place
where it stands. Whoever wants a record of a certain type then walks over the
reading in the order of the text and meets a wrong type or a fault, whichever
comes first.

A part that nobody asks for is passed over, and passing over is more lenient than
reading: it does not ask whether surrogates are paired in a string or whether a
number fits a double, and it may go to any depth. A string therefore carries two
verdicts, and a numeral or a word that breaks off is kept apart from other faults.
-/
import KeyedLocks.Json.Value
import KeyedLocks.Json.Double

set_option autoImplicit false

namespace KeyedLocks.Json

/-! ## The shape -/

/-- The two ways in which a text can fail to be JSON: it ends too early, or
something in it has no place there. -/
inductive Fault where
  | eof
  | malformed
  deriving DecidableEq, Repr

/-- A string literal. A faulty one has the fault that reading it meets, and the
fault that passing over it meets, if any. -/
inductive Literal where
  | whole (s : String)
  | faulty (read : Fault) (skip : Option Fault)
  deriving DecidableEq, Repr

mutual

/-- A value as it stands in a text. `cutNumber` is a numeral at the end of the
text that still wants a digit, and `cutWord` the beginning of a word there. -/
inductive Reading where
  | null
  | bool (b : Bool)
  | number (n : Numeral)
  | cutNumber
  | cutWord
  | string (s : Literal)
  | array (items : Items)
  | object (members : Members)
  | broken (f : Fault)

/-- The items of an array, up to the closing bracket or to a fault that stands
where a comma or the bracket should. After a comma there is always an item. -/
inductive Items where
  | closed
  | stop (f : Fault)
  | item (v : Reading) (rest : Items)

/-- The members of an object, up to the closing brace or to a fault that stands
where a comma or the brace should. After a comma there is always a member. -/
inductive Members where
  | closed
  | stop (f : Fault)
  | member (key : Literal) (value : Reading) (rest : Members)

end

/-! ## Faults -/

/-- The fault that reading a string literal meets. -/
def Literal.read : Literal → Except Fault String
  | .whole s => .ok s
  | .faulty f _ => .error f

/-- The fault that passing over a string literal meets. -/
def Literal.skip : Literal → Except Fault Unit
  | .whole _ => .ok ()
  | .faulty _ none => .ok ()
  | .faulty _ (some f) => .error f

/-- The end of an array whose items are all taken. -/
def Items.close : Items → Except Fault Unit
  | .closed => .ok ()
  | .stop f => .error f
  | .item .. => .error .malformed

/-- The end of an object whose members are all taken. -/
def Members.close : Members → Except Fault Unit
  | .closed => .ok ()
  | .stop f => .error f
  | .member .. => .error .malformed

/-! ## Passing over -/

mutual

/-- The first fault that passing over a value meets. -/
def Reading.skip : Reading → Except Fault Unit
  | .null => .ok ()
  | .bool _ => .ok ()
  | .number _ => .ok ()
  | .cutNumber => .error .malformed
  | .cutWord => .error .eof
  | .string s => s.skip
  | .array items => items.skip
  | .object members => members.skip
  | .broken f => .error f

/-- The first fault that passing over the items of an array meets. -/
def Items.skip : Items → Except Fault Unit
  | .closed => .ok ()
  | .stop f => .error f
  | .item v rest =>
    match v.skip with
    | .error f => .error f
    | .ok () => rest.skip

/-- The first fault that passing over the members of an object meets. -/
def Members.skip : Members → Except Fault Unit
  | .closed => .ok ()
  | .stop f => .error f
  | .member key v rest =>
    match key.skip with
    | .error f => .error f
    | .ok () =>
      match v.skip with
      | .error f => .error f
      | .ok () => rest.skip

end

/-! ## Reading in full -/

mutual

/-- The first fault that reading a value in full meets, where at most `depth`
arrays and objects may stand inside one another. -/
def Reading.check (depth : Nat) : Reading → Except Fault Unit
  | .null => .ok ()
  | .bool _ => .ok ()
  | .number n => if n.isNumber then .ok () else .error .malformed
  | .cutNumber => .error .eof
  | .cutWord => .error .eof
  | .string s => s.read.map fun _ => ()
  | .array items =>
    match depth with
    | 0 => .error .malformed
    | d + 1 => items.check d
  | .object members =>
    match depth with
    | 0 => .error .malformed
    | d + 1 => members.check d
  | .broken f => .error f

/-- The first fault that reading the items of an array in full meets. -/
def Items.check (depth : Nat) : Items → Except Fault Unit
  | .closed => .ok ()
  | .stop f => .error f
  | .item v rest =>
    match v.check depth with
    | .error f => .error f
    | .ok () => rest.check depth

/-- The first fault that reading the members of an object in full meets. -/
def Members.check (depth : Nat) : Members → Except Fault Unit
  | .closed => .ok ()
  | .stop f => .error f
  | .member key v rest =>
    match key.read with
    | .error f => .error f
    | .ok _ =>
      match v.check depth with
      | .error f => .error f
      | .ok () => rest.check depth

end

/-- How many arrays and objects a text may hold inside one another where it is
read in full. -/
def depthLimit : Nat := 127

/-! ## The value it stands for -/

mutual

/-- The value that a reading stands for, if no part of it is faulty. -/
def Reading.value? : Reading → Option Value
  | .null => some .null
  | .bool b => some (.bool b)
  | .number n => some (.number n)
  | .cutNumber => none
  | .cutWord => none
  | .string s => s.read.toOption.map .string
  | .array items => items.values?.map .array
  | .object members => members.values?.map .object
  | .broken _ => none

/-- The values of the items of an array. -/
def Items.values? : Items → Option (List Value)
  | .closed => some []
  | .stop _ => none
  | .item v rest =>
    match v.value?, rest.values? with
    | some x, some xs => some (x :: xs)
    | _, _ => none

/-- The names and values of the members of an object. -/
def Members.values? : Members → Option (List (String × Value))
  | .closed => some []
  | .stop _ => none
  | .member key v rest =>
    match key.read, v.value?, rest.values? with
    | .ok k, some x, some xs => some ((k, x) :: xs)
    | _, _, _ => none

end

end KeyedLocks.Json
