/-
From a reading to a record.

Everything here walks over a reading in the order of the text and stops at the
first thing that is wrong, be it a fault or a misfit. A record is written as an
object with its fields by name, or as an array of all its fields in order.
Members with other names are passed over.
-/
import KeyedLocks.Json.Reader
import KeyedLocks.Json.Refusal

set_option autoImplicit false

namespace KeyedLocks.Json

/-- What comes of asking a text for a record. -/
abbrev Decoded (α : Type) : Type := Except Refusal α

/-- A fault refuses the whole text. -/
def ofFault {α : Type} : Except Fault α → Decoded α
  | .ok a => .ok a
  | .error f => .error (.fault f)

/-- Decoding a part, seen from the whole. -/
def Decoded.under {α : Type} (s : Segment) : Decoded α → Decoded α
  | .ok a => .ok a
  | .error r => .error (r.under s)

/-! ## Plain values -/

/-- What a value looks like from outside. Of an array or an object only the
bracket is seen. -/
def Reading.shape : Reading → Except Fault Shape
  | .null => .ok .null
  | .bool b => .ok (.bool b)
  | .number n =>
    match n.integer? with
    | some i => .ok (.integer i)
    | none => if n.isFinite then .ok .floating else .error .malformed
  | .cutNumber => .error .eof
  | .cutWord => .error .eof
  | .string s => s.read.map .string
  | .array _ => .ok .sequence
  | .object _ => .ok .map
  | .broken f => .error f

/-- A value of a wrong type. -/
def wrongType {α : Type} (wanted : String) (r : Reading) : Decoded α :=
  match r.shape with
  | .ok found => .error (.here (.wrongType found wanted))
  | .error f => .error (.fault f)

/-- A string. -/
def decodeString : Reading → Decoded String
  | .string s => ofFault s.read
  | r => wrongType "a string" r

/-- A truth value. -/
def decodeBool : Reading → Decoded Bool
  | .bool b => .ok b
  | r => wrongType "a boolean" r

/-- An integer of a type. A numeral with a point or an exponent is none, nor is
one beyond the words of 64 bits. -/
def decodeInteger (t : IntegerType) (r : Reading) : Decoded Int :=
  match r with
  | .number n =>
    match n.integer? with
    | some i =>
      if t.bounds.contains i then .ok i else .error (.here (.outOfRange i t.name))
    | none => wrongType t.name r
  | _ => wrongType t.name r

/-- A part that may be null. -/
def decodeOption {α : Type} (f : Reading → Decoded α) : Reading → Decoded (Option α)
  | .null => .ok none
  | r => (f r).map some

/-! ## Choices -/

/-- The variant that a name stands for. -/
def variantOf {α : Type} (variants : List (String × α)) (name : String) : Decoded α :=
  match variants.lookup name with
  | some a => .ok a
  | none => .error (.here (.unknownVariant name (variants.map Prod.fst)))

/-- A choice between names: the name alone, or an object of one member with the
name and null. Anything else is malformed here by its first character, so a text
that ends inside it does not count as ended. An object whose first name is no
string is one of these: the name is read as a string before anyone asks which
variant it stands for, and what has no quotation mark in that place is no JSON. -/
def decodeChoice {α : Type} (variants : List (String × α)) : Reading → Decoded α
  | .string s =>
    match s.read with
    | .ok name => variantOf variants name
    | .error f => .error (.fault f)
  | .object (.member key v rest) =>
    match key.read with
    | .error f => .error (.fault f)
    | .ok name =>
      match variantOf variants name with
      | .error r => .error r
      | .ok a =>
        match v with
        | .null => ofFault (rest.close.map fun () => a)
        | v => Decoded.under (.field name) (wrongType "unit" v)
  | .object .closed => .error (.fault .malformed)
  -- The reader has stopped at the name, so the fault is one of the text and not of the choice.
  | .object (.stop f) => .error (.fault f)
  | .broken f => .error (.fault f)
  | _ => .error (.fault .malformed)

/-! ## Sequences -/

/-- The items of an array, each decoded in turn. -/
def decodeItems {α : Type} (f : Reading → Decoded α) (position : Nat) : Items → Decoded (List α)
  | .closed => .ok []
  | .stop g => .error (.fault g)
  | .item v rest =>
    match Decoded.under (.index position) (f v) with
    | .error r => .error r
    | .ok a => (decodeItems f (position + 1) rest).map (a :: ·)

/-- A list. -/
def decodeList {α : Type} (f : Reading → Decoded α) : Reading → Decoded (List α)
  | .array items => decodeItems f 0 items
  | r => wrongType "a sequence" r

/-! ## Records -/

/-- How a record is read: its name in messages, its fields in order, and a draft
that takes the fields one by one and is finished when all are in. `other` says
what becomes of a member of another name; it is passed over unless a record says
otherwise. `finish` reports the first field that a draft still wants. -/
structure RecordForm (δ α : Type) where
  name : String
  fields : List String
  empty : δ
  put : String → Reading → δ → Decoded δ
  other : String → Reading → δ → Decoded δ := fun _ v d => ofFault (v.skip.map fun () => d)
  finish : δ → Decoded α

namespace RecordForm

variable {δ α : Type}

/-- A field taken into a draft. -/
def take (form : RecordForm δ α) (field : String) (v : Reading) (d : δ) : Decoded δ :=
  Decoded.under (.field field) (form.put field v d)

/-- The members of an object, taken in the order of the text. A field that comes
twice is refused before its value is looked at. -/
def readMembers (form : RecordForm δ α) (seen : List String) (d : δ) : Members → Decoded δ
  | .closed => .ok d
  | .stop f => .error (.fault f)
  | .member key v rest =>
    match key.read with
    | .error f => .error (.fault f)
    | .ok name =>
      if name ∈ form.fields then
        if name ∈ seen then .error (.here (.duplicate name))
        else
          match form.take name v d with
          | .error r => .error r
          | .ok d => readMembers form (name :: seen) d rest
      else
        match form.other name v d with
        | .error r => .error r
        | .ok d => readMembers form seen d rest

/-- Members that were set aside earlier, taken in order. They belong to the record
around this one, so no path leads to them; other names are left alone. -/
def readAside (form : RecordForm δ α) (seen : List String) (d : δ) :
    List (String × Reading) → Decoded δ
  | [] => .ok d
  | (name, v) :: rest =>
    if name ∈ form.fields then
      if name ∈ seen then .error (.here (.duplicate name))
      else
        match form.put name v d with
        | .error r => .error r
        | .ok d => readAside form (name :: seen) d rest
    else readAside form seen d rest

/-- The items of an array, taken as the fields in order. -/
def readItems (form : RecordForm δ α) (position : Nat) (d : δ) :
    List String → Items → Decoded (δ × Items)
  | [], items => .ok (d, items)
  | _ :: _, .closed =>
    .error (.here (.wrongLength position form.name form.fields.length))
  | _ :: _, .stop f => .error (.fault f)
  | field :: fields, .item v rest =>
    match Decoded.under (.index position) (form.put field v d) with
    | .error r => .error r
    | .ok d => readItems form (position + 1) d fields rest

/-- The members of an object as a finished record. -/
def decodeMembers (form : RecordForm δ α) (members : Members) : Decoded α :=
  match form.readMembers [] form.empty members with
  | .error r => .error r
  | .ok d => form.finish d

/-- A record. -/
def decode (form : RecordForm δ α) : Reading → Decoded α
  | .object members => form.decodeMembers members
  | .array items =>
    match form.readItems 0 form.empty form.fields items with
    | .error r => .error r
    | .ok (d, rest) =>
      match form.finish d with
      | .error r => .error r
      | .ok a => ofFault (rest.close.map fun () => a)
  | r => wrongType ("struct " ++ form.name) r

end RecordForm

/-- A field that a draft still wants. -/
def wanted {α : Type} (field : String) : Option α → Decoded α
  | some a => .ok a
  | none => .error (.here (.missing field))

/-! ## Whole texts -/

/-- A text that is one value, with nothing but blanks around it. What is wrong with
the value comes before what stands behind it. -/
def decodeText {α : Type} (f : Reading → Decoded α) (cs : List Char) : Decoded α :=
  match readText cs with
  | (r, rest) =>
    match f r with
    | .error e => .error e
    | .ok a => if rest.isEmpty then .ok a else .error (.fault .malformed)

/-- The value of a text, if it is JSON. -/
def parseValue (cs : List Char) : Option Value :=
  match readText cs with
  | (r, []) => r.value?
  | (_, _ :: _) => none

end KeyedLocks.Json
