/-
Media types, as the header `Content-Type` gives them.

A media type is a type, a slash and a subtype, and then parameters behind
semicolons. The part of the subtype behind its last plus sign is its suffix.
Letters count without regard to case. Blanks may stand in front of a parameter
and behind a quoted value, and nowhere else.
-/
set_option autoImplicit false

namespace KeyedLocks.Http

/-! ## Characters -/

/-- A character that names and plain values are made of. -/
def isToken (c : Char) : Bool :=
  c.isAlphanum || "!#$%&'*+-.^_`|~".toList.contains c

/-- A character that can stand in a quoted value. -/
def isQuotable (c : Char) : Bool := 0x20 ≤ c.toNat && c.toNat < 0x7F

/-! ## Parameters -/

/-- The rest after a quoted value: blanks, then a semicolon or the end. -/
def afterQuoted : List Char → Option (List Char)
  | [] => some []
  | ';' :: rest => some rest
  | ' ' :: rest => afterQuoted rest
  | _ :: _ => none

/-- The rest after a quoted value whose opening mark is read. A mark that comes
first belongs to the value. -/
def skipQuoted (first : Bool) : List Char → Option (List Char)
  | [] => none
  | c :: rest =>
    if c == '"' && !first then afterQuoted rest
    else if isQuotable c then skipQuoted false rest
    else none

/-- The rest after a value. Only the last value may be empty. -/
def skipValue (first : Bool) : List Char → Option (List Char)
  | [] => some []
  | c :: rest =>
    if c == '"' && first then skipQuoted true rest
    else if isToken c then skipValue false rest
    else if c == ';' && !first then some rest
    else none

/-- The rest after a name and its equals sign. -/
def skipName (first : Bool) : List Char → Option (List Char)
  | [] => none
  | c :: rest =>
    if isToken c then skipName false rest
    else if c == '=' && !first then some rest
    else none

/-- Whether a text is a list of parameters. Each takes at least one character, so
the number of characters bounds their number. -/
def areParameters : Nat → List Char → Bool
  | _, [] => true
  | 0, _ :: _ => false
  | n + 1, ' ' :: rest => areParameters n rest
  | n + 1, cs =>
    match (skipName true cs).bind (skipValue true) with
    | none => false
    | some rest => areParameters n rest

/-! ## Types -/

/-- A media type without its parameters, in lower case. -/
structure MediaType where
  type : String
  subtype : String
  suffix : Option String
  deriving DecidableEq, Repr

/-- The part in front of the last plus sign and the part behind it. A plus sign that
comes first does not count. -/
def splitSuffix (cs : List Char) : List Char × Option (List Char) :=
  let behind := (cs.reverse.takeWhile (· != '+')).reverse
  let front := cs.take (cs.length - behind.length - 1)
  if front.isEmpty then (cs, none) else (front, some behind)

/-- A text in lower case. -/
def lowered (cs : List Char) : String := String.ofList (cs.map Char.toLower)

/-- The media type of a header. -/
def MediaType.parse? (s : String) : Option MediaType :=
  let cs := s.toList
  let type := cs.takeWhile isToken
  match cs.dropWhile isToken with
  | '/' :: rest =>
    if type.isEmpty then none
    else
      let subtype := rest.takeWhile isToken
      let (front, suffix) := splitSuffix subtype
      let found := some ⟨lowered type, lowered front, suffix.map lowered⟩
      match rest.dropWhile isToken with
      | [] => found
      | ';' :: rest =>
        if !subtype.isEmpty && areParameters rest.length rest then found else none
      | _ :: _ => none
  | _ => none

/-- Whether a media type is JSON, by its subtype or by its suffix. -/
def MediaType.isJson (m : MediaType) : Bool :=
  m.type == "application" && (m.subtype == "json" || m.suffix == some "json")

/-- Whether a header announces JSON. -/
def announcesJson (header : String) : Bool :=
  match MediaType.parse? header with
  | none => false
  | some m => m.isJson

end KeyedLocks.Http
