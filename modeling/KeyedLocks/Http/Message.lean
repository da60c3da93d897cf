/-
HTTP requests and answers, as far as the service looks at them.
-/
import KeyedLocks.Json.Value
import KeyedLocks.Http.Target

set_option autoImplicit false

namespace KeyedLocks.Http

open KeyedLocks.Json

/-! ## Requests -/

/-- A request: its method, its target, its headers, and the bytes of its body. -/
structure Message where
  method : String
  target : String
  headers : List (String × String)
  body : List UInt8

/-- The value of a header, by its name in lower case. -/
def Message.header? (m : Message) (name : String) : Option String :=
  (m.headers.find? fun h => h.1.toList.map Char.toLower == name.toList).map Prod.snd

/-- The path that a request leads to. -/
def Message.path (m : Message) : String := String.ofList (Target.ofText m.target).route

/-! ## Answers -/

/-- The body of an answer. -/
inductive Body where
  | empty
  | json (v : Value)
  | text (s : String)

/-- An answer: its status, its body, and the methods it names as allowed. A
`preflight` answer allows every method from everywhere; an answer to a request for
headers alone leaves its body out. -/
structure Answer where
  status : Nat
  body : Body := .empty
  allow : Option String := none
  preflight : Bool := false
  headersOnly : Bool := false

namespace Answer

/-- The type of the body that an answer announces. -/
def contentType (a : Answer) : Option String :=
  match a.body with
  | .empty => none
  | .json _ => some "application/json"
  | .text _ => some "text/plain; charset=utf-8"

/-- The headers of an answer. Every origin may read every answer. -/
def headers (a : Answer) : List (String × String) :=
  (match a.contentType with
    | none => []
    | some type => [("content-type", type)])
    ++ (match a.allow with
        | none => []
        | some methods => [("allow", methods)])
    ++ [("access-control-allow-origin", "*")]
    ++ (if a.preflight then [("access-control-allow-methods", "*")] else [])

/-- The text of the body as it is sent. -/
def content (a : Answer) : String :=
  if a.headersOnly then ""
  else
    match a.body with
    | .empty => ""
    | .json v => v.compact
    | .text s => s

end Answer

end KeyedLocks.Http
