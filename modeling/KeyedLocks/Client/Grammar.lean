/-
The grammar of answers.

Which texts say a response, and which say an error. Both are records, and an error has another one
inside it. As with requests, what is said of a member is said of what stands under its name, so
neither the order of members nor members of other names come into it. What stands under other names
is passed over here, so nothing is asked of it but that it is spelled right.
-/
import KeyedLocks.Client.Outcome
import KeyedLocks.Json.Grammar

set_option autoImplicit false

namespace KeyedLocks.Client

open KeyedLocks.Json

/-- Members say a response. -/
structure SaysResponse (ms : List (Option String × Tree)) (r : Response) : Prop where
  names : ∀ m ∈ ms, m.1.isSome = true
  key : Required Tree.IsString (valuesOf ms "key") r.key
  identity : Required Tree.IsInteger (valuesOf ms "identity") r.identity.toInt
  success : Required Tree.IsBool (valuesOf ms "success") r.success
  cause : Required Tree.IsChoice (valuesOf ms "cause") r.cause.name
  operation : Required Tree.IsChoice (valuesOf ms "operation") r.operation.name

/-- Members say a code and a text. -/
structure SaysDetail (ms : List (Option String × Tree)) (e : ErrorDetail) : Prop where
  names : ∀ m ∈ ms, m.1.isSome = true
  code : Required Tree.IsString (valuesOf ms "code") e.code
  message : Required Tree.IsString (valuesOf ms "message") e.message

/-- Members say an error: one of them is the record of its code and its text. -/
structure SaysError (ms : List (Option String × Tree)) (e : ErrorDetail) : Prop where
  names : ∀ m ∈ ms, m.1.isSome = true
  error : Required (Tree.IsRecord ["code", "message"] SaysDetail) (valuesOf ms "error") e

/-- A text spells a response. -/
def SpellsResponse (cs : List Char) (r : Response) : Prop :=
  ∃ t, SpellsText cs t
    ∧ t.IsRecord ["key", "identity", "success", "cause", "operation"] SaysResponse r

/-- A text spells an error. -/
def SpellsError (cs : List Char) (e : ErrorDetail) : Prop :=
  ∃ t, SpellsText cs t ∧ t.IsRecord ["error"] SaysError e

/-- A text without the blanks around it: what is cut off is blank, and what is left is not blank at
its ends. -/
structure Trims (cs core : List Char) : Prop where
  cut : ∃ front back, cs = front ++ core ++ back
    ∧ (∀ c ∈ front, Text.isBlank c = true) ∧ ∀ c ∈ back, Text.isBlank c = true
  first : ∀ c, core.head? = some c → Text.isBlank c = false
  last : ∀ c, core.getLast? = some c → Text.isBlank c = false

end KeyedLocks.Client
