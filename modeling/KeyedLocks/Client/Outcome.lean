/-
What the client makes of an answer.

An answer is good if its status says so and its body is what was promised. A status
that says otherwise is explained by the error in the body, or by the body itself if
it holds no such error.
-/
import KeyedLocks.Json.Shortest
import KeyedLocks.Text.Blank
import KeyedLocks.Wire.Response
import KeyedLocks.Client.Endpoint
import KeyedLocks.Client.Arguments

set_option autoImplicit false

namespace KeyedLocks.Client

open KeyedLocks.Json

/-! ## Errors -/

/-- Why a command failed. -/
inductive ClientError where
  | transport (url : String) (e : TransportError)
  | rejected (status : Nat) (message : String)
  | malformed (url : String) (reason : Refusal)
  deriving DecidableEq, Repr

/-- The wording for a body that is not what was promised. -/
def reasonText : Refusal → String
  | .fault _ => "<syntax>"
  | .misfit _ m => m.message

namespace ClientError

/-- The wording of a failure. -/
def message : ClientError → String
  | transport url e => "request to " ++ url ++ " failed: " ++ e.message
  | rejected status message =>
    "server rejected request (" ++ toString status ++ "): " ++ message
  | malformed url reason => "malformed response from " ++ url ++ ": " ++ reasonText reason

/-- The exit code of a failure: two if the server refused the request, three if it
could not be reached or understood. -/
def exitCode : ClientError → Nat
  | transport _ _ => 3
  | rejected _ _ => 2
  | malformed _ _ => 3

end ClientError

/-! ## Errors in bodies -/

/-- The error that a server writes into the body of an answer. -/
structure ErrorDetail where
  code : String
  message : String
  deriving DecidableEq, Repr

/-- An error of which not all is read. -/
structure ErrorDraft where
  code : Option String := none
  message : Option String := none

def errorDetailForm : RecordForm ErrorDraft ErrorDetail where
  name := "ErrorDetail"
  fields := ["code", "message"]
  empty := {}
  put field v d :=
    if field = "code" then (decodeString v).map fun s => { d with code := some s }
    else (decodeString v).map fun s => { d with message := some s }
  finish d := do
    let code ← wanted "code" d.code
    let message ← wanted "message" d.message
    return ⟨code, message⟩

def errorBodyForm : RecordForm (Option ErrorDetail) ErrorDetail where
  name := "ErrorBody"
  fields := ["error"]
  empty := none
  put _ v _ := (errorDetailForm.decode v).map some
  finish d := wanted "error" d

/-- What an answer says that refuses a request: the error in its body, or else its
body without the blanks around it. -/
def rejection (status : Nat) (body : List Char) : ClientError :=
  match decodeText errorBodyForm.decode body with
  | .ok e => .rejected status (e.code ++ ": " ++ e.message)
  -- A body that is no error of the service is shown for what it is.
  | .error _ => .rejected status (String.ofList (Text.trimChars body))

/-! ## Answers -/

/-- Whether a status says that a request succeeded. -/
def isSuccess (status : Nat) : Bool := 200 ≤ status && status < 300

/-- A body that was promised to be a record. -/
def readReply {α : Type} (decode : Reading → Decoded α) (url : String) (status : Nat)
    (body : List Char) : Except ClientError α :=
  if isSuccess status then
    match decodeText decode body with
    | .ok a => .ok a
    | .error reason => .error (.malformed url reason)
  else .error (rejection status body)

/-! ## Reports -/

/-- How a command ends: its exit code, and what it writes. -/
structure Report where
  exit : Nat
  stdout : String
  stderr : String
  deriving DecidableEq, Repr

namespace Report

/-- A failure. -/
def ofError (e : ClientError) : Report := ⟨e.exitCode, "", "Error: " ++ e.message ++ "\n"⟩

/-- The answer to a request. A request that the server refused ends with one. -/
def ofResponse (r : Response) : Report :=
  ⟨if r.success then 0 else 1, (Wire.responseValue r).pretty ++ "\n", ""⟩

/-- A body that is shown as it is. -/
def ofValue (v : Value) : Report := ⟨0, v.pretty ++ "\n", ""⟩

/-- A wait that the user broke off. -/
def interrupted (key : String) : Report :=
  ⟨1, "", "Interrupted while waiting for '" ++ key ++ "'\n"⟩

/-- A command line that was not understood. -/
def ofUsage (e : UsageError) : Report :=
  ⟨2, "", e.message⟩

end Report

/-! ## Showing a body -/

/-- Puts a member into members that are in the order of their names, in the place of
one of the same name. -/
def insertMember (name : String) (v : Value) : List (String × Value) → List (String × Value)
  | [] => [(name, v)]
  | (n, w) :: rest =>
    if name < n then (name, v) :: (n, w) :: rest
    -- The later one of two members of one name is kept, in the place of the first.
    else if name = n then (name, v) :: rest
    else (n, w) :: insertMember name v rest

mutual

/-- A value as it is shown: the members of every object in the order of their names,
and of two members of one name only the last; numbers in their shortest form. -/
def shown : Value → Value
  | .null => .null
  | .bool b => .bool b
  | .number n => .number n.shown
  | .string s => .string s
  | .array items => .array (itemsShown items)
  | .object members => .object (membersShown [] members)

/-- The items of an array as they are shown. -/
def itemsShown : List Value → List Value
  | [] => []
  | v :: rest => shown v :: itemsShown rest

/-- The members of an object as they are shown, put among those already there. -/
def membersShown (done : List (String × Value)) :
    List (String × Value) → List (String × Value)
  | [] => done
  | (name, v) :: rest => membersShown (insertMember name (shown v) done) rest

end

/-- Any value, read in full and as it is shown. -/
def decodeValue (r : Reading) : Decoded Value :=
  match r.check depthLimit with
  | .error f => .error (.fault f)
  | .ok () =>
    match r.value? with
    | some v => .ok (shown v)
    | none => .error (.fault .malformed)

/-- An answer to a request to take or give back a lock is judged by its status and
its body. -/
def reportLock (url : String) (status : Nat) (body : List Char) : Report :=
  match readReply Wire.decodeResponse url status body with
  | .ok r => .ofResponse r
  | .error e => .ofError e

/-- An answer to a request for the listing. -/
def reportStatus (url : String) (status : Nat) (body : List Char) : Report :=
  match readReply decodeValue url status body with
  | .ok v => .ofValue v
  | .error e => .ofError e

end KeyedLocks.Client
