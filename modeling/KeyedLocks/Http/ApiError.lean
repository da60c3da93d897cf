/-
Errors of the service as HTTP answers.

Only three things are errors here: a request that must not reach a table, a wait
that ended because the server stops, and a wait that ended without a reason. A key
that someone else holds is an ordinary answer.
-/
import KeyedLocks.Json.Value
import KeyedLocks.Lock.Request
import KeyedLocks.Table.Wait

set_option autoImplicit false

namespace KeyedLocks.Http

open KeyedLocks.Json

/-- An error that the service answers with. -/
inductive ApiError where
  | badRequest (text : String)
  | serviceUnavailable (text : String)
  | internal (text : String)
  deriving DecidableEq, Repr

namespace ApiError

/-- The status of the answer. -/
def status : ApiError → Nat
  | badRequest _ => 400
  | serviceUnavailable _ => 503
  | internal _ => 500

/-- The code that programs look at. -/
def code : ApiError → String
  | badRequest _ => "BAD_REQUEST"
  | serviceUnavailable _ => "SERVICE_UNAVAILABLE"
  | internal _ => "INTERNAL_ERROR"

/-- The text that people look at. -/
def text : ApiError → String
  | badRequest t => t
  | serviceUnavailable t => t
  | internal t => t

/-- An error in words. -/
def describe : ApiError → String
  | badRequest t => "bad request: " ++ t
  | serviceUnavailable t => "service unavailable: " ++ t
  | internal t => "internal error: " ++ t

/-- The body of the answer. -/
def body (e : ApiError) : Value :=
  .object [("error", .object [("code", .string e.code), ("message", .string e.text)]),
    ("success", .bool false)]

/-- A request that was turned away. -/
def ofRequestError (e : RequestError) : ApiError := .badRequest e.message

/-- A wait that ended without a lock. -/
def ofWaitError : WaitError → ApiError
  | .cancelled key => .serviceUnavailable (WaitError.cancelled key).message
  | .abandoned key => .internal (WaitError.abandoned key).message

end ApiError

end KeyedLocks.Http
