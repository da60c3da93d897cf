/-
What is carried to the service and back.

A request is carried in a message and a response in an answer, and neither is changed on the way.
The one who is asked reads the very request that was written (`readBody_of_carries`), and the one
who asked reads the very response (`reads_jsonAnswer`) or the very error (`refuses_errorAnswer`).
So a reply tells exactly where its call stands (`tells_lockReply`), and the client's exit code
tells whether the call was a success (`exit_of_tells`).
-/
import KeyedLocks.Client.Run
import KeyedLocks.Proofs.Http.Exchanges
import KeyedLocks.Proofs.Json.Bodies
import KeyedLocks.Proofs.Wire.RoundTrip

set_option autoImplicit false

namespace KeyedLocks

open KeyedLocks.Json

namespace Http

/-! ## Requests on their way -/

/-- A message carries a request to an operation: it is posted to the path of the operation,
and its body is the request, announced as JSON. -/
structure Message.Carries (m : Message) (op : Operation) (r : Request) : Prop where
  method : m.method = "POST"
  path : m.path = operationPath op
  type : m.header? "content-type" = some "application/json"
  body : m.body = Text.encode (Wire.requestValue r).chars

/-- The path of an operation is routed to it. -/
theorem ofPath?_operationPath (op : Operation) :
    Route.ofPath? (operationPath op) = some (.act op) := by
  cases op <;> decide

/-- A message that carries a request reaches the operation that it is meant for. -/
theorem Message.Carries.route {m : Message} {op : Operation} {r : Request} (c : m.Carries op r) :
    Route.ofPath? m.path = some (.act op) := by
  rw [c.path, ofPath?_operationPath]

/-- **What was written is read,** whatever strings and numbers are in it. -/
theorem readBody_of_carries {m : Message} {op : Operation} {r : Request} (c : m.Carries op r)
    (small : m.body.length ≤ bodyLimit) : readBody m = .ok r := by
  have announced : announcesJson "application/json" = true := by decide
  have decoded : decodeBytes Wire.decodeRequest m.body = .ok r := by
    rw [c.body] at small ⊢
    rw [decodeBytes_chars _ (Wire.integral_requestValue r) small, Wire.decodeRequest_reading]
  simp only [readBody, c.type, announced, Nat.not_lt.2 small, decoded, Bool.not_true,
    Bool.false_eq_true, if_false]

/-! ## Answers on their way back -/

/-- An answer is a response. -/
def Answer.Reads (a : Answer) (r : Response) : Prop :=
  a.status = 200 ∧ decodeText Wire.decodeResponse a.content.toList = .ok r

/-- An answer refuses with a status, a code and a text. -/
def Answer.Refuses (a : Answer) (status : Nat) (code text : String) : Prop :=
  a.status = status ∧ decodeText Client.errorBodyForm.decode a.content.toList = .ok ⟨code, text⟩

/-- What the service writes of a response reads as the response. -/
theorem reads_jsonAnswer (r : Response) : (jsonAnswer (Wire.responseValue r)).Reads r := by
  have content : (jsonAnswer (Wire.responseValue r)).content.toList
      = (Wire.responseValue r).chars := String.toList_ofList
  -- The status is 200 by definition; what is left is to read the body.
  refine ⟨rfl, ?_⟩
  rw [content, decodeText_chars _ (Wire.integral_responseValue r), Wire.decodeResponse_reading]

/-- What the service writes of an error reads as its code and its text. -/
theorem refuses_errorAnswer (e : ApiError) : (errorAnswer e).Refuses e.status e.code e.text := by
  have content : (errorAnswer e).content.toList = e.body.chars := String.toList_ofList
  have integral : e.body.Integral := by
    simp only [ApiError.body, Value.Integral, IntegralMembers, and_true]
  refine ⟨rfl, ?_⟩
  rw [content, decodeText_chars _ integral]
  rfl

/-! ## Replies -/

/-- A reply tells where a call stands: the response if there is one, that the service is not
available any more if the wait was called off, and nothing as long as the call waits. Nothing else
is ever told. -/
inductive Reply.Tells (kind : LockKind) : LockProgress → Reply → Prop
  | answered {r : Response} {a : Answer} (reads : a.Reads r) :
      Tells kind (.answered r) (.answered a)
  | cancelled {key : String} {a : Answer}
      (refuses : a.Refuses 503 "SERVICE_UNAVAILABLE" (WaitError.cancelled key).message) :
      Tells kind (.failed (.cancelled key)) (.answered a)
  | waiting (ticket : Nat) : Tells kind (.waiting ticket) (.waiting ⟨kind, ticket⟩)

theorem tells_lockReply {p : LockProgress} (proper : p.Proper) (kind : LockKind) :
    Reply.Tells kind p (lockReply kind p) := by
  -- A proper place of a call is one of three, and there is a reply for each.
  cases proper with
  | answered r => exact .answered (reads_jsonAnswer r)
  | cancelled key => exact .cancelled (refuses_errorAnswer (.ofWaitError (.cancelled key)))
  | waiting ticket => exact .waiting ticket

end Http

namespace Client

open Http

/-! ## What the client makes of them -/

variable {a : Answer} {url : String}

/-- The client reports the response that an answer reads as. -/
theorem reportLock_of_reads {r : Response} (reads : a.Reads r) :
    reportLock url a.status a.content.toList = .ofResponse r := by
  rw [reportLock, readReply, reads.1, if_pos (by decide), reads.2]

/-- An answer that refuses is reported with its code and its text. -/
theorem reportLock_of_refuses {status : Nat} {code text : String}
    (refuses : a.Refuses status code text) (failure : isSuccess status = false) :
    reportLock url a.status a.content.toList
      = .ofError (.rejected status (code ++ ": " ++ text)) := by
  rw [reportLock, readReply, refuses.1, failure, if_neg (by decide), rejection, refuses.2]

theorem exit_ofResponse (r : Response) : (Report.ofResponse r).exit = 0 ↔ r.success = true := by
  rw [Report.ofResponse]
  cases r.success <;> simp

/-- **The exit code is zero** exactly if the call was answered with a success. -/
theorem exit_of_tells {kind : LockKind} {p : LockProgress}
    (tells : Reply.Tells kind p (.answered a)) :
    (reportLock url a.status a.content.toList).exit = 0
      ↔ ∃ r, p = .answered r ∧ r.success = true := by
  -- No reply to a call that still waits is an answer, so two cases are left.
  cases tells with
  | answered reads =>
    rw [reportLock_of_reads reads, exit_ofResponse]
    constructor
    · intro success
      exact ⟨_, rfl, success⟩
    · rintro ⟨r, same, success⟩
      cases same
      exact success
  | cancelled refuses =>
    rw [reportLock_of_refuses refuses (by decide)]
    constructor
    · intro zero
      cases zero
    · rintro ⟨r, same, -⟩
      cases same

end Client

end KeyedLocks
