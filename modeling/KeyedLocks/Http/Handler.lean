/-
The service over HTTP.

Five paths lead to the service. A request to lock, to try or to unlock carries its
request as JSON; it is looked at in this order: the method, the announced type of
the body, its size, whether it is JSON, whether it fits, and whether it is valid.
Only a request that passes all of them reaches a table. A request to lock may have
to wait; then there is no answer yet, and dropping the connection drops the wait.
-/
import KeyedLocks.Json.Bytes
import KeyedLocks.Wire.Request
import KeyedLocks.Wire.Response
import KeyedLocks.Wire.Listing
import KeyedLocks.Service.Status
import KeyedLocks.Http.ApiError
import KeyedLocks.Http.MediaType
import KeyedLocks.Http.Message

set_option autoImplicit false

namespace KeyedLocks.Http

open KeyedLocks.Json

/-! ## Paths -/

/-- A path that leads to the service. -/
inductive Route where
  | health
  | locks
  | act (op : Operation)
  deriving DecidableEq, Repr

/-- The path of an operation. -/
def operationPath : Operation → String
  | .tryLock => "/locks/try-lock"
  | .lock => "/locks/lock"
  | .unlock => "/locks/unlock"

/-- Where a path leads. Paths are compared as they are written. -/
def Route.ofPath? (path : String) : Option Route :=
  if path = "/health" then some .health
  else if path = "/locks" then some .locks
  else (Operation.all.find? fun op => operationPath op = path).map .act

/-- The methods that a route takes, as a header names them. -/
def Route.methods : Route → String
  | .health => "GET,HEAD"
  | .locks => "GET,HEAD"
  | .act _ => "POST"

/-! ## Reading a request -/

/-- The greatest body that is read, in bytes: two mebibytes. -/
def bodyLimit : Nat := 2 * 1024 * 1024

/-- What is wrong with a body. -/
inductive BodyError where
  | notAnnounced
  | tooLong
  | fault
  | misfit (path : List Segment) (m : Misfit)
  deriving DecidableEq, Repr

/-- The status that tells of a bad body. -/
def BodyError.status : BodyError → Nat
  | .notAnnounced => 415
  | .tooLong => 413
  | .fault => 400
  | .misfit _ _ => 422

/-- The wording for a bad body. A misfit inside says where it is. -/
def BodyError.message : BodyError → String
  | .notAnnounced => "Expected request with `Content-Type: application/json`"
  | .tooLong => "Failed to buffer the request body: length limit exceeded"
  | .fault => "Failed to parse the request body as JSON:"
  | .misfit path m =>
    "Failed to deserialize the JSON body into the target type: "
      ++ (if path.isEmpty then m.message else pathText path ++ ": " ++ m.message)

/-- The request in a body. -/
def readBody (m : Message) : Except BodyError Request :=
  match m.header? "content-type" with
  | none => .error .notAnnounced
  | some header =>
    if !announcesJson header then .error .notAnnounced
    -- The size is looked at before anything in the body is.
    else if bodyLimit < m.body.length then .error .tooLong
    else
      match decodeBytes Wire.decodeRequest m.body with
      | .ok r => .ok r
      | .error (.fault _) => .error .fault
      | .error (.misfit path misfit) => .error (.misfit path misfit)

/-! ## Answering -/

/-- Where a request stands: answered, or waiting under a call. -/
inductive Reply where
  | answered (a : Answer)
  | waiting (c : CallRef)

/-- A record as an answer. -/
def jsonAnswer (v : Value) : Answer := { status := 200, body := .json v }

/-- An error of the service as an answer. -/
def errorAnswer (e : ApiError) : Answer := { status := e.status, body := .json e.body }

/-- A bad body as an answer. -/
def bodyErrorAnswer (e : BodyError) : Answer := { status := e.status, body := .text e.message }

/-- A wait as an answer, if it is over. -/
def lockReply (kind : LockKind) : LockProgress → Reply
  | .answered r => .answered (jsonAnswer (Wire.responseValue r))
  | .failed e => .answered (errorAnswer (.ofWaitError e))
  | .waiting ticket => .waiting ⟨kind, ticket⟩
  | .unknown => .answered (errorAnswer (.internal ""))

/-- A request whose body was read reaches its table if it is valid. -/
def perform (s : Service) (op : Operation) (r : Request) : Reply × Service :=
  let checked :=
    match op with
    -- Whoever gives a lock back need not say how long it was for.
    | .unlock => r.validate
    | _ => r.validateAcquire
  match checked with
  | .error e => (.answered (errorAnswer (.ofRequestError e)), s)
  | .ok () =>
    match op with
    | .tryLock =>
      let (a, s) := s.tryLock r
      (.answered (jsonAnswer (Wire.responseValue a)), s)
    | .unlock =>
      let (a, s) := s.unlock r
      (.answered (jsonAnswer (Wire.responseValue a)), s)
    | .lock =>
      let (p, s) := s.lock r
      (lockReply r.kind p, s)

/-- A request whose path leads somewhere. -/
def handleRoute (s : Service) (m : Message) (route : Route) : Reply × Service :=
  let refused : Reply := .answered { status := 405, allow := some route.methods }
  let view (v : Value) : Reply × Service :=
    if m.method = "GET" then (.answered (jsonAnswer v), s)
    else if m.method = "HEAD" then (.answered { jsonAnswer v with headersOnly := true }, s)
    else (refused, s)
  match route with
  | .health => view (Wire.healthValue s.health)
  | .locks => view (Wire.listingValue s.listing)
  | .act op =>
    if m.method = "POST" then
      match readBody m with
      | .error e => (.answered (bodyErrorAnswer e), s)
      | .ok r => perform s op r
    else (refused, s)

/-- A request to the service. Asking for the options of a path is always allowed. -/
def handle (s : Service) (m : Message) : Reply × Service :=
  let route := Route.ofPath? m.path
  if m.method = "OPTIONS" then
    (.answered { status := 200, allow := route.map Route.methods, preflight := true }, s)
  else
    match route with
    -- Any other method is left to the route, and a path that leads nowhere has none.
    | none => (.answered { status := 404 }, s)
    | some route => handleRoute s m route

/-- A waiting request is polled. -/
def poll (s : Service) (c : CallRef) : Reply × Service :=
  let (p, s) := s.poll c
  (lockReply c.kind p, s)

end KeyedLocks.Http
