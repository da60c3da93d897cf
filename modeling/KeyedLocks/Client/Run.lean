/-
The client from its command line to its end.

What lies between the client and a server is a link. It is down when no server can
be reached; then a command ends without an answer. It is up when it leads to a
service: then the request is handled there, and if it has to wait the user breaks
the wait off.
-/
import KeyedLocks.Client.Outcome
import KeyedLocks.Http.Handler

set_option autoImplicit false

namespace KeyedLocks.Client

open KeyedLocks.Json

/-! ## What is sent -/

/-- What a command asks a server for: the method, the path, and the body. -/
structure Sending where
  method : String
  path : String
  body : Option Value

/-- What a command sends at a moment. -/
def Command.sending (issuedAt : UInt64) : Command → Sending
  | .act op args =>
    ⟨"POST", Http.operationPath op, some (Wire.requestValue (args.toRequest issuedAt))⟩
  | .status => ⟨"GET", "/locks", none⟩

/-- What is sent as a message to a target. -/
def Sending.message (s : Sending) (target : String) : Http.Message where
  method := s.method
  target
  headers :=
    match s.body with
    | none => []
    | some _ => [("content-type", "application/json")]
  body :=
    match s.body with
    | none => []
    | some v => Text.encode v.chars

/-- What a command makes of an answer. -/
def Command.report (c : Command) (url : String) (code : Nat) (body : List Char) : Report :=
  match c with
  | .act _ _ => reportLock url code body
  | .status => reportStatus url code body

/-- What a command writes when the user breaks it off. -/
def Command.interrupted : Command → Report
  | .act _ args => .interrupted args.key
  | .status => ⟨1, "", ""⟩

/-! ## The link -/

/-- What a request meets on its way: nothing, a service, or an answer that was
prepared for it. -/
inductive Link where
  | down
  | service (s : Service)
  | canned (code : Nat) (body : List UInt8)

/-- A command is carried out over a link. -/
def Command.carryOut (c : Command) (link : Link) (server : String) (issuedAt : UInt64) :
    Report × Link :=
  let sending := c.sending issuedAt
  let url := endpoint server sending.path
  match usableAddress url with
  | .error e => (.ofError (.transport url e), link)
  | .ok address =>
    match link with
    | .down => (.ofError (.transport url (.failed address)), link)
    | .canned code body => (c.report url code (Text.lossy body), link)
    | .service s =>
      match Http.handle s (sending.message (String.ofList address.target)) with
      | (.answered a, s) => (c.report url a.status a.content.toList, .service s)
      | (.waiting call, s) => (c.interrupted, .service (s.depart call))

/-! ## Help -/

/-- The line that says what a topic is about. -/
def Topic.about : Topic → String
  | .client => "Distributed lock service client"
  | .act .tryLock => "Take a lock if it is free, without waiting"
  | .act .lock => "Wait until the lock is granted. Ctrl-C leaves the queue"
  | .act .unlock => "Release a held lock"
  | .status => "Show every held lock"
  | .help => "Print this message or the help of the given subcommand(s)"

/-- How the command of a topic is written. -/
def Topic.usage : Topic → String
  | .client => "easylock [OPTIONS] <COMMAND>"
  | .act op => "easylock " ++ commandName op ++ " [OPTIONS] <KEY>"
  | .status => "easylock status [OPTIONS]"
  | .help => "easylock help [COMMAND]..."

/-- The help on a topic. -/
def Topic.text (t : Topic) : String := t.about ++ "\n\nUsage: " ++ t.usage ++ "\n"

/-! ## The whole -/

/-- The server that is used if nothing names one. -/
def defaultServer : String := "http://127.0.0.1:3000"

/-- The client is run. The server is named by an option, by the environment, or by
default. -/
def run (link : Link) (args : List String) (environment : Option String) (issuedAt : UInt64) :
    Report × Link :=
  match parseArguments args with
  | .error e => (.ofUsage e, link)
  | .ok (.help topic) => (⟨0, topic.text, ""⟩, link)
  | .ok (.run server command) =>
    command.carryOut link ((server <|> environment).getD defaultServer) issuedAt

/-- A command line that is not understood reaches no server. -/
theorem run_of_usage_error {link : Link} {args : List String} {environment : Option String}
    {issuedAt : UInt64} {e : UsageError} (h : parseArguments args = .error e) :
    run link args environment issuedAt = (.ofUsage e, link) := by
  simp [run, h]

end KeyedLocks.Client
