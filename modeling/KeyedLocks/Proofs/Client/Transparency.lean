/-
Every way in is the call.

A request can be made of the service itself, over HTTP, or by a command. What happens to the
service is the same each time: the call of the service for the request, if the request is valid,
and nothing otherwise. And what is told is the same, in the words of each way: the response itself,
an answer that reads as it, or an exit code.
-/
import KeyedLocks.Proofs.Client.Answers

set_option autoImplicit false

namespace KeyedLocks

open KeyedLocks.Json

/-! ## Over HTTP -/

namespace Http

variable {m : Message} {op : Operation} {r : Request}

/-- A request that is not valid is answered with what is wrong with it, and that is all. -/
theorem handle_of_invalid (s : Service) (carries : m.Carries op r)
    (small : m.body.length ≤ bodyLimit) {e : RequestError} (invalid : op.check r = .error e) :
    ∃ a, a.Refuses 400 "BAD_REQUEST" e.message ∧ handle s m = (.answered a, s) := by
  refine ⟨_, refuses_errorAnswer (.ofRequestError e), ?_⟩
  rw [handle_of_post s carries.method carries.route, readBody_of_carries carries small]
  dsimp only
  rw [perform_eq, invalid]

/-- A valid request is the call of the service, and the reply tells where that stands. -/
theorem handle_of_valid (s : Service) (carries : m.Carries op r)
    (small : m.body.length ≤ bodyLimit) (valid : op.check r = .ok ()) :
    ∃ reply, Reply.Tells r.kind (s.ask op r).1 reply ∧ handle s m = (reply, (s.ask op r).2) :=
  ⟨_, tells_lockReply (s.ask_proper op r) r.kind,
    handle_of_asks s ⟨carries.method, carries.route, readBody_of_carries carries small, valid⟩⟩

/-- **A request that has to wait** keeps its exchange and its call until it is answered, and the
call is for that request. -/
theorem Server.call_of_exchange {s : Server} (a : s.Attended) (carries : m.Carries op r)
    (small : m.body.length ≤ bodyLimit) (valid : op.check r = .ok ()) {ticket : Nat}
    (waits : (s.service.ask op r).1 = .waiting ticket) (es : List ServerEvent) {c : CallRef}
    (opened : ((s.step (.receive m)).2.run es).exchange? s.exchanges.length = some c) :
    c = ⟨r.kind, ticket⟩ ∧ ((s.step (.receive m)).2.run es).service.request? c = some r := by
  obtain ⟨reply, tells, handled⟩ := handle_of_valid s.service carries small valid
  rw [waits] at tells
  cases tells
  have first : (s.step (.receive m)).2
      = ⟨(s.service.ask op r).2, s.exchanges ++ [some ⟨r.kind, ticket⟩]⟩ := by
    rw [step, handled]
    rfl
  -- The exchange was opened by this message, so it was open when the run began.
  have longer : s.exchanges.length < (s.step (.receive m)).2.exchanges.length := by
    rw [first]
    simp
  obtain ⟨before, stays⟩ := open_run (a.step (.receive m)) es opened longer
  rw [first, exchange?_append, if_pos rfl] at before
  cases before
  refine ⟨rfl, stays r ?_⟩
  rw [first]
  exact (Service.request?_ask (a.sound r.kind) waits).1

end Http

/-! ## By a command -/

namespace Client

open Http

/-- A command line that asks a server for an operation, in an environment and at a moment. The
server is named in it, or by the environment, or by default, and behind its name the path of the
operation is reached. -/
structure Errand where
  arguments : List String
  environment : Option String
  issuedAt : UInt64
  server : Option String
  op : Operation
  args : LockArgs
  parsed : parseArguments arguments = .ok (.run server (.act op args))
  address : Address
  usable : usableAddress
    (endpoint ((server <|> environment).getD defaultServer) (operationPath op)) = .ok address
  route : String.ofList (Target.ofText (String.ofList address.target)).route = operationPath op

namespace Errand

/-- The request that the command line describes. -/
def request (e : Errand) : Request := e.args.toRequest e.issuedAt

/-- What reaches the server. -/
def message (e : Errand) : Message :=
  ((Command.act e.op e.args).sending e.issuedAt).message (String.ofList e.address.target)

/-- The client is run while the server is in some state. -/
def run (e : Errand) (s : Service) : Report × Link :=
  Client.run (.service s) e.arguments e.environment e.issuedAt

/-- **A command carries the request that its arguments describe.** -/
theorem carries (e : Errand) : e.message.Carries e.op e.request where
  method := rfl
  path := e.route
  type := rfl
  body := rfl

end Errand

/-- What a report says of the call that its command made: the exit code is zero exactly if the
call was answered with a success. -/
def Report.Tells (report : Report) (p : LockProgress) : Prop :=
  report.exit = 0 ↔ ∃ a, p = .answered a ∧ a.success = true

namespace Errand

variable {e : Errand} {s s' : Service}

/-- A command whose request is answered at once ends with what it makes of the answer. -/
theorem run_of_answered {a : Answer} (handled : handle s e.message = (.answered a, s')) :
    ∃ url, e.run s = (reportLock url a.status a.content.toList, .service s') := by
  refine ⟨endpoint ((e.server <|> e.environment).getD defaultServer) (operationPath e.op), ?_⟩
  rw [message, Command.sending] at handled
  simp only [run, Client.run, e.parsed, Command.carryOut, Command.sending, e.usable, handled,
    Command.report]

/-- A command whose request is not valid ends with two and has done nothing. -/
theorem run_of_invalid (s : Service) (small : e.message.body.length ≤ bodyLimit)
    {error : RequestError} (invalid : e.op.check e.request = .error error) :
    (e.run s).1.exit = 2 ∧ (e.run s).2 = .service s := by
  obtain ⟨a, refuses, handled⟩ := handle_of_invalid s e.carries small invalid
  obtain ⟨url, ran⟩ := run_of_answered handled
  rw [ran, reportLock_of_refuses refuses (by decide)]
  exact ⟨rfl, rfl⟩

/-- A command whose request is valid has done what the call does, and its exit code tells whether
that was a success. -/
theorem run_of_valid (s : Service) (small : e.message.body.length ≤ bodyLimit)
    (valid : e.op.check e.request = .ok ())
    (ends : ∀ ticket, (s.ask e.op e.request).1 ≠ .waiting ticket) :
    (e.run s).1.Tells (s.ask e.op e.request).1
      ∧ (e.run s).2 = .service (s.ask e.op e.request).2 := by
  obtain ⟨reply, tells, handled⟩ := handle_of_valid s e.carries small valid
  cases reply with
  | answered a =>
    obtain ⟨url, ran⟩ := run_of_answered handled
    rw [ran]
    exact ⟨exit_of_tells tells, rfl⟩
  -- The user breaks off a wait, and then the report says nothing of the call. It has to be ruled
  -- out that this happens to a call that ended at once.
  | waiting c =>
    cases progress : (s.ask e.op e.request).1 with
    | waiting ticket => exact absurd progress (ends ticket)
    | answered | failed | unknown =>
      rw [progress] at tells
      cases tells

/-- A command that had to wait ends with what it makes of the answer that came in the end. The call
that was answered is the one that it made, and its exit code tells whether that was a success. -/
theorem ending_of_wait {s : Server} (attended : s.Attended)
    (small : e.message.body.length ≤ bodyLimit) (valid : e.op.check e.request = .ok ())
    {ticket : Nat} (waits : (s.service.ask e.op e.request).1 = .waiting ticket)
    (fs : List ServerEvent) {c : CallRef} {a : Answer} (url : String) :
    let u := (s.step (.receive e.message)).2.run fs
    let n := s.exchanges.length
    u.exchange? n = some c → (u.step (.poll n)).1 = some (.answered a) →
      c = ⟨e.request.kind, ticket⟩
        ∧ ((Command.act e.op e.args).report url a.status a.content.toList).Tells
          (u.service.poll c).1
        ∧ (∀ b, (u.service.poll c).1 = .answered b → b = .succeeded e.request .lock)
        ∧ (u.step (.poll n)).2.service = (u.service.poll c).2 := by
  intro u n opened told
  obtain ⟨same, known⟩ := Server.call_of_exchange attended e.carries small valid waits fs opened
  rw [Server.step_poll opened] at told ⊢
  have tells : Reply.Tells c.kind (u.service.poll c).1 (.answered a) := by
    rw [← Option.some.inj told]
    exact tells_lockReply (Service.poll_proper known) c.kind
  refine ⟨same, exit_of_tells tells, fun b answered => ?_, rfl⟩
  -- A wait that ends ends with the key or with the end of the service, and only the first is a
  -- response.
  rcases Service.poll_progress known with granted | ⟨key, cancelled⟩ | ⟨waiting, -⟩
  · exact LockProgress.answered.inj (answered.symm.trans granted)
  · cases answered.symm.trans cancelled
  · cases answered.symm.trans waiting

end Errand

end Client

open Http Client

/-! ## The whole -/

/-- **Every way in is the call.** Take any server, whatever messages it has received and whatever
has happened to it since.

A message that carries a request, of whatever strings and numbers, does to the service what the
call for the request does, if the request is valid, and otherwise nothing. The reply reads as the
response of the call, be it a success or not, with status 200; it is a 503 exactly if the wait was
called off and is still to come exactly if the call waits; and an invalid request is a 400 with the
wording of what is wrong. The same goes for a call that waits, whenever it is looked at. No answer
ever has status 500.

A command carries the request that its arguments describe, so it does the same. It ends with zero
exactly if the response tells of a success, be the answer there at once or after any wait. -/
theorem every_way_in_is_the_call (horizon : Horizon) (es : List ServerEvent) :
    let s := (Server.start horizon).run es
    (∀ op r (m : Message), m.Carries op r → m.body.length ≤ bodyLimit →
        (∀ e, op.check r = .error e →
          ∃ a, a.Refuses 400 "BAD_REQUEST" e.message
            ∧ s.step (.receive m) = (some (.answered a), ⟨s.service, s.exchanges ++ [none]⟩))
        ∧ (op.check r = .ok () →
          ∃ reply, Reply.Tells r.kind (s.service.ask op r).1 reply
            ∧ s.step (.receive m)
              = (some reply, ⟨(s.service.ask op r).2, s.exchanges ++ [reply.call?]⟩)))
      ∧ (∀ n c, s.exchange? n = some c →
          ∃ reply, Reply.Tells c.kind (s.service.poll c).1 reply
            ∧ s.step (.poll n)
              = (some reply, ⟨(s.service.poll c).2, s.exchanges.set n reply.call?⟩))
      ∧ (∀ e a, (s.step e).1 = some (.answered a) → a.status ≠ 500)
      ∧ ∀ e : Errand, e.message.Carries e.op e.request ∧ (e.message.body.length ≤ bodyLimit →
          let call := s.service.ask e.op e.request
          (∀ error, e.op.check e.request = .error error →
              (e.run s.service).1.exit = 2 ∧ (e.run s.service).2 = .service s.service)
            ∧ (e.op.check e.request = .ok () → (∀ ticket, call.1 ≠ .waiting ticket) →
              (e.run s.service).1.Tells call.1 ∧ (e.run s.service).2 = .service call.2)
            ∧ (e.op.check e.request = .ok () → ∀ ticket, call.1 = .waiting ticket → ∀ fs c a url,
              let u := (s.step (.receive e.message)).2.run fs
              let n := s.exchanges.length
              u.exchange? n = some c → (u.step (.poll n)).1 = some (.answered a) →
                c = ⟨e.request.kind, ticket⟩
                  ∧ ((Command.act e.op e.args).report url a.status a.content.toList).Tells
                    (u.service.poll c).1
                  ∧ (∀ b, (u.service.poll c).1 = .answered b → b = .succeeded e.request .lock)
                  ∧ (u.step (.poll n)).2.service = (u.service.poll c).2)) := by
  intro s
  have attended : s.Attended := Server.attended_run horizon es
  refine ⟨fun op r m carries small => ⟨fun e invalid => ?_, fun valid => ?_⟩,
    fun n c opened => ?_, fun e a told => Server.status_ne_internal attended e told,
    fun e => ⟨e.carries, fun small => ⟨fun error invalid => ?_, fun valid ends => ?_, ?_⟩⟩⟩
  -- What the server does with a message is what the handler does, with a new exchange behind it.
  · obtain ⟨a, refuses, handled⟩ := handle_of_invalid s.service carries small invalid
    exact ⟨a, refuses, by rw [Server.step, handled]; rfl⟩
  · obtain ⟨reply, tells, handled⟩ := handle_of_valid s.service carries small valid
    exact ⟨reply, tells, by rw [Server.step, handled]⟩
  · obtain ⟨r, known⟩ := attended.waits n c opened
    exact ⟨_, tells_lockReply (Service.poll_proper known) c.kind, Server.step_poll opened⟩
  -- The command goes over HTTP, so the three parts about it come from those before.
  · exact Errand.run_of_invalid s.service small invalid
  · exact Errand.run_of_valid s.service small valid ends
  · intro valid ticket waits fs c a url u n opened told
    exact Errand.ending_of_wait attended small valid waits fs url opened told

/-- An errand to a server on the same machine. -/
def Client.Errand.orders : Errand where
  arguments := ["try-lock", "orders", "--server", "http://[::1]:3000"]
  environment := none
  issuedAt := 0
  server := some "http://[::1]:3000"
  op := .tryLock
  args := ⟨"orders", .simple, "easylock-cli", "main", 0, none, .seconds⟩
  parsed := by decide +kernel
  address :=
    ⟨"http".toList, some { host := some (.ipv6 [0, 0, 0, 0, 0, 0, 0, 1]), port := some 3000 },
      "/locks/try-lock".toList, none, none⟩
  usable := by decide +kernel
  route := by decide +kernel

/-- It ends with zero if the server was just started. -/
theorem try_lock_on_a_fresh_server :
    (Client.run (.service (.start .widest))
      ["try-lock", "orders", "--server", "http://[::1]:3000"] none 0).1.exit = 0 := by
  have small : Errand.orders.message.body.length ≤ bodyLimit := by decide +kernel
  have valid : Errand.orders.op.check Errand.orders.request = .ok () := by decide +kernel
  have granted : ((Service.start .widest).ask Errand.orders.op Errand.orders.request).1
      = .answered (.succeeded Errand.orders.request .tryLock) := by decide +kernel
  have called := ((every_way_in_is_the_call .widest []).2.2.2 Errand.orders).2 small
  have ended := called.2.1 valid fun ticket waits => by cases granted.symm.trans waits
  exact ended.1.2 ⟨_, granted, rfl⟩

end KeyedLocks
