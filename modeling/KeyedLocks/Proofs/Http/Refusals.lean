/-
Messages that leave no trace.

A message is turned away on its way (`Message.Refused`), or it only looks, or it reaches a table
and is told that it did not get what it asked for. In each case the whole service is afterwards
what it was, the queues and calls and records of all three tables and the numbers that come next
included.
-/
import KeyedLocks.Proofs.Http.Admission
import KeyedLocks.Proofs.Table.Refusals

set_option autoImplicit false

namespace KeyedLocks

/-! ## Calls of the service that fail -/

namespace Service

/-- To put a table back where it was changes nothing. -/
theorem setTable_table (s : Service) (k : LockKind) : s.setTable (s.table k) k = s := by
  cases k <;> rfl

/-- **An answer that tells of a failure** is told by a service that has not changed. A request to
lock is never answered so. -/
theorem ask_of_failure (s : Service) {op : Operation} {r : Request} {a : Response}
    (answered : (s.ask op r).1 = .answered a) (failed : a.cause ≠ .succeeded) :
    (s.ask op r).2 = s := by
  -- An operation answers with a failure only if its table refused it, and a table that refuses
  -- stays as it is. To wait is no answer, so nothing else is left for a lock.
  cases op with
  | tryLock =>
    have answer : ((s.table r.kind).tryLock r).1 = a := LockProgress.answered.inj answered
    change s.setTable ((s.table r.kind).tryLock r).2 r.kind = s
    cases asked : (s.table r.kind).tryAcquire r with
    | mk admission t =>
      cases admission with
      | granted | reentered =>
        simp only [Table.tryLock, asked] at answer
        subst answer
        exact absurd rfl failed
      | busy owner =>
        have same : t = s.table r.kind := by
          have way := Table.way_tryAcquire (s.table r.kind) r
          rw [asked] at way
          cases way with
          | refuse => rfl
        simp only [Table.tryLock, asked, same]
        exact s.setTable_table r.kind
  | lock =>
    have answer : ((s.table r.kind).lock stopToken r).1 = .answered a := answered
    cases asked : (s.table r.kind).acquire stopToken r with
    | mk acquisition t =>
      cases acquisition with
      | granted | reentered =>
        simp only [Table.lock, asked] at answer
        rw [← LockProgress.answered.inj answer] at failed
        exact absurd rfl failed
      | waiting | cancelled =>
        simp only [Table.lock, asked] at answer
        cases answer
  | unlock =>
    have answer : ((s.table r.kind).unlock r).1 = a := LockProgress.answered.inj answered
    change s.setTable ((s.table r.kind).unlock r).2 r.kind = s
    cases asked : (s.table r.kind).release r with
    | mk release t =>
      cases release with
      | released | retained =>
        simp only [Table.unlock, asked] at answer
        subst answer
        exact absurd rfl failed
      | notHeld owner =>
        have same : t = s.table r.kind := by
          have way := Table.way_release (s.table r.kind) r
          rw [asked] at way
          cases way with
          | refuse => rfl
        simp only [Table.unlock, asked, same]
        exact s.setTable_table r.kind

end Service

namespace Http

/-! ## Messages that are turned away -/

/-- The methods by which something is asked of a route. -/
def Route.takes (route : Route) (method : String) : Prop :=
  match route with
  | .act _ => method = "POST"
  | _ => method = "GET" ∨ method = "HEAD"

/-- Why a message is turned away: its path leads nowhere, its method is not one of the route, its
body cannot be read as a request (it is not announced as JSON, too long, not JSON, or ill-typed),
or the request is not valid for the operation. -/
inductive Message.Refused (m : Message) : Prop
  | path (nowhere : Route.ofPath? m.path = none)
  | method (route : Route) (path : Route.ofPath? m.path = some route)
      (other : ¬ route.takes m.method)
  | body (op : Operation) (path : Route.ofPath? m.path = some (.act op)) (e : BodyError)
      (unread : readBody m = .error e)
  | request (op : Operation) (path : Route.ofPath? m.path = some (.act op)) (r : Request)
      (body : readBody m = .ok r) (e : RequestError) (invalid : op.check r = .error e)

/-- A message that is turned away asks nothing of the tables: each reason contradicts one of the
conditions. -/
theorem Message.Refused.not_asks {m : Message} (refused : m.Refused) (op : Operation)
    (r : Request) : ¬ m.Asks op r := by
  intro asks
  cases refused with
  | path nowhere => cases nowhere.symm.trans asks.path
  | method route path other =>
    cases path.symm.trans asks.path
    exact other asks.method
  | body op' path e unread => cases unread.symm.trans asks.body
  | request op' path r' body e invalid =>
    cases path.symm.trans asks.path
    cases body.symm.trans asks.body
    cases invalid.symm.trans asks.valid

/-- The cause of a response can be told from what is written of it. -/
theorem cause_of_responseValue {a b : Response}
    (same : Wire.responseValue a = Wire.responseValue b) : a.cause = b.cause := by
  simp only [Wire.responseValue, Json.Value.object.injEq, List.cons.injEq, Prod.mk.injEq, true_and,
    Wire.causeValue, Json.Value.string.injEq] at same
  have names : a.cause.name = b.cause.name := same.2.2.2.1
  have found := Wire.decodeCause_name a.cause
  rw [names, Wire.decodeCause_name] at found
  exact (Except.ok.inj found).symm

/-- **A message that gets nothing leaves no trace.** Whatever a server has been through: a message
that is turned away, one that only looks, and one that is answered with a response that is no
success leave its whole service as it was. So it is inside each of its tables, where in every run
a caller who is turned away leaves nothing behind, not even the entry that was made for him; one
who was called off beforehand leaves the number of his ticket. -/
theorem refusals_leave_no_trace :
    (∀ (horizon : Horizon) (es : List ServerEvent) (m : Message),
        let s := ((Server.start horizon).run es).service
        (m.Refused ∨ m.method = "GET" ∨ m.method = "HEAD" ∨ m.method = "OPTIONS" →
            ∃ a, handle s m = (.answered a, s))
          ∧ ∀ a s', handle s m = (.answered (jsonAnswer (Wire.responseValue a)), s') →
            a.cause ≠ .succeeded → s' = s)
      ∧ ∀ (kind : LockKind) (leased : Bool) (reaper : Reaper) (horizon : Horizon)
          (es : List Event),
        let l := (LooseTable.opening kind leased reaper horizon).run es
        (∀ r o u, (l.touch r.key).tryAcquire r = (.busy o, u) → u = l)
          ∧ (∀ r o u, l.release r = (.notHeld o, u) → u = l)
          ∧ (∀ key g u, l.revoke key g = (none, u) → u = l)
          ∧ ∀ token r key u, (l.touch r.key).acquire token r = (.cancelled key, u) →
              u = { l with nextTicket := l.nextTicket + 1 } := by
  refine ⟨?_, Table.nothing_is_left_of_a_refusal⟩
  intro horizon es m s
  refine ⟨fun quiet => ?_, fun a s' handled failed => ?_⟩
  · have nothing : ∀ op r, ¬ m.Asks op r := by
      rcases quiet with refused | look
      · exact refused.not_asks
      · intro op r asks
        have posted := asks.method
        -- An operation is asked for by a POST, and none of these methods is one.
        rcases look with method | method | method <;> rw [method] at posted <;>
          exact absurd posted (by decide)
    obtain ⟨a, same, -⟩ := handle_of_no_ask s nothing
    exact ⟨a, same⟩
  -- A message with another answer never reached a table, so only the first case needs an argument.
  · rcases handle_cases s m with ⟨op, r, -, called⟩ | ⟨b, same, -⟩
    · rw [called] at handled
      obtain ⟨reply, rfl⟩ := Prod.mk.inj handled
      cases progress : (s.ask op r).1 with
      | answered b =>
        rw [progress] at reply
        have body := congrArg Answer.body (Reply.answered.inj reply)
        -- The response that was sent and the one of the call are known by their spelling only, and
        -- the spelling tells the cause.
        have cause := cause_of_responseValue (Body.json.inj body)
        exact s.ask_of_failure progress (by rw [cause]; exact failed)
      | failed e =>
        rw [progress] at reply
        have status := congrArg Answer.status (Reply.answered.inj reply)
        cases e <;> cases status
      | waiting ticket =>
        rw [progress] at reply
        cases reply
      | unknown =>
        rw [progress] at reply
        cases congrArg Answer.status (Reply.answered.inj reply)
    · rw [same] at handled
      exact (Prod.mk.inj handled).2.symm

end Http

end KeyedLocks
