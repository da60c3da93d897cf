/-
What a message asks of the tables.

A message goes through many hands before a table sees anything of it: its method, its path,
its body and what the body says are looked at in turn, and whoever is not content answers.
`Message.Asks` is what is left if everybody is content, an operation and a request that is
valid for it. Then the message comes to the same as the call of the service (`handle_of_asks`),
and otherwise the service stays as it was (`handle_of_no_ask`).
-/
import KeyedLocks.Http.Server
import KeyedLocks.Table.Event

set_option autoImplicit false

namespace KeyedLocks

/-! ## Operations -/

/-- What a request must meet for an operation. -/
def Operation.check (op : Operation) (r : Request) : Except RequestError Unit :=
  match op with
  | .unlock => r.validate
  | _ => r.validateAcquire

/-- What an operation does to the table of its kind. -/
def Operation.event (op : Operation) (r : Request) : Event :=
  match op with
  | .tryLock => .tryAcquire r
  | .lock => .acquire Service.stopToken r
  | .unlock => .release r

namespace Service

/-- The call of a service for an operation. Only a request to lock can stay undecided. -/
def ask (s : Service) (op : Operation) (r : Request) : LockProgress × Service :=
  match op with
  | .tryLock => (s.tryLock r).map .answered id
  | .lock => s.lock r
  | .unlock => (s.unlock r).map .answered id

/-! ## What one call does to the tables -/

variable (s : Service)

/-- A call of the service is an event for the table of its kind and nothing to the others. -/
theorem table_ask (op : Operation) (r : Request) (k : LockKind) :
    (s.ask op r).2.table k
      = if k = r.kind then ((s.table k).step (op.event r)).2 else s.table k := by
  have own : (s.ask op r).2 = s.setTable ((s.table r.kind).step (op.event r)).2 r.kind := by
    cases op with
    | tryLock => exact congrArg (s.setTable · r.kind) (Table.tryLock_snd _ r)
    | lock => exact congrArg (s.setTable · r.kind) (Table.lock_snd _ stopToken r)
    | unlock => exact congrArg (s.setTable · r.kind) (Table.unlock_snd _ r)
  rw [own, table_setTable]
  split
  · next here => rw [here]
  · rfl

/-- A look at a call is a step of the table of its kind, and of no other. -/
theorem table_poll (c : CallRef) (k : LockKind) :
    (s.poll c).2.table k
      = if k = c.kind then ((s.table k).step (.poll c.ticket)).2 else s.table k := by
  have own : (s.poll c).2 = s.setTable ((s.table c.kind).step (.poll c.ticket)).2 c.kind :=
    congrArg (s.setTable · c.kind) (Table.pollLock_snd _ c.ticket)
  rw [own, table_setTable]
  split
  · next here => rw [here]
  · rfl

/-- A departure is a step of the table of its kind, and of no other. -/
theorem table_depart (c : CallRef) (k : LockKind) :
    (s.depart c).table k
      = if k = c.kind then ((s.table k).step (.depart c.ticket)).2 else s.table k := by
  rw [depart, table_setTable]
  split
  · next here =>
    rw [here]
    rfl
  · rfl

end Service

namespace Http

/-! ## Messages -/

/-- A message asks something of the tables: nobody it meets on its way turns it away. -/
structure Message.Asks (m : Message) (op : Operation) (r : Request) : Prop where
  method : m.method = "POST"
  path : Route.ofPath? m.path = some (.act op)
  body : readBody m = .ok r
  valid : op.check r = .ok ()

variable {m : Message} {op : Operation} {r : Request}

/-- A message posted to an operation is as good as its body. -/
theorem handle_of_post (s : Service) (method : m.method = "POST")
    (path : Route.ofPath? m.path = some (.act op)) :
    handle s m = match readBody m with
      | .error e => (.answered (bodyErrorAnswer e), s)
      | .ok r => perform s op r := by
  have other : ¬ m.method = "OPTIONS" := by
    rw [method]
    decide
  rw [handle, if_neg other, path]
  cases body : readBody m <;> simp only [handleRoute, method, body, if_true]

/-- **A request is checked first.** One that is turned away reaches no table, and one that is
valid is the call of the service, told as an answer. -/
theorem perform_eq (s : Service) (op : Operation) (r : Request) :
    perform s op r = match op.check r with
      | .error e => (.answered (errorAnswer (.ofRequestError e)), s)
      | .ok () => (lockReply r.kind (s.ask op r).1, (s.ask op r).2) := by
  delta perform Operation.check
  cases op with
  | tryLock | lock =>
    dsimp only
    cases r.validateAcquire <;> rfl
  | unlock =>
    dsimp only
    cases r.validate <;> rfl

theorem handle_of_asks (s : Service) (a : m.Asks op r) :
    handle s m = (lockReply r.kind (s.ask op r).1, (s.ask op r).2) := by
  simp only [handle_of_post s a.method a.path, a.body, perform_eq, a.valid]

/-- A route that only shows something shows it, or refuses the method. -/
theorem handleRoute_of_view (s : Service) (m : Message) {route : Route}
    (view : route = .health ∨ route = .locks) :
    ∃ a, handleRoute s m route = (.answered a, s) ∧ a.status < 500 := by
  rcases view with rfl | rfl <;> simp only [handleRoute] <;> split
  · exact ⟨_, rfl, of_decide_eq_true rfl⟩
  · split <;> exact ⟨_, rfl, of_decide_eq_true rfl⟩
  · exact ⟨_, rfl, of_decide_eq_true rfl⟩
  · split <;> exact ⟨_, rfl, of_decide_eq_true rfl⟩

/-- **A message that asks nothing of the tables** leaves them as they were. It is answered at
once, and it is never the service that is at fault. -/
theorem handle_of_no_ask (s : Service) (nothing : ∀ op r, ¬ m.Asks op r) :
    ∃ a, handle s m = (.answered a, s) ∧ a.status < 500 := by
  -- The message goes from hand to hand, and whoever turns it away answers with a status below 500.
  -- If nobody did, it would ask something.
  by_cases options : m.method = "OPTIONS"
  · exact ⟨_, if_pos options, of_decide_eq_true rfl⟩
  cases path : Route.ofPath? m.path with
  | none =>
    rw [handle, if_neg options, path]
    exact ⟨_, rfl, of_decide_eq_true rfl⟩
  | some route =>
    cases route with
    -- The two routes to look at answer whatever the method is.
    | health | locks =>
      rw [handle, if_neg options, path]
      exact handleRoute_of_view s m (by simp)
    | act op =>
      by_cases method : m.method = "POST"
      -- Two hands are left, the one that reads the body and the one that checks the request.
      · rw [handle_of_post s method path]
        cases body : readBody m with
        | error e => exact ⟨_, rfl, by cases e <;> exact of_decide_eq_true rfl⟩
        | ok r =>
          dsimp only
          rw [perform_eq]
          cases valid : op.check r with
          | error e => exact ⟨_, rfl, of_decide_eq_true rfl⟩
          | ok _ => exact absurd ⟨method, path, body, valid⟩ (nothing op r)
      · rw [handle, if_neg options, path]
        exact ⟨_, if_neg method, of_decide_eq_true rfl⟩

/-- **There are two kinds of messages**: those that are a call of the service, and those that leave
it as it is. -/
theorem handle_cases (s : Service) (m : Message) :
    (∃ op r, m.Asks op r ∧ handle s m = (lockReply r.kind (s.ask op r).1, (s.ask op r).2))
      ∨ ∃ a, handle s m = (.answered a, s) ∧ a.status < 500 := by
  by_cases asked : ∃ op r, m.Asks op r
  · obtain ⟨op, r, asks⟩ := asked
    exact .inl ⟨op, r, asks, handle_of_asks s asks⟩
  · exact .inr (handle_of_no_ask s fun op r asks => asked ⟨op, r, asks⟩)

end Http

end KeyedLocks
