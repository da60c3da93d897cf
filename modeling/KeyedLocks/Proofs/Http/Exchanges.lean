/-
The calls behind open exchanges.

An exchange stays open as long as its request waits, and all that is kept of it is the name of a
call. For that name to be good whenever the exchange is looked at, nobody else may have taken the
call away: every open exchange has a call in its table, and no two have the same one
(`Attended`). The second half is what carries the first through a step, for only whoever looks at
an exchange or leaves it takes its call out of the table.

So a look at an open exchange always finds its call, and it is the call that the exchange was
opened with, for the same request (`open_run`).
-/
import KeyedLocks.Proofs.Http.Runs

set_option autoImplicit false

namespace KeyedLocks

/-! ## The request behind a ticket -/

namespace Table

/-- The request of the call of a ticket. -/
def request? (t : Table) (ticket : Nat) : Option Request := (t.call? ticket).map Call.request

variable {t : Table} {e : Event} {o : Outcome} {ticket : Nat} {r : Request}

/-- Tickets are different, so a request is known exactly if some call with the ticket makes it. -/
theorem Queued.request?_eq_some_iff (q : t.Queued) :
    t.request? ticket = some r ↔ ∃ c ∈ t.calls, c.ticket = ticket ∧ c.request = r := by
  simp only [request?, Option.map_eq_some_iff, q.call?_eq_some_iff, and_assoc]

/-- Only who looks or leaves takes his call away. -/
theorem returns?_eq_some (returns : returns? e o = some ticket) :
    e = .poll ticket ∨ e = .depart ticket := by
  unfold returns? quits? at returns
  split at returns
  · cases returns
    exact .inl rfl
  · split at returns <;> cases returns
    · exact .inr rfl
    · exact .inr rfl
    · exact .inl rfl

/-- **A call stays** for the same request while somebody else does something. -/
theorem request?_step (s : t.Sound) (poll : e ≠ .poll ticket) (depart : e ≠ .depart ticket)
    (known : t.request? ticket = some r) : (t.step e).2.request? ticket = some r := by
  have way := step_way s.toQueued e
  obtain ⟨c, hc, rfl, rfl⟩ := s.toQueued.request?_eq_some_iff.1 known
  rw [(s.way way).toQueued.request?_eq_some_iff, way.calls s.toQueued]
  refine ⟨c.take (t.publishes? e (t.step e).1), List.mem_append_left _ ?_, rfl, rfl⟩
  -- The call would only be taken out by a look or a departure under its own ticket.
  refine List.mem_map_of_mem (List.mem_filter.2 ⟨hc, ?_⟩)
  simp only [Bool.not_eq_true', decide_eq_false_iff_not]
  intro returns
  rcases returns?_eq_some returns with here | here
  · exact poll here
  · exact depart here

/-- A call that has to wait is there afterwards, under a ticket that nobody had before. -/
theorem request?_acquire (s : t.Sound) {token : String}
    (waits : (t.acquire token r).1 = .waiting ticket) :
    (t.acquire token r).2.request? ticket = some r
      ∧ ∀ n r', t.request? n = some r' → n ≠ ticket := by
  have way := step_way s.toQueued (.acquire token r)
  have told : (t.step (.acquire token r)).1 = .acquisition (.waiting ticket) :=
    congrArg Outcome.acquisition waits
  have joins : joins? (.acquire token r) (t.step (.acquire token r)).1
      = some ⟨ticket, token, r, none⟩ := by
    rw [told]
    rfl
  have after : (t.step (.acquire token r)).2.request? ticket = some r := by
    rw [(s.way way).toQueued.request?_eq_some_iff, way.calls s.toQueued, joins]
    exact ⟨_, List.mem_append_right _ List.mem_cons_self, rfl, rfl⟩
  refine ⟨after, fun n r' known same => ?_⟩
  obtain ⟨c, hc, rfl, -⟩ := s.toQueued.request?_eq_some_iff.1 known
  -- A new ticket is higher than all that were given out.
  have new : ticket = t.nextTicket := (way.joins joins).1
  have old := s.toQueued.ticket_lt c hc
  omega

end Table

/-! ## What calls come to -/

/-- What a call comes to in a service that knows it: an answer, the news that it was called off,
or a ticket under which it waits. -/
inductive LockProgress.Proper : LockProgress → Prop
  | answered (a : Response) : Proper (.answered a)
  | cancelled (key : String) : Proper (.failed (.cancelled key))
  | waiting (ticket : Nat) : Proper (.waiting ticket)

namespace Table

variable {t : Table} {ticket : Nat} {r : Request}

/-- A request to lock is granted or called off, or it waits. -/
theorem lock_progress (t : Table) (token : String) (r : Request) :
    (t.lock token r).1 = .answered (.succeeded r .lock)
      ∨ (∃ key, (t.lock token r).1 = .failed (.cancelled key))
      ∨ ∃ ticket, (t.lock token r).1 = .waiting ticket
        ∧ (t.acquire token r).1 = .waiting ticket := by
  unfold lock
  split
  · exact .inl rfl
  · exact .inl rfl
  · exact .inr (.inl ⟨_, rfl⟩)
  · next found => exact .inr (.inr ⟨_, rfl, by rw [found]⟩)

/-- **A call that is looked at** has its lock, or is called off, or waits on, and then nothing has
happened. -/
theorem pollLock_progress (known : t.request? ticket = some r) :
    (t.pollLock ticket).1 = .answered (.succeeded r .lock)
      ∨ (∃ key, (t.pollLock ticket).1 = .failed (.cancelled key))
      ∨ t.pollLock ticket = (.waiting ticket, t) := by
  obtain ⟨c, found, rfl⟩ := Option.map_eq_some_iff.1 known
  rw [pollLock, found]
  dsimp only
  -- A permit is looked for before anyone asks whether the call was called off.
  cases permit : c.permit with
  | some g =>
    rw [poll_of_permit found permit]
    exact .inl rfl
  | none =>
    by_cases off : c.token ∈ t.cancelled
    · rw [poll_of_cancelled found permit off]
      exact .inr (.inl ⟨_, rfl⟩)
    · rw [poll_of_pending found permit off]
      exact .inr (.inr rfl)

end Table

namespace Service

/-- The request of a call of a service. -/
def request? (s : Service) (c : CallRef) : Option Request := (s.table c.kind).request? c.ticket

variable {s : Service} {op : Operation} {r : Request}

/-- A call that waits is there afterwards, and it is nobody else's. -/
theorem request?_ask (sound : (s.table r.kind).Sound) {ticket : Nat}
    (waits : (s.ask op r).1 = .waiting ticket) :
    (s.ask op r).2.request? ⟨r.kind, ticket⟩ = some r
      ∧ ∀ c r', s.request? c = some r' → c ≠ ⟨r.kind, ticket⟩ := by
  cases op with
  | tryLock | unlock => cases waits
  | lock =>
    change ((s.table r.kind).lock stopToken r).1 = .waiting ticket at waits
    rcases (s.table r.kind).lock_progress stopToken r with
      answered | ⟨key, cancelled⟩ | ⟨n, waits', acquired⟩
    -- Of the three things that a wait can come to, only the last gives out a ticket.
    · cases answered.symm.trans waits
    · cases cancelled.symm.trans waits
    · cases waits'.symm.trans waits
      obtain ⟨there, new⟩ := Table.request?_acquire sound acquired
      refine ⟨?_, ?_⟩
      · rw [request?, table_ask, if_pos rfl]
        exact there
      · rintro c r' known rfl
        exact new _ r' known rfl

/-- A call that is looked at, as the service tells it. -/
theorem poll_progress {c : CallRef} (known : s.request? c = some r) :
    (s.poll c).1 = .answered (.succeeded r .lock)
      ∨ (∃ key, (s.poll c).1 = .failed (.cancelled key))
      ∨ (s.poll c).1 = .waiting c.ticket ∧ (s.poll c).2 = s := by
  rcases Table.pollLock_progress known with answered | cancelled | waits
  · exact .inl answered
  · exact .inr (.inl cancelled)
  · refine .inr (.inr ⟨congrArg Prod.fst waits, ?_⟩)
    change s.setTable ((s.table c.kind).pollLock c.ticket).2 c.kind = s
    rw [waits]
    cases c.kind <;> rfl

/-- Whatever is asked, the service knows what the call comes to. -/
theorem ask_proper (s : Service) (op : Operation) (r : Request) : (s.ask op r).1.Proper := by
  cases op with
  | tryLock | unlock => exact .answered _
  | lock =>
    change ((s.table r.kind).lock stopToken r).1.Proper
    rcases (s.table r.kind).lock_progress stopToken r with
      answered | ⟨key, cancelled⟩ | ⟨n, waits, -⟩
    · exact answered ▸ .answered _
    · exact cancelled ▸ .cancelled key
    · exact waits ▸ .waiting n

/-- A look at a call that is known gets its response, or is told that it was called off or that it
waits. -/
theorem poll_proper {c : CallRef} (known : s.request? c = some r) : (s.poll c).1.Proper := by
  rcases poll_progress known with answered | ⟨key, cancelled⟩ | ⟨waits, -⟩
  · exact answered ▸ .answered _
  · exact cancelled ▸ .cancelled key
  · exact waits ▸ .waiting c.ticket

end Service

namespace Http.Server

variable {s : Server} {n : Nat} {c : CallRef} {r : Request}

/-! ## Open exchanges -/

/-- Every open exchange has a call, and no two have the same one. -/
structure Attended (s : Server) : Prop where
  sound : ∀ kind, (s.service.table kind).Sound
  waits : ∀ n c, s.exchange? n = some c → ∃ r, s.service.request? c = some r
  apart : ∀ n n' c, s.exchange? n = some c → s.exchange? n' = some c → n = n'

/-- Only an exchange that there is can be open. -/
theorem exchange?_lt (opened : s.exchange? n = some c) : n < s.exchanges.length := by
  rw [exchange?, Option.join_eq_some_iff] at opened
  exact (List.getElem?_eq_some_iff.1 opened).1

/-- The exchanges after a request came in. -/
theorem exchange?_append (service : Service) (reply : Option CallRef) :
    exchange? ⟨service, s.exchanges ++ [reply]⟩ n
      = if n = s.exchanges.length then reply else s.exchange? n := by
  by_cases new : n = s.exchanges.length
  · rw [if_pos new, exchange?, new, List.getElem?_concat_length]
    rfl
  · rw [if_neg new, exchange?, exchange?]
    by_cases old : n < s.exchanges.length
    · rw [List.getElem?_append_left old]
    · rw [List.getElem?_eq_none (by simp; omega), List.getElem?_eq_none (by omega)]

/-- The exchanges after one of them was looked at or left. -/
theorem exchange?_set (service : Service) (reply : Option CallRef) {n' : Nat}
    (old : n' < s.exchanges.length) :
    exchange? ⟨service, s.exchanges.set n' reply⟩ n
      = if n = n' then reply else s.exchange? n := by
  rw [exchange?, exchange?, List.getElem?_set]
  by_cases same : n = n'
  · subst same
    rw [if_pos rfl, if_pos rfl, if_pos old]
    rfl
  · rw [if_neg (Ne.symm same), if_neg same]

/-! ## Looking at an exchange, and leaving it -/

/-- A look at an open exchange is a look at its call, and the exchange closes when there is a reply.
-/
theorem step_poll (opened : s.exchange? n = some c) :
    s.step (.poll n) = (some (lockReply c.kind (s.service.poll c).1),
      ⟨(s.service.poll c).2, s.exchanges.set n (lockReply c.kind (s.service.poll c).1).call?⟩) := by
  rw [step, opened]
  rfl

/-- A closed one is not looked at. -/
theorem step_poll_of_closed (closed : s.exchange? n = none) : s.step (.poll n) = (none, s) := by
  rw [step, closed]

/-- Whoever leaves an open exchange lets its call depart. -/
theorem step_disconnect (opened : s.exchange? n = some c) :
    s.step (.disconnect n) = (none, ⟨s.service.depart c, s.exchanges.set n none⟩) := by
  rw [step, opened]

theorem step_disconnect_of_closed (closed : s.exchange? n = none) :
    s.step (.disconnect n) = (none, s) := by
  rw [step, closed]

/-! ## What an event does to the calls behind them -/

/-- A call stays while its table does something about another call, or another table does
something. -/
theorem request?_of_other (a : s.Attended) {service : Service} {k : LockKind} {e : Event}
    (table : service.table c.kind
      = if c.kind = k then ((s.service.table c.kind).step e).2 else s.service.table c.kind)
    (poll : c.kind = k → e ≠ .poll c.ticket) (depart : c.kind = k → e ≠ .depart c.ticket)
    (known : s.service.request? c = some r) : service.request? c = some r := by
  rw [Service.request?, table]
  split
  · next here => exact Table.request?_step (a.sound c.kind) (poll here) (depart here) known
  · exact known

/-- An operation is about no call that is there already. -/
theorem request?_ask_of_known (a : s.Attended) (op : Operation) (r' : Request)
    (known : s.service.request? c = some r) : (s.service.ask op r').2.request? c = some r :=
  request?_of_other a (s.service.table_ask op r' c.kind) (by cases op <;> simp [Operation.event])
    (by cases op <;> simp [Operation.event]) known

/-- A look at another call. -/
theorem request?_poll_of_known (a : s.Attended) {c' : CallRef} (other : c ≠ c')
    (known : s.service.request? c = some r) : (s.service.poll c').2.request? c = some r := by
  refine request?_of_other a (s.service.table_poll c' c.kind) (fun here same => ?_)
    (by simp) known
  obtain ⟨k, ticket⟩ := c
  obtain ⟨k', ticket'⟩ := c'
  simp_all

/-- The departure of another call. -/
theorem request?_depart_of_known (a : s.Attended) {c' : CallRef} (other : c ≠ c')
    (known : s.service.request? c = some r) : (s.service.depart c').request? c = some r := by
  refine request?_of_other a (s.service.table_depart c' c.kind) (by simp) (fun here same => ?_)
    known
  obtain ⟨k, ticket⟩ := c
  obtain ⟨k', ticket'⟩ := c'
  simp_all

/-- A message is about no call that is there already. -/
theorem request?_handle_of_known (a : s.Attended) (m : Message)
    (known : s.service.request? c = some r) : (handle s.service m).2.request? c = some r := by
  rcases handle_cases s.service m with ⟨op, r', -, handled⟩ | ⟨answer, handled, -⟩
  · rw [handled]
    exact request?_ask_of_known a op r' known
  · rw [handled]
    exact known

/-- A look at any exchange leaves the calls of those that are open afterwards. -/
theorem open_poll (a : s.Attended) {n' : Nat}
    (opened : (s.step (.poll n')).2.exchange? n = some c) :
    s.exchange? n = some c
      ∧ ∀ r, s.service.request? c = some r →
        (s.step (.poll n')).2.service.request? c = some r := by
  cases looked : s.exchange? n' with
  | none =>
    rw [step_poll_of_closed looked] at opened ⊢
    exact ⟨opened, fun r known => known⟩
  | some c' =>
    rw [step_poll looked, exchange?_set _ _ (exchange?_lt looked)] at opened
    rw [step_poll looked]
    by_cases same : n = n'
    · subst same
      rw [if_pos rfl] at opened
      obtain ⟨r', known'⟩ := a.waits n c' looked
      -- It is still open, so it waits on and nothing has happened.
      rcases Service.poll_progress known' with answered | ⟨key, cancelled⟩ | ⟨waits, unchanged⟩
      · rw [answered] at opened
        cases opened
      · rw [cancelled] at opened
        cases opened
      · rw [waits] at opened
        cases opened
        rw [unchanged]
        exact ⟨looked, fun r known => known⟩
    · rw [if_neg same] at opened
      have other : c ≠ c' := by
        rintro rfl
        exact same (a.apart n n' c opened looked)
      exact ⟨opened, fun r known => request?_poll_of_known a other known⟩

/-- When somebody leaves, the exchanges that are open afterwards were open before. -/
theorem open_disconnect (a : s.Attended) {n' : Nat}
    (opened : (s.step (.disconnect n')).2.exchange? n = some c) :
    s.exchange? n = some c
      ∧ ∀ r, s.service.request? c = some r →
        (s.step (.disconnect n')).2.service.request? c = some r := by
  cases left : s.exchange? n' with
  | none =>
    rw [step_disconnect_of_closed left] at opened ⊢
    exact ⟨opened, fun r known => known⟩
  | some c' =>
    rw [step_disconnect left, exchange?_set _ _ (exchange?_lt left)] at opened
    rw [step_disconnect left]
    by_cases same : n = n'
    · rw [if_pos same] at opened
      cases opened
    · rw [if_neg same] at opened
      -- Two open exchanges with one call would be the same exchange, so the call that departs is
      -- another one.
      have other : c ≠ c' := by
        rintro rfl
        exact same (a.apart n n' c opened left)
      exact ⟨opened, fun r known => request?_depart_of_known a other known⟩

/-- **An exchange that is open after an event** was open before it, or the event has just opened
it, and its call was there all the time. -/
theorem open_step (a : s.Attended) (e : ServerEvent)
    (opened : (s.step e).2.exchange? n = some c) (old : n < s.exchanges.length) :
    s.exchange? n = some c
      ∧ ∀ r, s.service.request? c = some r → (s.step e).2.service.request? c = some r := by
  cases e with
  | receive m =>
    rw [step, exchange?_append, if_neg (Nat.ne_of_lt old)] at opened
    exact ⟨opened, fun r known => request?_handle_of_known a m known⟩
  | poll n' => exact open_poll a opened
  | disconnect n' => exact open_disconnect a opened
  -- The rest come from no exchange: they are events of one table or of all, and none of them is a
  -- look or a departure.
  | reap kind =>
    refine ⟨opened, fun r known => ?_⟩
    refine request?_of_other a (k := kind) (e := .reap) ?_ (by simp) (by simp) known
    change (s.service.setTable _ kind).table c.kind = _
    rw [Service.table_setTable]
    split
    · next here =>
      rw [here]
      rfl
    · rfl
  | tick ns =>
    refine ⟨opened, fun r known => ?_⟩
    refine request?_of_other a (k := c.kind) (e := .tick ns) ?_ (by simp) (by simp) known
    rw [if_pos rfl]
    exact Service.table_mapTables _ _ c.kind
  | stop =>
    refine ⟨opened, fun r known => ?_⟩
    have sound := a.sound c.kind
    -- The end of a service is two events for each table.
    have cancelled := sound.way (Table.step_way sound.toQueued (.cancel Service.stopToken))
    change (s.service.stop.table c.kind).request? c.ticket = some r
    rw [Service.stop, Service.table_mapTables]
    refine Table.request?_step (e := .stopReaper) cancelled (by simp) (by simp) ?_
    exact Table.request?_step (e := .cancel Service.stopToken) sound (by simp) (by simp) known

/-- A message that has to wait has a call of its own. -/
theorem opened_by_message (a : s.Attended) (m : Message)
    (waits : (handle s.service m).1.call? = some c) :
    (∃ r, (handle s.service m).2.request? c = some r) ∧ ∀ n, s.exchange? n ≠ some c := by
  rcases handle_cases s.service m with ⟨op, r, -, handled⟩ | ⟨answer, handled, -⟩
  · rw [handled] at waits ⊢
    cases progress : (s.service.ask op r).1 with
    | answered | failed | unknown =>
      rw [progress] at waits
      cases waits
    | waiting ticket =>
      rw [progress] at waits
      cases waits
      obtain ⟨there, nobody⟩ := Service.request?_ask (a.sound r.kind) progress
      refine ⟨⟨r, there⟩, fun n older => ?_⟩
      -- An older exchange with this ticket would have a call, but the ticket is new.
      obtain ⟨r', known⟩ := a.waits n _ older
      exact nobody _ r' known rfl
  · rw [handled] at waits
    cases waits

/-- **An exchange that an event opens** is the next one, and has a call of its own. -/
theorem opened_by_step (a : s.Attended) (e : ServerEvent)
    (opened : (s.step e).2.exchange? n = some c) (new : ¬ n < s.exchanges.length) :
    n = s.exchanges.length ∧ (∃ r, (s.step e).2.service.request? c = some r)
      ∧ ∀ n', s.exchange? n' ≠ some c := by
  -- Where the list of exchanges grows by none, there is no new one that could be open.
  have none : ∀ t : Server, t.exchanges.length = s.exchanges.length → t.exchange? n ≠ some c :=
    fun t same opened => new (same ▸ exchange?_lt opened)
  cases e with
  | receive m =>
    rw [step, exchange?_append] at opened
    by_cases last : n = s.exchanges.length
    · rw [if_pos last] at opened
      exact ⟨last, opened_by_message a m opened⟩
    · rw [if_neg last] at opened
      exact absurd (exchange?_lt opened) new
  | poll n' =>
    refine absurd opened (none _ ?_)
    rw [step]
    split <;> simp
  | disconnect n' =>
    refine absurd opened (none _ ?_)
    rw [step]
    split <;> simp
  | reap | tick | stop => exact absurd opened (none _ rfl)

/-- **Every event leaves every open exchange its own call.** -/
theorem Attended.step (a : s.Attended) (e : ServerEvent) : (s.step e).2.Attended := by
  refine ⟨fun kind => ?_, fun n c opened => ?_, fun n n' c first second => ?_⟩
  · obtain ⟨fs, same, -⟩ := reaches_step s e kind
    rw [same]
    exact (a.sound kind).run fs
  · by_cases old : n < s.exchanges.length
    · obtain ⟨before, stays⟩ := open_step a e opened old
      obtain ⟨r, known⟩ := a.waits n c before
      exact ⟨r, stays r known⟩
    · exact (opened_by_step a e opened old).2.1
  -- Two older ones are apart already, and a new one has a call that no older one has.
  · by_cases old : n < s.exchanges.length <;> by_cases old' : n' < s.exchanges.length
    · exact a.apart n n' c (open_step a e first old).1 (open_step a e second old').1
    · exact absurd (open_step a e first old).1 ((opened_by_step a e second old').2.2 n)
    · exact absurd (open_step a e second old').1 ((opened_by_step a e first old).2.2 n')
    · rw [(opened_by_step a e first old).1, (opened_by_step a e second old').1]

/-- At the start there is no exchange to attend to. -/
theorem attended_start (horizon : Horizon) : (start horizon).Attended := by
  have nothing : ∀ n c, (start horizon).exchange? n ≠ some c := by
    intro n c opened
    exact absurd (exchange?_lt opened) (Nat.not_lt_zero n)
  exact ⟨sound_run [], fun n c opened => absurd opened (nothing n c),
    fun n _ c opened => absurd opened (nothing n c)⟩

/-- Servers stay attended through a run. -/
theorem Attended.run (a : s.Attended) (es : List ServerEvent) : (s.run es).Attended := by
  induction es generalizing s with
  | nil => exact a
  | cons e es ih => exact ih (a.step e)

/-- **Every server attends to its exchanges,** whatever it has been through. -/
theorem attended_run (horizon : Horizon) (es : List ServerEvent) :
    ((start horizon).run es).Attended := (attended_start horizon).run es

/-- Exchanges are closed but never taken off the list. -/
theorem length_exchanges_step (s : Server) (e : ServerEvent) :
    s.exchanges.length ≤ (s.step e).2.exchanges.length := by
  cases e <;> rw [Server.step] <;> try split
  all_goals simp

/-- **An exchange that stays open keeps its call** through a whole run, for the same request. -/
theorem open_run (a : s.Attended) (es : List ServerEvent)
    (opened : (s.run es).exchange? n = some c) (old : n < s.exchanges.length) :
    s.exchange? n = some c
      ∧ ∀ r, s.service.request? c = some r → (s.run es).service.request? c = some r := by
  induction es generalizing s with
  | nil => exact ⟨opened, fun r known => known⟩
  | cons e es ih =>
    have longer := length_exchanges_step s e
    obtain ⟨next, stays⟩ := ih (a.step e) opened (by omega)
    obtain ⟨before, first⟩ := open_step a e next old
    exact ⟨before, fun r known => stays r (first r known)⟩

/-! ## What is told -/

/-- **The service is never at fault:** no event of any server is answered with an internal
error. -/
theorem status_ne_internal (a : s.Attended) (e : ServerEvent) {answer : Answer}
    (told : (s.step e).1 = some (.answered answer)) : answer.status ≠ 500 := by
  -- Of all that the service can say of a call, only a ticket that nobody knows would be an internal
  -- error.
  have proper : ∀ kind p, LockProgress.Proper p → lockReply kind p = .answered answer →
      answer.status ≠ 500 := by
    intro kind p progress same
    cases progress <;> cases same
    · exact of_decide_eq_true rfl
    · exact of_decide_eq_true rfl
  cases e with
  | receive m =>
    have reply : (handle s.service m).1 = .answered answer := Option.some.inj told
    rcases handle_cases s.service m with ⟨op, r, -, handled⟩ | ⟨b, handled, low⟩
    · rw [handled] at reply
      exact proper r.kind _ (s.service.ask_proper op r) reply
    · rw [handled] at reply
      cases reply
      omega
  | poll n =>
    cases looked : s.exchange? n with
    | none =>
      rw [step_poll_of_closed looked] at told
      cases told
    | some c =>
      rw [step_poll looked] at told
      obtain ⟨r, known⟩ := a.waits n c looked
      exact proper c.kind _ (Service.poll_proper known) (Option.some.inj told)
  | disconnect n =>
    cases left : s.exchange? n with
    | none =>
      rw [step_disconnect_of_closed left] at told
      cases told
    | some c =>
      rw [step_disconnect left] at told
      cases told
  | reap | tick | stop => cases told

end Http.Server

end KeyedLocks
