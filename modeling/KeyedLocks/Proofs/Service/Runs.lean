/-
Runs of a service.

Each table of a service goes through a run of its own (`table_run`), so what is known of the runs
of a table need not be proved again.

Settling and milliseconds that pass are no steps of a service. They are runs of steps of the clock
and of those who look after deadlines (`exists_run_settle`, `exists_run_advance`), and so a
session, which settles after each of its steps, gets a service nowhere that a run does not
(`exists_run_session`).
-/
import KeyedLocks.Proofs.Http.Runs
import KeyedLocks.Service.Run
import KeyedLocks.Service.Session

set_option autoImplicit false

namespace KeyedLocks

/-! ## What a step is to a table -/

/-- What a step of a service is to the table of a kind. -/
def ServiceStep.event? (kind : LockKind) : ServiceStep → Option Event
  | .tryLock r => if r.kind = kind then some (.tryAcquire r) else none
  | .lock r => if r.kind = kind then some (.acquire Service.stopToken r) else none
  | .unlock r => if r.kind = kind then some (.release r) else none
  | .poll c => if c.kind = kind then some (.poll c.ticket) else none
  | .depart c => if c.kind = kind then some (.depart c.ticket) else none
  | .callOff => some (.cancel Service.stopToken)
  | .reap k => if k = kind then some .reap else none
  | .stopReaper k => if k = kind then some .stopReaper else none
  | .tick ns => some (.tick ns)

/-- All who wait in a service share the token of the service. -/
theorem ServiceStep.token_eq {kind : LockKind} {es : List ServiceStep} {token : String}
    {r : Request} (asked : Event.acquire token r ∈ es.filterMap (event? kind)) :
    token = Service.stopToken := by
  obtain ⟨e, -, projected⟩ := List.mem_filterMap.1 asked
  -- Only a request to wait becomes one that waits.
  cases e with
  | lock q =>
    rw [event?, Option.ite_none_right_eq_some] at projected
    cases projected.2
    rfl
  | callOff | tick => cases projected
  | _ =>
    rw [event?, Option.ite_none_right_eq_some] at projected
    cases projected.2

namespace Service

/-- One step of a service is one event of the table of its kind, or of all, or of none. -/
theorem table_after (s : Service) (e : ServiceStep) (kind : LockKind) :
    (s.after e).table kind
      = (e.event? kind).elim (s.table kind) fun f => ((s.table kind).step f).2 := by
  -- What concerns one table changes that table and no other.
  have one : ∀ (k : LockKind) (f : Event),
      (if kind = k then ((s.table kind).step f).2 else s.table kind)
        = (if k = kind then some f else none).elim (s.table kind)
            fun f => ((s.table kind).step f).2 := by
    intro k f
    by_cases here : kind = k
    · rw [if_pos here, if_pos here.symm, Option.elim_some]
    · rw [if_neg here, if_neg (Ne.symm here), Option.elim_none]
  cases e with
  | tryLock r => exact (s.table_ask .tryLock r kind).trans (one r.kind _)
  | lock r => exact (s.table_ask .lock r kind).trans (one r.kind _)
  | unlock r => exact (s.table_ask .unlock r kind).trans (one r.kind _)
  | poll c => exact (s.table_poll c kind).trans (one c.kind _)
  | depart c => exact (s.table_depart c kind).trans (one c.kind _)
  | callOff => exact s.table_mapTables _ kind
  | tick ns => exact s.table_mapTables _ kind
  | reap k =>
    refine Eq.trans ?_ (one k .reap)
    rw [after, table_setTable]
    split
    · next here =>
      rw [here]
      rfl
    · rfl
  | stopReaper k =>
    refine Eq.trans ?_ (one k .stopReaper)
    rw [after, table_setTable]
    split
    · next here =>
      rw [here]
      rfl
    · rfl

/-- A run can be cut in two anywhere. -/
theorem run_append (s : Service) (es fs : List ServiceStep) :
    s.run (es ++ fs) = (s.run es).run fs := by
  induction es generalizing s with
  | nil => rfl
  | cons e es ih => exact ih _

/-- **Each table goes through a run of its own.** -/
theorem table_run (s : Service) (es : List ServiceStep) (kind : LockKind) :
    (s.run es).table kind = (s.table kind).run (es.filterMap (ServiceStep.event? kind)) := by
  induction es generalizing s with
  | nil => rfl
  | cons e es ih =>
    rw [run, ih, table_after, List.filterMap_cons]
    cases e.event? kind <;> rfl

/-- The events of a run in the table of a kind, from the start. -/
theorem table_run_start {horizon : Horizon} (es : List ServiceStep) (kind : LockKind) :
    ((start horizon).run es).table kind
      = (Table.opening kind (decide (kind = .timeout)) (Http.Server.firstReaper kind) horizon).run
          (es.filterMap (ServiceStep.event? kind)) := by
  rw [table_run, Http.Server.table_start]

/-! ## Settling and the passing of time -/

/-- A service is its three tables. -/
theorem ext_table {s u : Service} (same : ∀ kind, s.table kind = u.table kind) : s = u := by
  cases s
  cases u
  exact Service.mk.injEq .. ▸ ⟨same .simple, same .reentrant, same .timeout⟩

/-- **Settling** is a run in which nobody takes a step but those who look after deadlines. -/
theorem exists_run_settle (s : Service) : ∃ es, s.settle = s.run es := by
  choose n settled using fun kind => Table.exists_run_settle (s.table kind)
  refine ⟨LockKind.all.flatMap fun kind => List.replicate (n kind) (.reap kind),
    ext_table fun kind => ?_⟩
  rw [settle, table_mapTables, settled, table_run]
  congr 1
  cases kind <;> simp [LockKind.all, ServiceStep.event?]

/-- **Milliseconds that pass** are a run of steps of the clock and of settling. -/
theorem exists_run_advance (s : Service) (ms : Nat) : ∃ es, s.advance ms = s.run es := by
  induction ms with
  | zero => exact exists_run_settle s
  | succ ms ih =>
    obtain ⟨es, before⟩ := ih
    -- A millisecond is one step of the clock, and settling is a run behind it.
    obtain ⟨fs, after⟩ := exists_run_settle ((s.run es).after (.tick millisecond))
    refine ⟨es ++ .tick millisecond :: fs, ?_⟩
    rw [run_append, run, ← after, ← before]
    refine ext_table fun kind => ?_
    rw [advance, settle, table_mapTables, table_mapTables, Service.after, table_mapTables, advance,
      table_mapTables, Table.advance_succ]

end Service

/-- A step of a session is a run of its service. -/
theorem Session.exists_run_step (s : Session) (e : ServiceEvent) :
    ∃ es, (s.step e).2.service = s.service.run es := by
  have acted : ∃ es, (s.act e).2.service = s.service.run es := by
    cases e with
    | tryLock r => exact ⟨[.tryLock r], rfl⟩
    | unlock r => exact ⟨[.unlock r], rfl⟩
    | lock r => exact ⟨[.lock r], rfl⟩
    | poll call =>
      rw [act]
      cases s.ticket? call with
      | none => exact ⟨[], rfl⟩
      | some ticket => exact ⟨[.poll ⟨call.kind, ticket⟩], rfl⟩
    | depart call =>
      rw [act]
      cases s.ticket? call with
      | none => exact ⟨[], rfl⟩
      | some ticket => exact ⟨[.depart ⟨call.kind, ticket⟩], rfl⟩
    | advance ms => exact s.service.exists_run_advance ms
    | jump ms => exact ⟨[.tick (ms * millisecond)], rfl⟩
    | stop => exact ⟨_, s.service.stop_eq_run⟩
  obtain ⟨es, acted⟩ := acted
  obtain ⟨fs, settled⟩ := (s.service.run es).exists_run_settle
  refine ⟨es ++ fs, ?_⟩
  rw [Service.run_append, ← settled, ← acted]
  rfl

/-- **Sessions are runs.** Every service that a session leads to is one that a run leads to. -/
theorem Session.exists_run_session (horizon : Horizon) (es : List ServiceEvent) :
    ∃ fs, (es.foldl (fun s e => (s.step e).2) (start horizon)).service
      = (Service.start horizon).run fs := by
  induction es using List.reverseRecOn with
  | nil => exact ⟨[], rfl⟩
  | append_singleton es e ih =>
    obtain ⟨fs, before⟩ := ih
    obtain ⟨gs, step⟩ := exists_run_step (es.foldl (fun s e => (s.step e).2) (start horizon)) e
    refine ⟨fs ++ gs, ?_⟩
    rw [List.foldl_concat, step, before, Service.run_append]

end KeyedLocks
