/-
Runs of a server.

Whatever happens to a server, each of its tables goes through a run of its own
(`exists_run`), and only requests that are valid and of the kind of the table ask anything of
it. So all that is known of the runs of a table is known of the tables of a server.

Settling and the passing of whole milliseconds are not events of a server. They are runs of
steps of the reaper and of the clock (`exists_events_settle`, `exists_events_advance`).
-/
import KeyedLocks.Proofs.Http.Admission
import KeyedLocks.Proofs.Table.Settling
import KeyedLocks.Proofs.Table.Occupants

set_option autoImplicit false

namespace KeyedLocks.Http

namespace Server

/-- A run can be cut in two anywhere. -/
theorem run_append (s : Server) (es fs : List ServerEvent) :
    s.run (es ++ fs) = (s.run es).run fs := by
  induction es generalizing s with
  | nil => rfl
  | cons e es ih => exact ih _

/-- The last event of a run comes last. -/
theorem run_concat (s : Server) (es : List ServerEvent) (e : ServerEvent) :
    s.run (es ++ [e]) = ((s.run es).step e).2 := by
  rw [run_append]
  rfl

/-! ## What an event is to a table -/

/-- A request that may ask something of the table of a kind. -/
structure Admitted (kind : LockKind) (r : Request) : Prop where
  kind : r.kind = kind
  valid : r.validateAcquire = .ok ()

/-- A run of a table in which only such requests ask. -/
def Reaches (kind : LockKind) (t u : Table) : Prop :=
  ∃ es, u = t.run es ∧ ∀ e ∈ es, ∀ r, e.asks r → Admitted kind r

namespace Reaches

variable {kind : LockKind} {t u v : Table}

theorem refl (kind : LockKind) (t : Table) : Reaches kind t t :=
  ⟨[], rfl, fun _ he => absurd he List.not_mem_nil⟩

/-- One run after the other is a run. -/
theorem trans (h : Reaches kind t u) (h' : Reaches kind u v) : Reaches kind t v := by
  obtain ⟨es, rfl, asked⟩ := h
  obtain ⟨fs, rfl, asked'⟩ := h'
  refine ⟨es ++ fs, (Table.run_append t es fs).symm, fun e he => ?_⟩
  rcases List.mem_append.1 he with he | he
  · exact asked e he
  · exact asked' e he

/-- One event, by which nobody asks who may not. -/
theorem event (t : Table) (e : Event) (asked : ∀ r, e.asks r → Admitted kind r) :
    Reaches kind t (t.step e).2 :=
  ⟨[e], rfl, fun _ hf r asks => asked r (List.mem_singleton.1 hf ▸ asks)⟩

end Reaches

variable {kind : LockKind}

/-- A valid request that asks for a key may do so. -/
theorem admitted_of_asks {op : Operation} {r r' : Request} (valid : op.check r = .ok ())
    (asks : (op.event r).asks r') : Admitted r.kind r' := by
  cases op with
  | tryLock =>
    rcases asks with same | ⟨token, same⟩ <;> cases same
    exact ⟨rfl, valid⟩
  | lock =>
    rcases asks with same | ⟨token, same⟩ <;> cases same
    exact ⟨rfl, valid⟩
  | unlock => rcases asks with same | ⟨token, same⟩ <;> cases same

/-- By an event that is no request for a key nobody asks. -/
theorem not_asks {e : Event} {P : Request → Prop} (other : e.asks = fun _ => False) (r : Request)
    (asks : e.asks r) : P r := by
  rw [other] at asks
  exact asks.elim

/-- Whoever neither tries nor waits for a key asks for none. -/
theorem asks_of_quiet {e : Event} (first : ∀ r, e ≠ .tryAcquire r)
    (second : ∀ token r, e ≠ .acquire token r) : e.asks = fun _ => False := by
  funext r
  refine eq_false ?_
  rintro (same | ⟨token, same⟩)
  · exact first r same
  · exact second token r same

/-- **An event of a server** is a run of each of its tables. -/
theorem reaches_step (s : Server) (e : ServerEvent) (kind : LockKind) :
    Reaches kind (s.service.table kind) ((s.step e).2.service.table kind) := by
  have quiet : ∀ (t : Table) (f : Event), (∀ r, f ≠ .tryAcquire r) →
      (∀ token r, f ≠ .acquire token r) → Reaches kind t (t.step f).2 := by
    intro t f first second
    exact .event t f fun r => not_asks (asks_of_quiet first second) r
  -- Each event of a server is one event of the table, two, or none, and only a message can make it
  -- a request.
  cases e with
  | receive m =>
    change Reaches kind _ ((handle s.service m).2.table kind)
    rcases handle_cases s.service m with ⟨op, r, asks, handled⟩ | ⟨a, handled, -⟩
    · rw [handled, Service.table_ask]
      split
      · next here =>
        subst here
        exact .event _ _ fun r' => admitted_of_asks asks.valid
      · exact .refl kind _
    · rw [handled]
      exact .refl kind _
  | poll n =>
    rw [step]
    cases s.exchange? n with
    | none => exact .refl kind _
    | some c =>
      change Reaches kind _ ((s.service.poll c).2.table kind)
      rw [Service.table_poll]
      split
      · exact quiet _ _ (by simp) (by simp)
      · exact .refl kind _
  | disconnect n =>
    rw [step]
    cases s.exchange? n with
    | none => exact .refl kind _
    | some c =>
      change Reaches kind _ ((s.service.depart c).table kind)
      rw [Service.table_depart]
      split
      · exact quiet _ _ (by simp) (by simp)
      · exact .refl kind _
  | reap k =>
    change Reaches kind _ ((s.service.setTable _ k).table kind)
    rw [Service.table_setTable]
    split
    · next here =>
      rw [← here]
      exact quiet _ .reap (by simp) (by simp)
    · exact .refl kind _
  | tick ns =>
    change Reaches kind _ ((s.service.mapTables _).table kind)
    rw [Service.table_mapTables]
    exact quiet _ (.tick ns) (by simp) (by simp)
  | stop =>
    change Reaches kind _ ((s.service.mapTables _).table kind)
    rw [Service.table_mapTables]
    -- The end of a service calls off the waits of a table first and stops its reaper then.
    have cancelled := quiet (s.service.table kind) (.cancel Service.stopToken) (by simp) (by simp)
    exact cancelled.trans (quiet _ .stopReaper (by simp) (by simp))

/-- Each table goes through a run of its own while the server goes through its run. -/
theorem reaches_run (s : Server) (es : List ServerEvent) (kind : LockKind) :
    Reaches kind (s.service.table kind) ((s.run es).service.table kind) := by
  induction es generalizing s with
  | nil => exact .refl kind _
  | cons e es ih => exact (reaches_step s e kind).trans (ih _)

/-! ## From the start -/

/-- Who looks after deadlines in the table of a kind at the start. -/
def firstReaper (kind : LockKind) : Reaper := if kind = .timeout then .running else .absent

/-- The tables at the start are those from which runs of tables begin. -/
theorem table_start (horizon : Horizon) (kind : LockKind) :
    (Service.start horizon).table kind
      = Table.opening kind (decide (kind = .timeout)) (firstReaper kind) horizon := by
  cases kind <;> rfl

variable {horizon : Horizon}

/-- **Each table of a server goes through a run**, and only valid requests of its kind ask
anything of it. -/
theorem exists_run (es : List ServerEvent) (kind : LockKind) :
    ∃ fs, ((start horizon).run es).service.table kind
        = (Table.opening kind (decide (kind = .timeout)) (firstReaper kind) horizon).run fs
      ∧ ∀ f ∈ fs, ∀ r, f.asks r → Admitted kind r := by
  have reaches := reaches_run (start horizon) es kind
  rw [show ((start horizon).service.table kind) = _ from table_start horizon kind] at reaches
  exact reaches

/-- Every table of a server is sound. -/
theorem sound_run (es : List ServerEvent) (kind : LockKind) :
    (((start horizon).run es).service.table kind).Sound := by
  obtain ⟨fs, same, -⟩ := exists_run es kind
  rw [same]
  exact Table.sound_run fs

/-- Only in the table of timed locks do grants have deadlines. -/
theorem leased_run (es : List ServerEvent) (kind : LockKind) :
    (((start horizon).run es).service.table kind).leased = decide (kind = .timeout) := by
  obtain ⟨fs, same, -⟩ := exists_run es kind
  rw [same]
  exact Table.leased_run fs

/-! ## Settling and the passing of time -/

/-- Steps of the reaper of one kind leave everything alone but the table of the kind. -/
theorem run_reap (s : Server) (kind : LockKind) (n : Nat) :
    s.run (List.replicate n (.reap kind))
      = { s with
          service :=
            s.service.setTable ((s.service.table kind).run (List.replicate n .reap)) kind } := by
  induction n generalizing s with
  | zero => cases kind <;> rfl
  | succ n ih =>
    rw [List.replicate_succ, run, ih]
    cases kind <;> rfl

/-- **Settling** is a run in which only the reaper takes steps. -/
theorem exists_events_settle (s : Server) :
    ∃ es, { s with service := s.service.settle } = s.run es := by
  obtain ⟨a, first⟩ := Table.exists_run_settle s.service.simple
  obtain ⟨b, second⟩ := Table.exists_run_settle s.service.reentrant
  obtain ⟨c, third⟩ := Table.exists_run_settle s.service.timeout
  refine ⟨List.replicate a (.reap .simple) ++ List.replicate b (.reap .reentrant)
    ++ List.replicate c (.reap .timeout), ?_⟩
  rw [run_append, run_append, run_reap, run_reap, run_reap, Service.settle, Service.mapTables,
    first, second, third]
  rfl

/-- **The passing of milliseconds** is a run of ticks and of steps of the reaper. -/
theorem exists_events_advance (s : Server) (ms : Nat) :
    ∃ es, { s with service := s.service.advance ms } = s.run es := by
  induction ms with
  | zero => exact exists_events_settle s
  | succ ms ih =>
    obtain ⟨es, before⟩ := ih
    obtain ⟨fs, after⟩ := exists_events_settle ((s.run es).step (.tick millisecond)).2
    refine ⟨es ++ .tick millisecond :: fs, ?_⟩
    rw [run_append, run, ← after, ← before]
    refine congrArg (Server.mk · s.exchanges) ?_
    simp only [Service.advance, Service.settle, Service.mapTables, step, Table.advance_succ]

end Server

end KeyedLocks.Http
