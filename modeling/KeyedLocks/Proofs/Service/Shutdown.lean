/-
The end of a service.

Whoever stops a service calls off its waits, and then it is up to those who wait to look. One
look is enough: whoever was handed the key before has it, and whoever was not leaves the queue.
It does not matter who looks first, for what a call comes to is settled by its own grant
(`verdict`), and a look touches nothing but the call (`poll_of_off`).
-/
import KeyedLocks.Proofs.Service.Runs
import KeyedLocks.Proofs.Table.CalledOff

set_option autoImplicit false

namespace KeyedLocks

namespace Service

variable {horizon : Horizon}

/-! ## From the start -/

/-- What holds in every service that a run leads to. -/
structure Regular (s : Service) : Prop where
  sound : ∀ kind, (s.table kind).Sound
  own : ∀ kind, (s.table kind).kind = kind
  token : ∀ kind, ∀ c ∈ (s.table kind).calls, c.token = stopToken

/-- It does hold, for each table goes through a run of its own. -/
theorem regular_run (es : List ServiceStep) : ((start horizon).run es).Regular where
  sound kind := by
    rw [table_run_start]
    exact Table.sound_run _
  own kind := by
    rw [table_run_start]
    exact Table.kind_run _
  token kind c hc := by
    rw [table_run_start] at hc
    obtain ⟨r, asked⟩ := Table.token_run _ hc
    exact ServiceStep.token_eq asked

/-- A service whose waits were called off, somewhere in a run. -/
def Off (s : Service) : Prop := ∀ kind, stopToken ∈ (s.table kind).cancelled

/-- If the waits of a service were called off, so were those of each table. -/
theorem cancel_mem {es : List ServiceStep} (off : .callOff ∈ es) (kind : LockKind) :
    Event.cancel stopToken ∈ es.filterMap (ServiceStep.event? kind) :=
  List.mem_filterMap.2 ⟨.callOff, off, rfl⟩

/-- A service stays one whose waits were called off. -/
theorem off_run {es : List ServiceStep} (off : .callOff ∈ es) : ((start horizon).run es).Off := by
  intro kind
  rw [table_run_start, Table.mem_cancelled_run]
  exact cancel_mem off kind

variable {s : Service}

/-! ## One look -/

/-- The calls that are pending are those of the tables, by kind and ticket. -/
theorem mem_pending {c : CallRef} :
    c ∈ s.pending ↔ ∃ d ∈ (s.table c.kind).calls, d.ticket = c.ticket := by
  rw [pending, List.mem_flatMap]
  constructor
  · rintro ⟨kind, -, member⟩
    obtain ⟨d, hd, rfl⟩ := List.mem_map.1 member
    exact ⟨d, hd, rfl⟩
  · rintro ⟨d, hd, same⟩
    refine ⟨c.kind, c.kind.mem_all, List.mem_map.2 ⟨d, hd, ?_⟩⟩
    rw [same]

/-- A ticket stands for one call, so no call is listed twice. -/
theorem nodup_pending (r : s.Regular) : s.pending.Nodup := by
  rw [pending, List.nodup_flatMap]
  constructor
  · intro kind _
    rw [List.Nodup, List.pairwise_map]
    refine (r.sound kind).ascending.imp ?_
    intro a b lt same
    exact Nat.ne_of_lt lt (congrArg CallRef.ticket same)
  -- Calls of different kinds are different references.
  · have apart : LockKind.all.Pairwise (· ≠ ·) := by decide
    refine apart.imp ?_
    intro k k' other c here there
    obtain ⟨d, -, rfl⟩ := List.mem_map.1 here
    obtain ⟨d', -, same⟩ := List.mem_map.1 there
    exact other (congrArg CallRef.kind same).symm

/-- A call has left a service, and nothing else has changed of the calls and of those who hold a
key. -/
structure Left (s : Service) (c : CallRef) (u : Service) : Prop where
  calls : ∀ kind, (u.table kind).calls
    = (s.table kind).calls.filter fun d => (⟨kind, d.ticket⟩ : CallRef) != c
  holders : ∀ kind key, (u.table kind).holder? key = (s.table kind).holder? key

namespace Left

variable {c d : CallRef} {u : Service}

theorem pending_eq (l : s.Left c u) : u.pending = s.pending.filter fun d => d != c := by
  rw [pending, pending, List.filter_flatMap]
  refine List.flatMap_congr fun kind _ => ?_
  rw [l.calls, List.filter_map]
  rfl

/-- What another call comes to stays. -/
theorem verdict_eq (l : s.Left c u) (other : d ≠ c) : u.verdict d = s.verdict d := by
  have lookup : (u.table d.kind).call? d.ticket = (s.table d.kind).call? d.ticket := by
    rw [Table.call?, Table.call?, l.calls, List.find?_filter]
    congr 1
    funext e
    by_cases mine : e.ticket = d.ticket
    · have stays : (⟨d.kind, d.ticket⟩ : CallRef) ≠ c := other
      simp [mine, stays]
    · simp [mine]
  rw [verdict, verdict, lookup]

end Left

/-- **One look at a call that is called off** tells its verdict. The call is not there any more
then, and nothing else has changed. -/
theorem poll_of_off (r : s.Regular) (off : s.Off) {c : CallRef} (here : c ∈ s.pending) :
    (s.poll c).1 = s.verdict c ∧ s.Left c (s.poll c).2 := by
  obtain ⟨call, hc, mine⟩ := mem_pending.1 here
  have queued := (r.sound c.kind).toQueued
  have found : (s.table c.kind).call? c.ticket = some call := queued.call?_eq_some_iff.2 ⟨hc, mine⟩
  have cancelled : call.token ∈ (s.table c.kind).cancelled := by
    rw [r.token c.kind call hc]
    exact off c.kind
  obtain ⟨answer, calls, holders⟩ := Table.pollLock_of_off queued hc cancelled
  rw [mine] at answer calls holders
  -- The look happens in one table; for the others there is nothing to show.
  have table : ∀ kind, (s.poll c).2.table kind
      = if kind = c.kind then ((s.table c.kind).pollLock c.ticket).2 else s.table kind :=
    fun kind => s.table_setTable _ c.kind kind
  refine ⟨?_, ?_, ?_⟩
  · rw [verdict, found]
    exact answer
  · intro kind
    rw [table]
    by_cases same : kind = c.kind
    · subst same
      rw [if_pos rfl, calls]
      refine List.filter_congr fun d _ => ?_
      -- In its own table a call is told from the others by its ticket.
      have named : (⟨c.kind, d.ticket⟩ : CallRef) = c ↔ d.ticket = c.ticket :=
        ⟨fun h => congrArg CallRef.ticket h, fun h => by rw [h]⟩
      rw [Bool.eq_iff_iff, bne_iff_ne, bne_iff_ne]
      exact (not_congr named).symm
    · rw [if_neg same]
      refine (List.filter_eq_self.2 fun d _ => ?_).symm
      rw [bne_iff_ne]
      exact fun h => same (congrArg CallRef.kind h)
  · intro kind key
    rw [table]
    split
    · next same =>
      rw [same]
      exact holders key
    · rfl

/-! ## All looks -/

/-- All looks together are a run. -/
theorem pollAll_snd (s : Service) (order : List CallRef) :
    (s.pollAll order).2 = s.run (order.map .poll) := by
  induction order generalizing s with
  | nil => rfl
  | cons c cs ih => exact ih _

/-- **The order in which they look does not matter.** Each is told the verdict that stood before
anyone looked, and whoever has looked is gone. -/
theorem pollAll_of_off {es : List ServiceStep} (stopped : .callOff ∈ es) {order : List CallRef}
    (here : ∀ c ∈ order, c ∈ ((start horizon).run es).pending) (once : order.Nodup) :
    (((start horizon).run es).pollAll order).1 = order.map ((start horizon).run es).verdict
      ∧ (((start horizon).run es).pollAll order).2.pending
        = ((start horizon).run es).pending.filter (fun d => d ∉ order)
      ∧ ∀ kind key, ((((start horizon).run es).pollAll order).2.table kind).holder? key
        = (((start horizon).run es).table kind).holder? key := by
  -- One look is a step of the run, so the induction is over longer and longer runs.
  induction order generalizing es with
  | nil =>
    refine ⟨rfl, (List.filter_eq_self.2 fun d _ => ?_).symm, fun _ _ => rfl⟩
    simp
  | cons c cs ih =>
    obtain ⟨apart, once⟩ := List.nodup_cons.1 once
    obtain ⟨answer, left⟩ :=
      poll_of_off (regular_run es) (off_run stopped) (here c List.mem_cons_self)
    have step : (((start horizon).run es).poll c).2 = (start horizon).run (es ++ [.poll c]) := by
      rw [run_append]
      rfl
    rw [step] at left
    have others : ∀ d ∈ cs, d ≠ c := by
      rintro d hd rfl
      exact apart hd
    have still : ∀ d ∈ cs, d ∈ ((start horizon).run (es ++ [.poll c])).pending := by
      intro d hd
      rw [left.pending_eq, List.mem_filter, bne_iff_ne]
      exact ⟨here d (List.mem_cons_of_mem c hd), others d hd⟩
    obtain ⟨answers, rest, holders⟩ := ih (List.mem_append_left _ stopped) still once
    rw [pollAll]
    dsimp only
    rw [answer, step, answers, rest]
    refine ⟨?_, ?_, ?_⟩
    · rw [List.map_cons]
      congr 1
      exact List.map_congr_left fun d hd => left.verdict_eq (others d hd)
    · rw [left.pending_eq, List.filter_filter]
      refine List.filter_congr fun d _ => ?_
      rw [Bool.eq_iff_iff]
      simp [and_comm, not_or]
    · intro kind key
      rw [holders, left.holders]

/-! ## Afterwards -/

/-- Where nobody is left, no queue has anyone in it. -/
theorem queue_of_no_calls (r : s.Regular) (nobody : s.pending = []) (kind : LockKind)
    (key : String) :
    (s.table kind).calls = [] ∧ (s.table kind).queue key = [] := by
  have calls : (s.table kind).calls = [] := by
    rw [List.eq_nil_iff_forall_not_mem]
    intro c hc
    have listed : (⟨kind, c.ticket⟩ : CallRef) ∈ s.pending := mem_pending.2 ⟨c, hc, rfl⟩
    rw [nobody] at listed
    cases listed
  refine ⟨calls, ?_⟩
  rw [(r.sound kind).queue_eq, Table.waitList, calls]
  rfl

/-- **Nobody ever waits again** in a service whose waits were called off once nobody does. -/
theorem pending_run_of_off {es : List ServiceStep} (stopped : .callOff ∈ es)
    (nobody : ((start horizon).run es).pending = []) (gs : List ServiceStep) :
    ((start horizon).run (es ++ gs)).pending = [] := by
  rw [pending, List.flatMap_eq_nil_iff]
  intro kind _
  have before := (queue_of_no_calls (regular_run es) nobody kind "").1
  rw [table_run_start] at before ⊢
  rw [List.filterMap_append, Table.calls_run_of_off (cancel_mem stopped kind) before]
  · rfl
  · intro token r asked
    exact ServiceStep.token_eq asked

/-- Who comes after the waits were called off is let in, or called off at once. -/
theorem lock_of_off (r : s.Regular) (off : s.Off) (q : Request) :
    (s.lock q).1
      = if s.letsIn q then .answered (.succeeded q .lock) else .failed (.cancelled q.key) := by
  have told := Table.lock_of_off (r.sound q.kind).toQueued (off q.kind) q
  have again : (s.table q.kind).reentrant = decide (q.kind = .reentrant) := by
    rw [Table.reentrant, r.own]
  rw [again] at told
  exact told

/-- **The end of a service drains every wait.** In every run, once the waits were called off, let
all calls that wait look once, in any order. Then none of them waits any more: each has its key if
it had been handed it, and was called off if not, whatever the order. Nobody who holds a key
notices, and nobody stands in a queue. From then on, whatever happens, nobody waits ever again:
whoever asks for a key has it at once if it is free or already his in a table that lets him take
it again, and is called off at once if not. -/
theorem end_drains_every_wait (horizon : Horizon) (es : List ServiceStep)
    (stopped : .callOff ∈ es) (order : List CallRef)
    (all : order.Perm ((start horizon).run es).pending) :
    let s := (start horizon).run es
    let u := (s.pollAll order).2
    (∀ kind, ∀ c ∈ (s.table kind).calls, ⟨kind, c.ticket⟩ ∈ order
        ∧ s.verdict ⟨kind, c.ticket⟩ = match c.permit with
          | some _ => .answered (.succeeded c.request .lock)
          | none => .failed (.cancelled c.request.key))
      ∧ (s.pollAll order).1 = order.map s.verdict
      ∧ (∀ kind key, (u.table kind).holder? key = (s.table kind).holder? key)
      ∧ ∀ gs : List ServiceStep,
        let v := u.run gs
        v.pending = [] ∧ (∀ kind key, (v.table kind).queue key = [])
          ∧ ∀ r, (v.lock r).1
              = if v.letsIn r then .answered (.succeeded r .lock)
                else .failed (.cancelled r.key) := by
  intro s u
  have once : order.Nodup := all.nodup_iff.2 (nodup_pending (regular_run es))
  obtain ⟨answers, rest, holders⟩ := pollAll_of_off stopped (fun c hc => all.mem_iff.1 hc) once
  have nobody : u.pending = [] := by
    rw [rest, List.filter_eq_nil_iff]
    intro d hd
    simp [all.mem_iff.2 hd]
  refine ⟨?_, answers, holders, ?_⟩
  · intro kind c hc
    refine ⟨all.mem_iff.2 (mem_pending.2 ⟨c, hc, rfl⟩), ?_⟩
    have found : (s.table kind).call? c.ticket = some c :=
      ((regular_run es).sound kind).call?_eq_some_iff.2 ⟨hc, rfl⟩
    rw [verdict, found]
    rfl
  · intro gs v
    -- All that follows is a longer run, so what holds of runs that were called off holds of it.
    have reached : u = (start horizon).run (es ++ order.map .poll) := by
      rw [run_append]
      exact pollAll_snd s order
    have later : v = (start horizon).run (es ++ order.map .poll ++ gs) := by
      rw [run_append, ← reached]
    rw [reached] at nobody
    -- Nobody takes the news back.
    have stopped' : .callOff ∈ es ++ order.map .poll := List.mem_append_left _ stopped
    have none : v.pending = [] := by
      rw [later]
      exact pending_run_of_off stopped' nobody gs
    have regular : v.Regular := later ▸ regular_run _
    have off : v.Off := later ▸ off_run (List.mem_append_left gs stopped')
    exact ⟨none, fun kind key => (queue_of_no_calls regular none kind key).2,
      lock_of_off regular off⟩

/-- One caller was handed his key and has not looked, and two wait, one of them for the same text as
a key of another kind. The one who came last looks first. -/
theorem last_comes_first :
    let ask (n : Int32) (thread : String) (kind : LockKind) : Request :=
      ⟨"k", n, ⟨"app", thread⟩, kind, none, 0⟩
    let es : List ServiceStep :=
      [.lock (ask 1 "a" .simple), .lock (ask 2 "b" .simple), .lock (ask 3 "c" .simple),
        .unlock (ask 1 "a" .simple), .tryLock (ask 4 "d" .reentrant), .lock (ask 5 "e" .reentrant),
        .callOff]
    let order : List CallRef := [⟨.reentrant, 0⟩, ⟨.simple, 1⟩, ⟨.simple, 0⟩]
    ServiceStep.callOff ∈ es ∧ order.Perm ((start .widest).run es).pending
      ∧ (((start .widest).run es).pollAll order).1
        = [.failed (.cancelled "k"), .failed (.cancelled "k"),
          .answered (.succeeded (ask 2 "b" .simple) .lock)] := by
  intro ask es order
  have stopped : ServiceStep.callOff ∈ es := by decide
  have all : order.Perm ((start .widest).run es).pending := by decide
  refine ⟨stopped, all, ?_⟩
  rw [(end_drains_every_wait .widest es stopped order all).2.1]
  decide

end Service

end KeyedLocks
