/-
Runs and their histories.

`Sound` gathers what holds between any two steps: queues and calls agree, numbers of
grants are given once, deadlines and records fit together. Every operation keeps it,
so every step does.

A law about a run often speaks of what happened on the way. `history` lists the moments of a
run, each a table and the event it met; an outcome is what that table answered. A law
is then a statement about a history and the table it led to, and `opening_induction`
proves it for all runs from the ways of one step.
-/
import KeyedLocks.Proofs.Table.Step
import Mathlib.Data.List.Induction

set_option autoImplicit false

namespace KeyedLocks

namespace Table

/-- What holds of a table between steps. -/
structure Sound (t : Table) : Prop extends Queued t, Numbered t, Scheduled t

namespace Sound

variable {t : Table}

/-! ## The operations keep a table sound -/

theorem install (s : t.Sound) {r : Request} (free : t.slots.get? r.key = none) :
    (t.install r.key r []).2.Sound :=
  ⟨s.toQueued.install free, s.toNumbered.install r [],
    s.toScheduled.install s.toNumbered r.key r []⟩

theorem setHolds (s : t.Sound) {key : String} {slot : Slot}
    (held : t.slots.get? key = some slot) (holds : UInt32) :
    (t.setHolds key slot holds).Sound :=
  ⟨s.toQueued.setHolds held holds,
    s.toNumbered.mono (.setHolds held holds) (fun _ hc _ _ => hc) rfl,
    s.toScheduled.mono (.setHolds held holds) (fun _ hr => hr) rfl rfl rfl⟩

theorem handOn (s : t.Sound) {key : String} {slot : Slot}
    (held : t.slots.get? key = some slot) : (t.handOn key slot.waiters).2.Sound := by
  rw [← queue_of_slot held]
  exact ⟨s.toQueued.handOn key, s.toNumbered.handOn s.toQueued key,
    s.toScheduled.handOn s.toNumbered key _⟩

theorem enqueue (s : t.Sound) {r : Request} {slot : Slot}
    (held : t.slots.get? r.key = some slot) (token : String) :
    (t.enqueue token r).Sound := by
  have queued := s.toQueued.enqueue held token
  have holders : t.KeepsHolders (t.enqueue token r) := .of_eq (t.holder?_enqueue token r)
  obtain ⟨slots, eq⟩ := t.enqueue_eq token r
  rw [eq] at queued holders ⊢
  refine ⟨queued, s.toNumbered.mono holders ?_ rfl,
    s.toScheduled.mono holders (fun _ hr => hr) rfl rfl rfl⟩
  -- The call that joins has no grant yet.
  intro c hc g ready
  rcases List.mem_append.1 hc with older | new
  · exact older
  · rw [List.mem_singleton.1 new] at ready
    cases ready

theorem withdraw (s : t.Sound) {c : Call} (hc : c ∈ t.calls) : (t.withdraw c).Sound := by
  have queued := s.toQueued.withdraw hc
  have holders : t.KeepsHolders (t.withdraw c) := .of_eq (t.holder?_withdraw c)
  obtain ⟨slots, eq⟩ := t.withdraw_eq c
  rw [eq] at queued holders ⊢
  exact ⟨queued, s.toNumbered.mono holders (fun _ hd _ _ => (List.mem_filter.1 hd).1) rfl,
    s.toScheduled.mono holders (fun _ hr => hr) rfl rfl rfl⟩

/-- A call that has its grant can go away. One that waits could not be forgotten like this, since
its queue would still name it. -/
theorem forget (s : t.Sound) {c : Call} (hc : c ∈ t.calls) {g : Grant}
    (ready : c.permit = some g) : (t.forget c.ticket).Sound :=
  ⟨s.toQueued.forget hc ready,
    s.toNumbered.mono (.of_eq fun _ => rfl) (fun _ hd _ _ => (List.mem_filter.1 hd).1) rfl,
    s.toScheduled.mono (.of_eq fun _ => rfl) (fun _ hr => hr) rfl rfl rfl⟩

/-- A record is taken out of the delay queue. -/
theorem drain (s : t.Sound) : { t with delays := t.delays.tail }.Sound :=
  ⟨s.toQueued.congr (fun _ => rfl) rfl rfl,
    s.toNumbered.mono (.of_eq fun _ => rfl) (fun _ hc _ _ => hc) rfl,
    s.toScheduled.mono (.of_eq fun _ => rfl) (fun _ hr => List.mem_of_mem_tail hr) rfl rfl rfl⟩

/-- A ticket is drawn and thrown away. -/
theorem skipTicket (s : t.Sound) : { t with nextTicket := t.nextTicket + 1 }.Sound :=
  ⟨⟨s.queue_eq, s.ascending, fun c hc => Nat.lt_succ_of_lt (s.ticket_lt c hc)⟩,
    s.toNumbered.mono (.of_eq fun _ => rfl) (fun _ hc _ _ => hc) rfl,
    s.toScheduled.mono (.of_eq fun _ => rfl) (fun _ hr => hr) rfl rfl rfl⟩

/-- What touches no lock, such as time that passes, does no harm. -/
theorem aside (s : t.Sound) {u : Table} (same : t.SameLocks u) : u.Sound := by
  have holders : ∀ key, u.holder? key = t.holder? key := fun key => by
    rw [holder?, holder?, same.slots]
  have queues : ∀ key, u.queue key = t.queue key := fun key => by
    rw [queue, queue, same.slots]
  exact ⟨s.toQueued.congr queues same.calls same.nextTicket,
    s.toNumbered.mono (.of_eq holders) (fun c hc _ _ => same.calls ▸ hc) same.lastGrant,
    s.toScheduled.mono (.of_eq holders) (fun r hr => same.delays ▸ hr) same.lastGrant
      same.leased same.horizon⟩

/-- **A step keeps a table sound.** -/
theorem way (s : t.Sound) {e : Event} {o : Outcome} {u : Table} (w : Way t e o u) : u.Sound := by
  cases w with
  | refuse => exact s
  | aside same => exact s.aside same
  | tryClaim r free => exact s.install free
  | tryReenter r slot held => exact s.setHolds held _
  | claim token r free => exact s.install free
  | reenter token r slot held => exact s.setHolds held _
  | block token r slot held => exact s.enqueue held token
  | decline => exact s.skipTicket
  | fetch c g hc ready => exact s.forget hc ready
  | callOff c hc => exact s.withdraw hc
  | leave c hc => exact s.withdraw hc
  | lapse c g hc ready => exact s.forget hc ready
  | keep c g slot hc ready held => exact (s.forget hc ready).setHolds held _
  | giveBack c g slot hc ready held => exact (s.forget hc ready).handOn held
  | retain r slot held => exact s.setHolds held _
  | release r slot held => exact s.handOn held
  | revoke key slot held => exact s.handOn held
  | discard => exact s.drain
  | expire record slot _ _ _ held => exact s.drain.handOn held

/-- **Soundness lasts**, from whatever sound table a run begins with. -/
theorem run (s : t.Sound) (es : List Event) : (t.run es).Sound := by
  induction es generalizing t with
  | nil => exact s
  | cons e es ih => exact ih (s.way (step_way s.toQueued e))

end Sound

/-! ## Tables before anything happened -/

/-- A table of any kind before anything happened, with deadlines or without, and with
someone who looks after them or without. -/
def opening (kind : LockKind) (leased : Bool) (reaper : Reaper) (horizon : Horizon) : Table :=
  { kind, leased, reaper, horizon }

/-- Nothing is held and nobody waits in a new table, so there is nothing to be wrong. -/
theorem sound_opening (kind : LockKind) (leased : Bool) (reaper : Reaper) (horizon : Horizon) :
    (opening kind leased reaper horizon).Sound where
  queue_eq _ := rfl
  ascending := .nil
  ticket_lt _ hc := absurd hc List.not_mem_nil
  holder_key _ _ held := by cases held
  grant_le _ _ held := by cases held
  grant_inj _ _ _ _ held := by cases held
  permit_le _ hc := absurd hc List.not_mem_nil
  permit_inj _ hc := absurd hc List.not_mem_nil
  permit_holder _ hc := absurd hc List.not_mem_nil
  expiry_eq _ _ held := by cases held
  record_le _ hr := absurd hr List.not_mem_nil
  record_holder _ hr := absurd hr List.not_mem_nil

end Table

/-! ## Histories -/

/-- A moment of a run: a table and the event that it meets. -/
structure Moment where
  table : Table
  event : Event

namespace Moment

/-- What comes of the event. -/
def outcome (m : Moment) : Outcome := (m.table.step m.event).1

/-- The table after the event. -/
def after (m : Moment) : Table := (m.table.step m.event).2

/-- The step at a moment, by what it comes down to. -/
theorem way (m : Moment) (s : m.table.Sound) : m.table.Way m.event m.outcome m.after :=
  Table.step_way s.toQueued m.event

end Moment

namespace Table

/-- The moments of a run. -/
def history (t : Table) : List Event → List Moment
  | [] => []
  | e :: es => ⟨t, e⟩ :: (t.step e).2.history es

theorem history_concat (t : Table) (es : List Event) (e : Event) :
    t.history (es ++ [e]) = t.history es ++ [⟨t.run es, e⟩] := by
  induction es generalizing t with
  | nil => rfl
  | cons f es ih => exact congrArg (⟨t, f⟩ :: ·) (ih _)

theorem run_concat (t : Table) (es : List Event) (e : Event) :
    t.run (es ++ [e]) = ((t.run es).step e).2 := by
  rw [run_append]
  rfl

variable {kind : LockKind} {leased : Bool} {reaper : Reaper} {horizon : Horizon}

/-- Every table that a run leads to is sound. -/
theorem sound_run (es : List Event) : ((opening kind leased reaper horizon).run es).Sound := by
  induction es using List.reverseRecOn with
  | nil => exact sound_opening kind leased reaper horizon
  | append_singleton es e ih =>
    rw [run_concat]
    exact ih.way (step_way ih.toQueued e)

/-- **Induction over a run.** What holds at the beginning and is kept by every moment
holds of every history and the table it leads to. -/
theorem opening_induction (kind : LockKind) (leased : Bool) (reaper : Reaper)
    (horizon : Horizon) {P : List Moment → Table → Prop}
    (start : P [] (opening kind leased reaper horizon))
    (step : ∀ ms m, m.table.Sound → P ms m.table → P (ms ++ [m]) m.after) (es : List Event) :
    P ((opening kind leased reaper horizon).history es)
      ((opening kind leased reaper horizon).run es) := by
  induction es using List.reverseRecOn with
  | nil => exact start
  | append_singleton es e ih =>
    rw [history_concat, run_concat]
    exact step _ ⟨_, e⟩ (sound_run es) ih

end Table

end KeyedLocks
