/-
What one step does to one key.

Whatever happens, only four things can become of the holder and the queue of a key.
They stay, apart from the number of holds and from callers who leave the queue; or one
more request stands at the end of the queue; or a request takes a key that was free; or
the key goes to the first in its queue. `Way.change` says so for every way of a step.

So a law about who holds and who waits has four cases, and it meets a request for the
first time only in two of them, where the request is the one of the event.
-/
import KeyedLocks.Proofs.Table.Run

set_option autoImplicit false

namespace KeyedLocks

/-- An event asks for a key. -/
def Event.asks (e : Event) (r : Request) : Prop :=
  e = .tryAcquire r ∨ ∃ token, e = .acquire token r

namespace Table

/-- What can become of a key in one step. -/
inductive Change (t u : Table) (key : String) (e : Event) (o : Outcome) : Prop
  | stays (holder : ∀ h', u.holder? key = some h' → ∃ h, t.holder? key = some h ∧ h.Alike h')
      (queue : ∀ w ∈ u.queue key, w ∈ t.queue key)
  | joins (token : String) (r : Request) (asks : e = .acquire token r) (here : r.key = key)
      (waits : o = .acquisition (.waiting t.nextTicket)) (holder : u.holder? key = t.holder? key)
      (queue : u.queue key = t.queue key ++ [⟨t.nextTicket, r⟩])
  | claims (r : Request) (asks : e.asks r) (here : r.key = key)
      (holder : u.holder? key = some (t.newHolder r)) (queue : u.queue key = [])
  | passes (w : Waiter) (rest : List Waiter) (first : t.queue key = w :: rest)
      (holder : u.holder? key = some (t.newHolder w.request)) (queue : u.queue key = rest)

variable {t u : Table} {key : String} {e : Event} {o : Outcome}

namespace Change

/-! ## The four things, one by one -/

/-- Where the slots are the same, so are holder and queue. -/
theorem of_slots (same : u.slots = t.slots) : Change t u key e o := by
  refine .stays (fun h' held => ⟨h', ?_, .refl h'⟩) fun w hw => ?_
  · rw [holder?, ← same]
    exact held
  · rw [queue, ← same]
    exact hw

/-- Whether the key is the one whose holds are counted or not, its holder keeps grant and request,
and the queue stands. -/
theorem setHolds (same : u.slots = t.slots) {k : String} {s : Slot}
    (held : t.slots.get? k = some s) (holds : UInt32) :
    Change t (u.setHolds k s holds) key e o := by
  have slot : u.slots.get? k = some s := by rw [same]; exact held
  refine .stays (fun h' here => ?_) fun w hw => ?_
  · rw [holder?_setHolds] at here
    split at here
    · next this =>
      rw [← Option.some.inj here, this]
      exact ⟨s.holder, holder?_of_slot held, rfl, rfl, rfl, rfl⟩
    · rw [holder?, same] at here
      exact ⟨h', here, .refl h'⟩
  · rw [queue_setHolds u slot, Table.queue, same] at hw
    exact hw

theorem claim {r : Request} (asks : e.asks r) : Change t (t.install r.key r []).2 key e o := by
  by_cases here : key = r.key
  · subst here
    refine .claims r asks rfl ?_ ?_
    · rw [holder?_install, if_pos rfl]
    · rw [queue_install, if_pos rfl]
  · refine .stays (fun h' held => ⟨h', ?_, .refl h'⟩) fun w hw => ?_
    · rwa [holder?_install, if_neg here] at held
    · rwa [queue_install, if_neg here] at hw

theorem withdraw (c : Call) : Change t (t.withdraw c) key e o := by
  refine .stays (fun h' held => ⟨h', ?_, .refl h'⟩) fun w hw => ?_
  · rwa [holder?_withdraw] at held
  · rw [queue_withdraw] at hw
    split at hw
    · exact (List.mem_filter.1 hw).1
    · exact hw

/-- A grant ends. The table in which the key is passed on may have forgotten a call or
taken out a record beforehand; its locks and the next holder are the same. -/
theorem handOn (same : u.slots = t.slots) (next : u.newHolder = t.newHolder) {k : String}
    {s : Slot} (held : t.slots.get? k = some s) :
    Change t (u.handOn k s.waiters).2 key e o := by
  by_cases here : key = k
  · subst here
    have queue := queue_of_slot held
    cases waiters : s.waiters with
    -- Without a queue the key becomes free, which is a way of staying: there is no holder to be
    -- asked about.
    | nil =>
      refine .stays (fun h' gone => ?_) fun w hw => ?_
      · rw [holder?_handOn, if_pos rfl] at gone
        cases gone
      · rw [queue_handOn, if_pos rfl] at hw
        cases hw
    | cons w rest =>
      refine .passes w rest (queue.trans waiters) ?_ ?_
      · rw [holder?_handOn, if_pos rfl, ← next]
        rfl
      · rw [queue_handOn, if_pos rfl]
        rfl
  -- Other keys are not touched.
  · refine .stays (fun h' gone => ⟨h', ?_, .refl h'⟩) fun w hw => ?_
    · rwa [holder?_handOn, if_neg here, holder?, same] at gone
    · rwa [queue_handOn, if_neg here, Table.queue, same] at hw

end Change

/-- **Only four things can become of a key.** -/
theorem Way.change (w : Way t e o u) (key : String) : Change t u key e o := by
  cases w with
  | refuse | decline | fetch | lapse | discard => exact .of_slots rfl
  | aside same => exact .of_slots same.slots
  | tryClaim r => exact .claim (.inl rfl)
  | claim token r => exact .claim (.inr ⟨token, rfl⟩)
  | tryReenter r s held | reenter token r s held | retain r s held => exact .setHolds rfl held _
  | keep c g s hc ready held => exact .setHolds (t := t) (u := t.forget c.ticket) rfl held _
  | block token r s held =>
    have queue := t.queue_enqueue held token key
    -- Whoever blocks joins the queue of his own key.
    by_cases here : r.key = key
    · rw [if_pos here.symm] at queue
      exact .joins token r rfl here rfl (t.holder?_enqueue token r key) queue
    · rw [if_neg (Ne.symm here), List.append_nil] at queue
      refine .stays (fun h' held => ⟨h', ?_, .refl h'⟩) fun w hw => ?_
      · rwa [holder?_enqueue] at held
      · rwa [queue] at hw
  | callOff c | leave c => exact .withdraw c
  | giveBack c g s hc ready held => exact .handOn (t := t) (u := t.forget c.ticket) rfl rfl held
  | release r s held | revoke k s held => exact .handOn rfl rfl held
  | expire record s running first due held =>
    exact .handOn (t := t) (u := { t with delays := t.delays.tail }) rfl rfl held

end Table

end KeyedLocks
