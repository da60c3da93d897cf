/-
Who can touch a hold.

A key that is held has an entry that says for which request, under which grant, how many
times over, since when and until when. `Touches` lists what may change it: the owner gives
the key back or takes it once more, the call that the grant was handed to departs, somebody
names the grant and takes it away, or the record of the grant has come due. Every other
step leaves the entry as it is, field by field.

The list says less than it seems where numbers are concerned. A call that departs and a
record that is looked at name a grant, and a grant that has ended is nobody's
(`gone_of_run`); so a late departure, and a stale record, touch nothing.
-/
import KeyedLocks.Proofs.Table.Leases

set_option autoImplicit false

namespace KeyedLocks

open GrantEvent

namespace Table

variable {t u : Table}

/-- What may change the entry of a held key. A key that is taken once more has one hold more
and is otherwise as it was, and so is the whole table. -/
inductive Touches (t : Table) (key : String) (h : Holder) : Event → Table → Prop
  | release {u : Table} (r : Request) (here : r.key = key) (own : r.owner = h.request.owner) :
      Touches t key h (.release r) u
  | reenter {e : Event} {u : Table} (r : Request)
      (asks : e = .tryAcquire r ∨ ∃ token, e = .acquire token r) (here : r.key = key)
      (own : r.owner = h.request.owner) (may : t.reentrant = true)
      (more : u = { t with
        slots := t.slots.insert key ⟨{ h with holds := h.holds + 1 }, t.queue key⟩ }) :
      Touches t key h e u
  | depart {u : Table} (c : Call) (g : Grant) (hc : c ∈ t.calls) (ready : c.permit = some g)
      (mine : g.id = h.grant) (asked : c.request = h.request) :
      Touches t key h (.depart c.ticket) u
  | revoke {u : Table} : Touches t key h (.revoke key h.grant) u
  | expire {u : Table} (own : t.OwnRecordDue key h) : Touches t key h .reap u

/-! ## One step -/

section Step

variable {key k : String} {h : Holder} {slot : Slot}

/-- Whoever gives a key back has the holder's owner. -/
theorem owner_eq_of_sameOwner {a b : Request} (same : a.sameOwner b = true) :
    b.owner = a.owner := by
  rw [Request.sameOwner, decide_eq_true_eq] at same
  exact same.symm

/-- The slot of a held key is its holder and its queue. -/
theorem slot_eq (held : t.holder? key = some h) (found : t.slots.get? key = some slot) :
    slot = ⟨h, t.queue key⟩ := by
  have same := slot_of_holder held
  exact Option.some.inj (found.symm.trans same)

/-- Taking a key once more is one of the ways in the list, on that key. -/
theorem touches_reenter (held : t.holder? key = some h) {r : Request}
    (found : t.slots.get? r.key = some slot) (may : t.reentrant = true)
    (own : slot.holder.request.sameOwner r = true) {e : Event}
    (asks : e = .tryAcquire r ∨ ∃ token, e = .acquire token r) :
    (t.setHolds r.key slot (slot.holder.holds + 1)).holder? key = some h
      ∨ Touches t key h e (t.setHolds r.key slot (slot.holder.holds + 1)) := by
  by_cases here : key = r.key
  · subst here
    have same := slot_eq held found
    subst same
    exact .inr (.reenter r asks rfl (owner_eq_of_sameOwner own) may rfl)
  · left
    rw [holder?_setHolds, if_neg here]
    exact held

theorem holder?_handOn_other (held : t.holder? key = some h) (other : key ≠ k) (ws : List Waiter) :
    (t.handOn k ws).2.holder? key = some h := by
  rw [holder?_handOn, if_neg other]
  exact held

end Step

/-- **A step leaves the entry of a held key as it is**, unless it is in the list. -/
theorem Way.holder_kept (s : t.Sound) {e : Event} {o : Outcome} (w : Way t e o u) {key : String}
    {h : Holder} (held : t.holder? key = some h) :
    u.holder? key = some h ∨ Touches t key h e u := by
  cases w with
  | refuse | decline | fetch | lapse | discard => exact .inl held
  | aside same =>
    left
    rw [holder?, same.slots]
    exact held
  | tryClaim r free | claim token r free =>
    -- Nobody holds the key that is claimed, so it is another one.
    have other : key ≠ r.key := by
      intro here
      rw [here, holder?_of_no_slot free] at held
      cases held
    left
    rw [holder?_install, if_neg other]
    exact held
  | tryReenter r slot found may own => exact touches_reenter held found may own (.inl rfl)
  | reenter token r slot found may own =>
    exact touches_reenter held found may own (.inr ⟨token, rfl⟩)
  | block token r =>
    left
    rw [holder?_enqueue]
    exact held
  | callOff c | leave c =>
    left
    rw [holder?_withdraw]
    exact held
  | keep c g slot hc ready found mine =>
    by_cases here : key = c.request.key
    · have same := slot_eq held (here ▸ found)
      subst same
      have asked := (s.permit_holder c hc g ready key h held mine).1
      exact .inr (.depart c g hc ready mine.symm asked.symm)
    · left
      rw [holder?_setHolds, if_neg here]
      exact held
  | giveBack c g slot hc ready found mine =>
    by_cases here : key = c.request.key
    · have same := slot_eq held (here ▸ found)
      subst same
      have asked := (s.permit_holder c hc g ready key h held mine).1
      exact .inr (.depart c g hc ready mine.symm asked.symm)
    · exact .inl (holder?_handOn_other (t := t.forget c.ticket) held here _)
  | retain r slot found own =>
    by_cases here : key = r.key
    · have same := slot_eq held (here ▸ found)
      subst same
      exact .inr (.release r here.symm (owner_eq_of_sameOwner own))
    · left
      rw [holder?_setHolds, if_neg here]
      exact held
  | release r slot found own =>
    by_cases here : key = r.key
    · have same := slot_eq held (here ▸ found)
      subst same
      exact .inr (.release r here.symm (owner_eq_of_sameOwner own))
    · exact .inl (holder?_handOn_other held here _)
  | revoke k slot found =>
    by_cases here : key = k
    · subst here
      have same := slot_eq held found
      subst same
      exact .inr .revoke
    · exact .inl (holder?_handOn_other held here _)
  | expire record slot running first due found mine =>
    by_cases here : key = record.key
    · have same := slot_eq held (here ▸ found)
      subst same
      have popped := DelayQueue.popDue_eq_some_iff.2 ⟨first, due, rfl⟩
      have own := (s.record_holder record (List.mem_of_head? first) key h held mine).2
      exact .inr (.expire ⟨record, _, popped, here.symm, mine.symm, own, due⟩)
    · exact .inl (holder?_handOn_other (t := { t with delays := t.delays.tail }) held here _)

/-- Whoever asks for a key or gives one back touches a hold only if it is his own. -/
theorem Touches.owner_eq {key : String} {h : Holder} {e : Event} (touched : Touches t key h e u)
    {r : Request}
    (asks : e = .tryAcquire r ∨ e = .release r ∨ ∃ token, e = .acquire token r) :
    r.owner = h.request.owner := by
  cases touched with
  | release q here own =>
    rcases asks with same | same | ⟨token, same⟩ <;> cases same
    exact own
  | reenter q which here own =>
    rcases which with rfl | ⟨token, rfl⟩ <;>
      rcases asks with same | same | ⟨token', same⟩ <;> cases same <;> exact own
  | depart | revoke | expire => rcases asks with same | same | ⟨token, same⟩ <;> cases same

/-! ## Every reachable table -/

variable {kind : LockKind} {leased : Bool} {reaper : Reaper} {horizon : Horizon}

/-- **Only the owner, the call that was handed the grant, or its end can touch a hold.** In
every table that a run leads to and for every step, the entry of a held key stays as it is
unless the step is in the list of `Touches`. So nothing that another owner asks for or gives
back changes it, no poll and no calling off does, no departure of a call of another owner, and
no departure of a call whose grant has ended. -/
theorem only_its_own_touch_a_hold (kind : LockKind) (leased : Bool) (reaper : Reaper)
    (horizon : Horizon) (es : List Event) :
    let t := (opening kind leased reaper horizon).run es
    let ms := (opening kind leased reaper horizon).history es
    ∀ key h, t.holder? key = some h →
      (∀ e, (t.step e).2.holder? key = some h ∨ Touches t key h e (t.step e).2)
        ∧ (∀ r, r.owner ≠ h.request.owner →
          (t.tryAcquire r).2.holder? key = some h ∧ (t.release r).2.holder? key = some h
            ∧ ∀ token, (t.acquire token r).2.holder? key = some h)
        ∧ (∀ ticket, (t.poll ticket).2.holder? key = some h)
        ∧ (∀ token, (t.cancel token).holder? key = some h)
        ∧ ∀ c ∈ t.calls, (c.request.owner ≠ h.request.owner
            ∨ ∃ g k, c.permit = some g ∧ ended k g.id ∈ grantLog ms) →
          (t.depart c.ticket).2.holder? key = some h := by
  intro t ms key h held
  have s : t.Sound := sound_run es
  have kept : ∀ e, (t.step e).2.holder? key = some h ∨ Touches t key h e (t.step e).2 :=
    fun e => (step_way s.toQueued e).holder_kept s held
  -- Whatever touches the entry is on the list, and each of the other parts is about a step that is
  -- not, or that is only under a condition that fails here.
  refine ⟨kept, ?_, ?_, ?_, ?_⟩
  · intro r other
    refine ⟨?_, ?_, ?_⟩
    · refine (kept (.tryAcquire r)).resolve_right ?_
      intro touched
      exact other (touched.owner_eq (.inl rfl))
    · refine (kept (.release r)).resolve_right ?_
      intro touched
      exact other (touched.owner_eq (.inr (.inl rfl)))
    · intro token
      refine (kept (.acquire token r)).resolve_right ?_
      intro touched
      exact other (touched.owner_eq (.inr (.inr ⟨token, rfl⟩)))
  · intro ticket
    rcases kept (.poll ticket) with same | touched
    · exact same
    · cases touched with
      | reenter r asks => rcases asks with same | ⟨token, same⟩ <;> cases same
  · intro token
    rcases kept (.cancel token) with same | touched
    · exact same
    · cases touched with
      | reenter r asks => rcases asks with same | ⟨token', same⟩ <;> cases same
  · intro c hc apart
    rcases kept (.depart c.ticket) with same | touched
    · exact same
    · -- The call that departs was handed the grant that stands, so neither can be.
      generalize event : Event.depart c.ticket = e at touched
      cases touched with
      | depart d g hd ready mine asked =>
        have same : c = d := s.call_unique hc hd (Event.depart.inj event)
        subst same
        rcases apart with other | ⟨g', k, ready', ends⟩
        · exact absurd (congrArg Request.owner asked) other
        · obtain rfl := Option.some.inj (ready.symm.trans ready')
          have nobody := (gone_of_run es ends).2 key
          rw [mine] at nobody
          exact absurd (grant?_of_holder held) nobody
      | reenter r asks =>
        subst event
        rcases asks with same | ⟨token, same⟩ <;> cases same
      | release | revoke | expire => cases event

/-- A key is handed to a call that does not fetch its grant, the grant is taken away, and the
owner of the call takes the key anew. The late departure of the call leaves the new hold as
it is. -/
theorem late_departure_touches_nothing :
    let a : Request := ⟨"k", 1, ⟨"app", "a"⟩, .simple, none, 0⟩
    let b : Request := ⟨"k", 2, ⟨"app", "b"⟩, .simple, none, 0⟩
    let es : List Event :=
      [.tryAcquire a, .acquire "token" b, .release a, .revoke "k" 2, .tryAcquire b]
    let t := (opening .simple false .absent .widest).run es
    t.holder? "k" = some ⟨b, 3, 1, 0, none⟩
      ∧ (t.depart 0).2.holder? "k" = some ⟨b, 3, 1, 0, none⟩ := by
  intro a b es t
  have held : t.holder? "k" = some ⟨b, 3, 1, 0, none⟩ := by decide +kernel
  have call : (⟨0, "token", b, some ⟨2, b.owner, 1, none⟩⟩ : Call) ∈ t.calls := by decide +kernel
  -- The grant that the call was handed was taken away before the call departs.
  have ends : ended "k" 2 ∈ grantLog ((opening .simple false .absent .widest).history es) := by
    decide +kernel
  have frame := only_its_own_touch_a_hold .simple false .absent .widest es "k" _ held
  have late := frame.2.2.2.2 _ call (.inr ⟨_, "k", rfl, ends⟩)
  exact ⟨held, late⟩

end Table

end KeyedLocks
