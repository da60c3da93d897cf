/-
Calls that are called off.

A token that was called off stays so. Whoever has such a token and looks for a grant does not
stay: either the grant was there already or the call leaves its queue (`pollLock_of_off`). Whoever
comes later with such a token does not stay either, so a table in which nobody waits and to
which nobody comes with another token is one in which nobody waits ever again
(`calls_run_of_off`).
-/
import KeyedLocks.Proofs.Table.Places
import KeyedLocks.Service.Run

set_option autoImplicit false

namespace KeyedLocks

namespace Table

variable {t u : Table}

/-! ## Where calls come from -/

/-- A call was there before a step, or the step is the request that it belongs to. -/
theorem Way.token (q : t.Queued) {e : Event} {o : Outcome} (w : Way t e o u) {c : Call}
    (hc : c ∈ u.calls) : (∃ d ∈ t.calls, d.token = c.token) ∨ ∃ r, e = .acquire c.token r := by
  rw [w.calls q, List.mem_append] at hc
  rcases hc with stays | joins
  · obtain ⟨d, hd, rfl⟩ := List.mem_map.1 stays
    exact .inl ⟨d, (List.mem_filter.1 hd).1, rfl⟩
  -- Only a call that has joined is new.
  · right
    rw [Option.mem_toList] at joins
    unfold joins? at joins
    split at joins
    · next token r ticket =>
      obtain rfl := Option.some.inj joins
      exact ⟨r, rfl⟩
    · cases joins

/-- Where nobody waits, nobody waits after a step, unless someone comes whose token still counts. -/
theorem Way.calls_of_off (q : t.Queued) {e : Event} {o : Outcome} (w : Way t e o u)
    (nobody : t.calls = []) (off : ∀ token r, e = .acquire token r → token ∈ t.cancelled) :
    u.calls = [] := by
  have joins : joins? e o = none := by
    cases w with
    | block token r s held alive => exact absurd (off token r rfl) alive
    | refuse h => exact joins?_of_refuses e h
    | aside => cases e <;> rfl
    | _ => rfl
  rw [w.calls q, nobody, joins]
  rfl

variable {kind : LockKind} {leased : Bool} {reaper : Reaper} {horizon : Horizon}

/-- Every call of a run belongs to a request of the run with its token. -/
theorem token_run (es : List Event) {c : Call}
    (hc : c ∈ ((opening kind leased reaper horizon).run es).calls) :
    ∃ r, Event.acquire c.token r ∈ es := by
  induction es using List.reverseRecOn generalizing c with
  | nil => cases hc
  | append_singleton es e ih =>
    have s : ((opening kind leased reaper horizon).run es).Sound := sound_run es
    rw [run_concat] at hc
    rcases (step_way s.toQueued e).token s.toQueued hc with ⟨d, hd, same⟩ | ⟨r, rfl⟩
    · obtain ⟨r, asked⟩ := ih hd
      exact ⟨r, List.mem_append_left _ (same ▸ asked)⟩
    · exact ⟨r, List.mem_append_right _ (List.mem_singleton_self _)⟩

/-- **Once nobody waits, nobody ever waits again**, if all who come have a token that was called
off. -/
theorem calls_run_of_off {token : String} {es gs : List Event} (off : Event.cancel token ∈ es)
    (nobody : ((opening kind leased reaper horizon).run es).calls = [])
    (only : ∀ token' r, Event.acquire token' r ∈ gs → token' = token) :
    ((opening kind leased reaper horizon).run (es ++ gs)).calls = [] := by
  induction gs using List.reverseRecOn with
  | nil =>
    rw [List.append_nil]
    exact nobody
  | append_singleton gs g ih =>
    -- The run before the last event is in the same position, so nobody waits there.
    have before := ih fun token' r asked => only token' r (List.mem_append_left _ asked)
    have s : ((opening kind leased reaper horizon).run (es ++ gs)).Sound := sound_run _
    rw [← List.append_assoc, run_concat]
    refine (step_way s.toQueued g).calls_of_off s.toQueued before ?_
    intro token' r asked
    have named := only token' r (List.mem_append_right _ (asked ▸ List.mem_singleton_self _))
    rw [mem_cancelled_run, named]
    exact List.mem_append_left _ off

/-! ## Looking for a grant -/

/-- **A call that is called off** finds its grant or that it is called off. It is forgotten in
either case, and nobody else notices. -/
theorem pollLock_of_off (q : t.Queued) {c : Call} (hc : c ∈ t.calls)
    (off : c.token ∈ t.cancelled) :
    (t.pollLock c.ticket).1 = c.verdict
      ∧ (t.pollLock c.ticket).2.calls = t.calls.filter (fun d => d.ticket != c.ticket)
      ∧ ∀ key, (t.pollLock c.ticket).2.holder? key = t.holder? key := by
  have found : t.call? c.ticket = some c := q.call?_eq_some_iff.2 ⟨hc, rfl⟩
  unfold Call.verdict
  cases ready : c.permit with
  | some g =>
    rw [pollLock, found]
    dsimp only
    rw [poll_of_permit found ready]
    exact ⟨rfl, rfl, fun key => rfl⟩
  -- Without a permit the token decides, and it was called off.
  | none =>
    rw [pollLock, found]
    dsimp only
    rw [poll_of_cancelled found ready off]
    exact ⟨rfl, calls_withdraw t c, fun key => holder?_withdraw t c key⟩

/-- **Who comes with a token that is called off** gets a key that needs no waiting, or is called
off at once. -/
theorem lock_of_off (q : t.Queued) {token : String} (off : token ∈ t.cancelled) (r : Request) :
    (t.lock token r).1
      = if (t.holder? r.key).all fun h => t.reentrant && h.request.sameOwner r
        then .answered (.succeeded r .lock) else .failed (.cancelled r.key) := by
  cases held : t.slots.get? r.key with
  | none =>
    rw [holder?_of_no_slot held, lock, acquire, tryAcquire_of_free held]
    rfl
  | some s =>
    rw [holder?_of_slot held, Option.all_some]
    -- A holder that may have the key once more does not wait, whether his token was called off or
    -- not.
    cases again : t.reentrant && s.holder.request.sameOwner r with
    | true =>
      rw [lock, acquire, tryAcquire_of_own held again]
      rfl
    | false =>
      rw [lock, acquire_of_busy q held again, if_pos off]
      rfl

end Table

end KeyedLocks
