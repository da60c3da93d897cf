/-
Giving up before one's turn.

Take out of a run one call that never was handed a grant: its start, its polls, its departure.
If the reaper looks after everything that is due between any two deeds, nobody notices
(`giving_up_is_not_noticed`). All others are told the same, under the same numbers of grants, and
the table is the same but for the place of that call in its queue, up to the tickets behind it.

The two runs are compared in a guise that hides the call (`Guise.without`). What is done to another
call or to none comes to the same in the guise (`Guise.perform_table`); what is done to the
hidden call changes nothing that is shown (`perform_hidden`). A call without a grant is in its
queue and nowhere else, so what its departure takes out is not shown; and as nothing is due that
was not due before, the reaper stays where it is.
-/
import KeyedLocks.Proofs.Table.GuiseDeeds

set_option autoImplicit false

namespace KeyedLocks

namespace Guise

variable {g : Guise} {t : Table} {n : Nat}

/-! ## What is done to the hidden call -/

/-- What is shown of the slots does not change if one is shown as before. -/
theorem slots_of_slot {key : String} {s s' : Slot} (held : t.slots.get? key = some s)
    (same : g.slot s' = g.slot s) : (t.slots.insert key s').map g.slot = t.slots.map g.slot := by
  rw [KeyMap.map_insert, same]
  exact KeyMap.insert_of_get? (slot_table held)

/-- What the hidden call leaves is not shown. -/
theorem leave_hidden (hidden : g.shows n = false) (t : Table) (key : String) :
    g.table (t.leave key n) = g.table t := by
  unfold Table.leave
  cases held : t.slots.get? key with
  | none => rfl
  | some s =>
    have waiters : g.waiters (s.waiters.filter fun w => w.ticket != n) = g.waiters s.waiters :=
      pick_filter_of_hidden hidden s.waiters
    have slots := slots_of_slot (g := g) held
      (show g.slot ⟨s.holder, s.waiters.filter fun w => w.ticket != n⟩ = g.slot s by
        rw [slot, waiters, slot])
    simp only [table, slots]

theorem forget_hidden (hidden : g.shows n = false) (t : Table) :
    g.table (t.forget n) = g.table t := by
  have calls : g.calls (t.calls.filter fun c => c.ticket != n) = g.calls t.calls :=
    pick_filter_of_hidden hidden t.calls
  simp only [Table.forget, table, calls]

/-- If the hidden call comes to wait, neither its place nor the ticket that it draws is shown. -/
theorem enqueue_hidden (hidden : g.shows t.nextTicket = false) {r : Request} {s : Slot}
    (held : t.slots.get? r.key = some s) (token : String) :
    g.table (t.enqueue token r) = g.table t := by
  have waiter : g.pick Waiter.ticket g.waiter [⟨t.nextTicket, r⟩] = [] :=
    pick_singleton_of_hidden hidden
  have call : g.pick Call.ticket g.call [⟨t.nextTicket, token, r, none⟩] = [] :=
    pick_singleton_of_hidden hidden
  have waiters : g.waiters (s.waiters ++ [⟨t.nextTicket, r⟩]) = g.waiters s.waiters := by
    rw [Guise.waiters, pick_append, waiter, List.append_nil, Guise.waiters]
  have calls : g.calls (t.calls ++ [⟨t.nextTicket, token, r, none⟩]) = g.calls t.calls := by
    rw [Guise.calls, pick_append, call, List.append_nil, Guise.calls]
  have slots := slots_of_slot (g := g) held
    (show g.slot ⟨s.holder, s.waiters ++ [⟨t.nextTicket, r⟩]⟩ = g.slot s by
      rw [slot, waiters, slot])
  -- Slots, calls and the next ticket are all that the call has touched.
  rw [Table.enqueue, Table.join, held]
  simp only [table, slots, calls, number_succ_of_hidden hidden]

theorem served_of_permit {c : Call} {p : Grant} (found : t.call? n = some c)
    (ready : c.permit = some p) : t.served n = true := by
  have mine : (c.ticket == n) = true := by simpa using List.find?_some found
  refine List.any_eq_true.2 ⟨c, List.mem_of_find?_eq_some found, ?_⟩
  rw [mine, ready]
  rfl

/-- The hidden call has no grant that it could fetch or give back. -/
theorem Calm.permit_eq_none (calm : g.Calm t) (hidden : g.shows n = false) {c : Call}
    (found : t.call? n = some c) : c.permit = none := by
  cases ready : c.permit with
  | none => rfl
  | some p =>
    have served := served_of_permit found ready
    rw [calm n hidden] at served
    cases served

/-- A poll of the hidden call comes to nothing that is shown: it goes on waiting, or was called off
and leaves. -/
theorem poll_hidden (calm : g.Calm t) (hidden : g.shows n = false) :
    g.table (t.poll n).2 = g.table t := by
  cases found : t.call? n with
  | none => rw [Table.poll_of_unknown found]
  | some c =>
    have bare := calm.permit_eq_none hidden found
    by_cases off : c.token ∈ t.cancelled
    · rw [Table.poll_of_cancelled found bare off]
      exact (forget_hidden hidden _).trans (leave_hidden hidden t _)
    · rw [Table.poll_of_pending found bare off]

/-- The departure of the hidden call is not shown either, as it has no grant to give back. -/
theorem depart_hidden (calm : g.Calm t) (hidden : g.shows n = false) :
    g.table (t.depart n).2 = g.table t := by
  cases found : t.call? n with
  | none => rw [Table.depart_of_unknown found]
  | some c =>
    have bare := calm.permit_eq_none hidden found
    rw [Table.depart_of_bare found bare]
    exact (forget_hidden hidden _).trans (leave_hidden hidden t _)

/-- Whoever draws a ticket finds the key busy, and stays or was called off beforehand. -/
theorem acquire_hidden (q : t.Queued) {token : String} {r : Request}
    (drawn : t.drawn? (t.acquire token r).2 = some n) (hidden : g.shows n = false) :
    g.table (t.acquire token r).2 = g.table t := by
  have here : t.nextTicket = n ∧ (t.acquire token r).2.nextTicket ≠ t.nextTicket := by
    unfold Table.drawn? at drawn
    split at drawn
    · cases drawn
    · next moved => exact ⟨Option.some.inj drawn, moved⟩
  obtain ⟨rfl, moved⟩ := here
  cases held : t.slots.get? r.key with
  | none =>
    rw [Table.acquire, Table.tryAcquire_of_free held] at moved
    exact absurd rfl moved
  | some s =>
    cases again : t.reentrant && s.holder.request.sameOwner r with
    | true =>
      rw [Table.acquire, Table.tryAcquire_of_own held again] at moved
      exact absurd rfl moved
    | false =>
      rw [Table.acquire_of_busy q held again]
      -- Either way a ticket is drawn, and it is all that is left of a call that was called off.
      by_cases off : token ∈ t.cancelled
      · rw [if_pos off]
        simp only [table, number_succ_of_hidden hidden]
      · rw [if_neg off]
        exact enqueue_hidden hidden held token

/-- **What is done to the hidden call is not seen.** -/
theorem perform_hidden (q : t.Queued) (calm : g.Calm t) {d : Deed} (about : t.about? d = some n)
    (hidden : g.shows n = false) : g.table (t.perform d).2 = g.table t := by
  cases d with
  | event e =>
    cases e with
    | acquire token r => exact acquire_hidden q about hidden
    | poll m =>
      rw [← Option.some.inj about] at hidden
      exact poll_hidden calm hidden
    | depart m =>
      rw [← Option.some.inj about] at hidden
      exact depart_hidden calm hidden
    | _ => cases about
  | lock token r =>
    have drawn : t.drawn? (t.acquire token r).2 = some n := by
      rw [← Table.lock_snd]
      exact about
    have unseen := acquire_hidden q drawn hidden
    rw [← Table.lock_snd] at unseen
    exact unseen
  | pollLock m =>
    rw [← Option.some.inj about] at hidden
    have unseen := poll_hidden calm hidden
    rw [← Table.pollLock_snd] at unseen
    exact unseen
  | _ => cases about

/-! ## Rounds -/

/-- A round in a guise. -/
def round (g : Guise) (m : Round) : Round := ⟨g.table m.table, g.deed m.deed⟩

/-- **A round of another call**, or of none, comes to the same in the guise. -/
theorem round_shown {m : Round} (fits : g.Fits m.table) (s : m.table.Sound) (calm : g.Calm m.after)
    (shown : ∀ n ∈ m.about?, g.shows n = true) :
    (g.round m).reply = g.reply m.reply ∧ (g.round m).after = g.table m.after := by
  have leases : g.Fits (m.table.perform m.deed).2 :=
    fun leased => fits ((s.leased_perform m.deed).symm.trans leased)
  obtain ⟨settled, before⟩ := settle_table leases (s.perform m.deed) calm
  have performed := perform_table fits s before shown
  refine ⟨congrArg Prod.fst performed, ?_⟩
  change ((g.table m.table).perform (g.deed m.deed)).2.settle = g.table m.after
  rw [performed]
  exact settled

/-- **A round of the hidden call** leaves the table as it was: the reaper has nothing to do that
it had not before. -/
theorem round_hidden {m : Round} (s : m.table.Sound) (still : m.table.isDue = false)
    (calm : g.Calm m.table) (about : m.about? = some n) (hidden : g.shows n = false) :
    g.table m.after = g.table m.table := by
  have unseen := perform_hidden s.toQueued calm about hidden
  -- Whether something is due is seen in the guise as well as without it.
  have rest : (m.table.perform m.deed).2.isDue = false := by
    rw [← isDue_table g, unseen, isDue_table]
    exact still
  rw [Round.after, Table.settle_of_not_due rest]
  exact unseen

end Guise

/-! ## Without one call -/

/-- Everything as it is, but for one call that is hidden. -/
def Guise.without (n : Nat) : Guise where
  request := id
  identity := id
  hidden := some n
  key_request _ := rfl
  owner_request _ := rfl
  identity_request _ := rfl

namespace Table

variable {t : Table} {n : Nat}

theorem fits_without (n : Nat) (t : Table) : (Guise.without n).Fits t := fun _ _ => rfl

theorem shows_without {m : Nat} : (Guise.without n).shows m = true ↔ m ≠ n := by
  rw [Guise.shows, bne_iff_ne]
  exact not_congr ⟨fun same => (Option.some.inj same).symm, fun same => congrArg some same.symm⟩

/-- A call that was not served is the only one that matters here. -/
theorem calm_without (none : t.served n = false) : (Guise.without n).Calm t := by
  intro m hidden
  have here : m = n := by
    by_contra other
    rw [shows_without.2 other] at hidden
    cases hidden
  rw [here]
  exact none

/-- Nothing is hidden in a new table, as no ticket was drawn. -/
theorem table_without_opening (n : Nat) (kind : LockKind) (leased : Bool) (reaper : Reaper)
    (horizon : Horizon) :
    (Guise.without n).table (opening kind leased reaper horizon)
      = opening kind leased reaper horizon := by
  have first : (Guise.without n).number 0 = 0 := by
    change (if n < 0 then 0 - 1 else 0) = 0
    exact if_neg (Nat.not_lt_zero n)
  simp only [Guise.table, opening, first]
  rfl

theorem holder?_without (n : Nat) (t : Table) (key : String) :
    ((Guise.without n).table t).holder? key = t.holder? key := by
  rw [Guise.holder?_table]
  exact Option.map_id'

theorem queue_without (n : Nat) (t : Table) (key : String) :
    ((Guise.without n).table t).queue key
      = ((t.queue key).filter fun w => w.ticket != n).map fun w =>
          ⟨if n < w.ticket then w.ticket - 1 else w.ticket, w.request⟩ := by
  rw [Guise.queue_table]
  refine congrArg _ (List.filter_congr fun w _ => ?_)
  rw [Bool.eq_iff_iff, shows_without, bne_iff_ne]

/-- Every round meets a sound table. -/
theorem sound_of_mem_rounds {ds : List Deed} (s : t.Sound) : ∀ m ∈ t.rounds ds, m.table.Sound := by
  induction ds generalizing t with
  | nil => exact fun m hm => absurd hm List.not_mem_nil
  | cons d ds ih => exact List.forall_mem_cons.2 ⟨s, ih (s.perform d).settle⟩

/-- The rounds that are not about the hidden call are those of a run without it. -/
theorem rounds_without (ds : List Deed) (s : t.Sound) (still : t.isDue = false)
    (none : t.served n = false) (never : ∀ m ∈ t.rounds ds, m.after.served n = false) :
    ((Guise.without n).table t).rounds
        (((t.rounds ds).filter fun m => m.about? ≠ some n).map fun m =>
          (Guise.without n).deed m.deed)
      = ((t.rounds ds).filter fun m => m.about? ≠ some n).map (Guise.without n).round := by
  induction ds generalizing t with
  | nil => rfl
  | cons d ds ih =>
    obtain ⟨now, later⟩ := List.forall_mem_cons.1 never
    have sound : (Round.mk t d).after.Sound := (s.perform d).settle
    have rest := ih sound (isDue_settle _) now later
    rw [rounds]
    by_cases about : (Round.mk t d).about? = some n
    · -- The round is left out, and what is shown after it is what was shown before.
      have unseen := Guise.round_hidden (m := ⟨t, d⟩) s still (calm_without none) about
        (by rw [Bool.eq_false_iff, Ne, shows_without]; simp)
      rw [List.filter_cons_of_neg (by simpa using about), ← unseen]
      exact rest
    · have shown : ∀ k ∈ (Round.mk t d).about?, (Guise.without n).shows k = true := by
        rintro k hk
        rw [shows_without]
        rintro rfl
        exact about hk
      have same := Guise.round_shown (m := ⟨t, d⟩) (fits_without n t) s (calm_without now) shown
      rw [List.filter_cons_of_pos (by simpa using about), List.map_cons, List.map_cons, rounds]
      refine congrArg ((Guise.without n).round ⟨t, d⟩ :: ·) ?_
      rw [← rest, ← same.2]
      rfl

/-- **Giving up before one's turn is not noticed.** Take any run in which everything that is due
is looked after between deeds, and any call that at no time has a grant ready. Without that
call (its start, its polls, its departure) everybody else is told what they are told with it,
under the same numbers of grants; and after every deed the table has the same holders, deadlines
and records, and the same queues and calls but for that call. The tickets that were drawn after
its own are lower by one. -/
theorem giving_up_is_not_noticed (kind : LockKind) (leased : Bool) (reaper : Reaper)
    (horizon : Horizon) (ds : List Deed) (n : Nat)
    (never : ∀ m ∈ (opening kind leased reaper horizon).rounds ds, m.after.served n = false) :
    let others := ((opening kind leased reaper horizon).rounds ds).filter fun m => m.about? ≠ some n
    let alone :=
      (opening kind leased reaper horizon).rounds
        (others.map fun m => (Guise.without n).deed m.deed)
    alone.map Round.reply = others.map (fun m => (Guise.without n).reply m.reply)
      ∧ alone.map Round.after = others.map (fun m => (Guise.without n).table m.after)
      ∧ ∀ m ∈ others,
          ((Guise.without n).table m.after).delays = m.after.delays
            ∧ ((Guise.without n).table m.after).lastGrant = m.after.lastGrant
            ∧ ((Guise.without n).table m.after).scene = m.after.scene
            ∧ ∀ key, ((Guise.without n).table m.after).holder? key = m.after.holder? key
              ∧ ((Guise.without n).table m.after).queue key
                = ((m.after.queue key).filter fun w => w.ticket != n).map fun w =>
                    ⟨if n < w.ticket then w.ticket - 1 else w.ticket, w.request⟩ := by
  intro others alone
  have sound : (opening kind leased reaper horizon).Sound :=
    sound_opening kind leased reaper horizon
  have still : (opening kind leased reaper horizon).isDue = false := Bool.and_false _
  have rounds : alone = others.map (Guise.without n).round := by
    have same := rounds_without ds sound still rfl never
    rw [table_without_opening] at same
    exact same
  have shown : ∀ m ∈ others, ((Guise.without n).round m).reply = (Guise.without n).reply m.reply
      ∧ ((Guise.without n).round m).after = (Guise.without n).table m.after := by
    intro m hm
    obtain ⟨member, other⟩ := List.mem_filter.1 hm
    have apart : ∀ k ∈ m.about?, (Guise.without n).shows k = true := by
      rintro k hk
      rw [shows_without]
      rintro rfl
      exact of_decide_eq_true other hk
    exact Guise.round_shown (fits_without n _) (sound_of_mem_rounds sound m member)
      (calm_without (never m member)) apart
  refine ⟨?_, ?_, fun m _ => ⟨rfl, rfl, rfl, fun key => ⟨holder?_without n m.after key, ?_⟩⟩⟩
  · rw [rounds, List.map_map]
    exact List.map_congr_left fun m hm => (shown m hm).1
  · rw [rounds, List.map_map]
    exact List.map_congr_left fun m hm => (shown m hm).2
  · exact queue_without n m.after key

/-- Somebody waits in the middle of a queue, a lease ends and the key goes to the first in the
queue, and then the one in the middle departs. Without him the last one is told the same. -/
theorem departure_from_the_middle_is_not_noticed :
    let a : Request := ⟨"k", 1, ⟨"app", "a"⟩, .timeout, some ⟨5, .milliseconds⟩, 0⟩
    let b : Request := ⟨"k", 2, ⟨"app", "b"⟩, .timeout, some ⟨9, .milliseconds⟩, 0⟩
    let c : Request := ⟨"k", 3, ⟨"app", "c"⟩, .timeout, some ⟨9, .milliseconds⟩, 0⟩
    let d : Request := ⟨"k", 4, ⟨"app", "d"⟩, .timeout, some ⟨9, .milliseconds⟩, 0⟩
    let ds : List Deed := [.tryLock a, .lock "stop" b, .lock "stop" c, .lock "stop" d, .advance 5,
      .pollLock 0, .event (.depart 1), .event (.release b), .pollLock 2]
    let ms := (opening .timeout true .running .widest).rounds ds
    let others := ms.filter fun m => m.about? ≠ some 1
    (∀ m ∈ ms, m.after.served 1 = false)
      ∧ others.map (fun m => (Guise.without 1).deed m.deed)
        = [.tryLock a, .lock "stop" b, .lock "stop" d, .advance 5, .pollLock 0,
          .event (.release b), .pollLock 1]
      ∧ ((opening .timeout true .running .widest).rounds
          (others.map fun m => (Guise.without 1).deed m.deed)).map Round.reply
        = [.response (.succeeded a .tryLock), .progress (.waiting 0), .progress (.waiting 1), .done,
          .progress (.answered (.succeeded b .lock)),
          .outcome (.release (.released 2 (some ⟨3, ⟨"app", "d"⟩, 1, some 14000000⟩))),
          .progress (.answered (.succeeded d .lock))] := by
  intro a b c d ds ms others
  have never : ∀ m ∈ ms, m.after.served 1 = false := by decide +kernel
  have deeds : others.map (fun m => (Guise.without 1).deed m.deed)
      = [.tryLock a, .lock "stop" b, .lock "stop" d, .advance 5, .pollLock 0,
        .event (.release b), .pollLock 1] := by decide +kernel
  have replies := (giving_up_is_not_noticed .timeout true .running .widest ds 1 never).1
  exact ⟨never, deeds, replies.trans (by decide +kernel)⟩

end Table

end KeyedLocks
