/-
Operations on a key, by itself.

Every operation of a table on a key is the same operation on what the table shows of the key
(`Table.side`): the answer is the same, and afterwards the table shows what the side has become.
The numbers that the table gives out have no say in it. Tickets are matched by their places; and
the number of a grant is asked for in one way only, whether it is still that of the holder,
which every new number makes false for all grants there were before (`callers_handOn`).
-/
import KeyedLocks.Proofs.Table.Side

set_option autoImplicit false

namespace KeyedLocks

/-! ## Passing a key on, place by place -/

namespace Side

/-- Those who do not wait are passed over, and their grants have ended. -/
theorem passOn_append_of_idle {as : List (Option Caller)}
    (idle : ∀ c ∈ as, c.bind Caller.wants? = none) (bs : List (Option Caller)) :
    passOn (as ++ bs) = as.map (Option.map Caller.lapse) ++ passOn bs := by
  -- The key passes by everyone in front, and only takes from them what has ended.
  induction as with
  | nil => rfl
  | cons c as ih =>
    have later := ih fun d hd => idle d (List.mem_cons_of_mem _ hd)
    cases c with
    | none => exact congrArg (none :: ·) later
    | some c =>
      have waits : c.footing ≠ .waiting := by
        intro waits
        have none := idle (some c) List.mem_cons_self
        rw [Option.bind_some, Caller.wants?, if_pos waits] at none
        cases none
      rw [List.cons_append, passOn, if_neg waits, later]
      rfl

theorem passOn_of_idle {as : List (Option Caller)}
    (idle : ∀ c ∈ as, c.bind Caller.wants? = none) :
    passOn as = as.map (Option.map Caller.lapse) := by
  have whole := passOn_append_of_idle idle []
  rw [List.append_nil] at whole
  rw [whole]
  exact List.append_nil _

end Side

namespace Table

variable {t u : Table} {key : String} {tickets : List (Option Nat)}

/-- A key that is passed on has a new number or is free. -/
theorem grant?_handOn (t : Table) (key : String) (ws : List Waiter) :
    (t.handOn key ws).2.grant? key = ws.head?.map fun _ => t.lastGrant + 1 := by
  rw [grant?, holder?_handOn, if_pos rfl]
  cases ws <;> rfl

/-- The first in the queue is served. -/
theorem caller_handOn_first (t : Table) (key : String) (w : Waiter) (ws : List Waiter) :
    (t.handOn key (w :: ws)).2.caller key (some w.ticket)
      = (t.caller key (some w.ticket)).map Caller.serve := by
  rw [caller, caller, Option.bind_some, Option.bind_some, call?_handOn]
  cases found : t.call? w.ticket with
  | none => rfl
  | some c =>
    have mine : c.ticket = w.ticket := by simpa using List.find?_some found
    have given : grantFor (some (w.ticket, (t.newHolder w.request).toGrant)) c.ticket
        = some (t.newHolder w.request).toGrant := if_pos mine.symm
    -- The grant that is handed over is the one that holds the key now.
    have ready : (t.handOn key (w :: ws)).2.footing key
        (c.take (some (w.ticket, (t.newHolder w.request).toGrant))) = .ready := by
      rw [footing, Call.take, given, grant?_handOn]
      exact if_pos rfl
    rw [List.head?_cons, Option.map_some, Option.map_some, Option.map_some, ready]
    rfl

/-- For all others the grant that they may have has ended. -/
theorem caller_handOn_other (s : t.Sound) {ws : List Waiter} {n : Option Nat}
    (other : ∀ w ∈ ws.head?, n ≠ some w.ticket) :
    (t.handOn key ws).2.caller key n = (t.caller key n).map Caller.lapse := by
  cases n with
  | none => rfl
  | some n =>
    rw [caller, caller, Option.bind_some, Option.bind_some, call?_handOn, Option.map_map,
      Option.map_map]
    refine Option.map_congr ?_
    intro c found
    obtain ⟨hc, rfl⟩ := s.call?_eq_some_iff.1 found
    have same : c.take (ws.head?.map fun w => (w.ticket, (t.newHolder w.request).toGrant)) = c := by
      cases ws with
      | nil => rfl
      | cons w ws =>
        have apart : w.ticket ≠ c.ticket := fun same => other w rfl (congrArg some same.symm)
        simp [Call.take, grantFor, apart]
    have lapsed : (t.handOn key ws).2.footing key c
        = if t.footing key c = .ready then .late else t.footing key c := by
      rw [footing, footing, grant?_handOn]
      cases ready : c.permit with
      | none => rfl
      | some g =>
        -- The new number is greater than that of every grant there is.
        have old : g.id ≤ t.lastGrant := s.permit_le c hc g ready
        have new : ws.head?.map (fun _ => t.lastGrant + 1) ≠ some g.id := by
          cases ws with
          | nil =>
            intro h
            cases h
          | cons w ws =>
            intro same
            have number : t.lastGrant + 1 = g.id := Option.some.inj same
            omega
        dsimp only
        rw [if_neg new]
        split <;> rfl
    rw [Function.comp_apply, Function.comp_apply, same, lapsed, Caller.lapse]
    split <;> rfl

/-- Places without the first in the queue change in one way only: a grant that was there is none any
more. -/
theorem callers_handOn_other (s : t.Sound) {ws : List Waiter} {ns : List (Option Nat)}
    (other : ∀ w ∈ ws.head?, some w.ticket ∉ ns) :
    ns.map ((t.handOn key ws).2.caller key)
      = (ns.map (t.caller key)).map (Option.map Caller.lapse) := by
  rw [List.map_map]
  refine List.map_congr_left ?_
  intro n hn
  refine caller_handOn_other s ?_
  intro w hw same
  exact other w hw (same ▸ hn)

/-- Where no ticket is one of a waiter, nobody wants the key. -/
theorem callers_idle {ns : List (Option Nat)} (idle : ∀ n ∈ ns, t.waiter? n = none) :
    ∀ c ∈ ns.map (t.caller key), c.bind Caller.wants? = none := by
  intro c hc
  obtain ⟨n, hn, rfl⟩ := List.mem_map.1 hc
  rw [wants?_caller, idle n hn]
  rfl

/-- The first who waits is served, and what all others may have has ended. -/
theorem callers_handOn (s : t.Sound) (f : t.Ticketed key tickets) :
    tickets.map ((t.handOn key (t.queue key)).2.caller key)
      = Side.passOn (tickets.map (t.caller key)) := by
  have queue := f.queue_eq s.toQueued
  cases waiting : t.queue key with
  | nil =>
    rw [waiting] at queue
    have none := List.filterMap_eq_nil_iff.1 queue.symm
    rw [Side.passOn_of_idle (callers_idle none)]
    have others : ∀ w ∈ ([] : List Waiter).head?, some w.ticket ∉ tickets := by
      intro w hw
      cases hw
    exact callers_handOn_other s others
  | cons w ws =>
    rw [waiting] at queue
    -- In front of the first who waits nobody does, and all tickets behind are other ones.
    obtain ⟨as, n, bs, rfl, none, found, -⟩ := List.filterMap_eq_cons_iff.1 queue.symm
    obtain ⟨c, hc, rfl, bare, rfl⟩ := (waiter?_eq_some_iff s.toQueued).1 found
    have order := (List.pairwise_append.1 f.ascending).2.1
    have front : some c.ticket ∉ as := by
      intro member
      rw [none _ member] at found
      cases found
    have back : some c.ticket ∉ bs := by
      intro member
      have later := (List.pairwise_cons.1 order).1 _ member
      exact Nat.lt_irrefl _ (later c.ticket rfl c.ticket rfl)
    have others : ∀ ns : List (Option Nat), some c.ticket ∉ ns →
        ns.map ((t.handOn key (c.toWaiter :: ws)).2.caller key)
          = (ns.map (t.caller key)).map (Option.map Caller.lapse) := by
      intro ns apart
      refine callers_handOn_other s ?_
      intro w hw
      rw [← Option.some.inj hw]
      exact apart
    have first : t.caller key (some c.ticket) = some ⟨c.token, c.request, .waiting⟩ := by
      have listed : t.call? c.ticket = some c := s.call?_eq_some_iff.2 ⟨hc, rfl⟩
      rw [caller, Option.bind_some, listed, Option.map_some, footing, bare]
    have served := t.caller_handOn_first key c.toWaiter ws
    rw [show c.toWaiter.ticket = c.ticket from rfl, first] at served
    rw [List.map_append, List.map_append, List.map_cons, List.map_cons,
      Side.passOn_append_of_idle (callers_idle none), first, Side.passOn, if_pos rfl,
      others as front, others bs back, served]
    rfl

/-- **Passing a key on** is passing it on by itself. -/
theorem side_handOn (s : t.Sound) (f : t.Ticketed key tickets) :
    (t.handOn key (t.queue key)).2.side key tickets = (t.side key tickets).handOn := by
  have holder : ((t.handOn key (t.queue key)).2.holder? key).map Holder.unnumbered
      = (Side.next? (t.side key tickets).callers).map (t.side key tickets).newHolder := by
    rw [holder?_handOn, if_pos rfl, next?_side f s.toQueued, Option.map_map, Option.map_map]
    rfl
  rw [side, scene_handOn, holder, callers_handOn s f]
  rfl

/-! ## The other operations on the key -/

/-- A grant is made for a key that nobody holds. All earlier grants on it have ended. -/
theorem side_install (s : t.Sound) {r : Request} (free : t.slots.get? r.key = none) :
    (t.install r.key r []).2.side r.key tickets
      = { t.side r.key tickets with holder := some ((t.side r.key tickets).newHolder r) } := by
  have holder : (t.install r.key r []).2.holder? r.key = some (t.newHolder r) := by
    rw [holder?_install, if_pos rfl]
  have callers : tickets.map ((t.install r.key r []).2.caller r.key)
      = tickets.map (t.caller r.key) := by
    refine List.map_congr_left ?_
    intro n _
    refine Option.map_congr ?_
    intro c found
    obtain ⟨m, rfl, found⟩ := Option.bind_eq_some_iff.1 found
    obtain ⟨hc, -⟩ := s.call?_eq_some_iff.1 found
    rw [footing, footing]
    cases ready : c.permit with
    | none => rfl
    | some g =>
      -- A permit that was there before has an older number, so it names neither the former holder
      -- nor the new one.
      have old : g.id ≤ t.lastGrant := s.permit_le c hc g ready
      have ended : t.grant? r.key ≠ some g.id := by
        rw [grant?, holder?_of_no_slot free]
        intro h
        cases h
      have new : (t.install r.key r []).2.grant? r.key ≠ some g.id := by
        rw [grant?_of_holder holder]
        intro same
        have number : t.lastGrant + 1 = g.id := Option.some.inj same
        omega
      dsimp only
      rw [if_neg ended, if_neg new]
  rw [side, holder, callers]
  rfl

/-- The holder gets another number of holds under the same grant. -/
theorem side_setHolds {slot : Slot} (held : t.slots.get? key = some slot) (holds : UInt32) :
    (t.setHolds key slot holds).side key tickets
      = (t.side key tickets).setHolds slot.holder.unnumbered holds := by
  have holder : (t.setHolds key slot holds).holder? key = some { slot.holder with holds } := by
    rw [holder?_setHolds, if_pos rfl]
  have grants : (t.setHolds key slot holds).grant? key = t.grant? key := by
    rw [grant?_of_holder holder, grant?_of_holder (holder?_of_slot held)]
  have callers : tickets.map ((t.setHolds key slot holds).caller key)
      = tickets.map (t.caller key) := by
    refine List.map_congr_left ?_
    intro n _
    exact caller_congr grants rfl
  rw [side, holder, callers]
  rfl

/-- A call goes, and its place stays empty. -/
theorem side_clear (f : t.Ticketed key tickets) {i n : Nat} (place : tickets[i]? = some (some n))
    (scene : u.scene = t.scene) (holder : u.holder? key = t.holder? key)
    (calls : ∀ m, u.call? m = if m = n then none else t.call? m) :
    u.side key tickets = (t.side key tickets).clear i := by
  obtain ⟨bound, here⟩ := List.getElem?_eq_some_iff.1 place
  have callers : tickets.map (u.caller key) = (tickets.map (t.caller key)).set i none := by
    refine List.ext_getElem (by simp) ?_
    intro j _ inside
    rw [List.length_set, List.length_map] at inside
    rw [List.getElem_map, List.getElem_set, List.getElem_map]
    by_cases same : i = j
    · subst same
      rw [if_pos rfl, caller, here, Option.bind_some, calls, if_pos rfl]
      rfl
    · rw [if_neg same]
      refine caller_congr (by rw [grant?, grant?, holder]) ?_
      cases other : tickets[j] with
      | none => rfl
      | some m =>
        -- Two places have different tickets.
        have apart : m ≠ n := by
          rintro rfl
          rcases Nat.lt_or_gt_of_ne same with before | behind
          · have lt := List.pairwise_iff_getElem.1 f.ascending i j bound inside before
            rw [here, other] at lt
            exact Nat.lt_irrefl _ (lt m rfl m rfl)
          · have lt := List.pairwise_iff_getElem.1 f.ascending j i inside bound behind
            rw [here, other] at lt
            exact Nat.lt_irrefl _ (lt m rfl m rfl)
        rw [Option.bind_some, Option.bind_some, calls, if_neg apart]
  rw [side, scene, holder, callers]
  rfl

/-- A call joins the queue, in the next place. -/
theorem side_enqueue (s : t.Sound) (f : t.Ticketed key tickets) (token : String) (r : Request) :
    (t.enqueue token r).side key (tickets ++ [some t.nextTicket])
      = (t.side key tickets).join (some ⟨token, r, .waiting⟩) := by
  have grants : (t.enqueue token r).grant? key = t.grant? key := by
    rw [grant?, grant?, holder?_enqueue]
  have callers : tickets.map ((t.enqueue token r).caller key) = tickets.map (t.caller key) := by
    refine List.map_congr_left ?_
    intro n hn
    refine caller_congr grants ?_
    cases n with
    | none => rfl
    | some n => exact t.call?_enqueue_of_lt token r (f.drawn n hn)
  -- The new ticket comes last and its call waits.
  have last : (t.enqueue token r).caller key (some t.nextTicket)
      = some ⟨token, r, .waiting⟩ := by
    rw [caller, Option.bind_some, call?_enqueue s.toQueued]
    rfl
  rw [side, scene_enqueue, holder?_enqueue, List.map_append, callers, List.map_singleton, last]
  rfl

/-- A request that leaves no call behind has a place all the same. -/
theorem side_append_none (t : Table) (key : String) (tickets : List (Option Nat)) :
    t.side key (tickets ++ [none]) = (t.side key tickets).join none := by
  rw [side, List.map_append]
  rfl

/-! ## Asking -/

/-- The side of a free key has no holder. -/
theorem holder_side_of_free (free : t.slots.get? key = none) :
    (t.side key tickets).holder = none := by
  rw [side, holder?_of_no_slot free]
  rfl

theorem holder_side {slot : Slot} (held : t.slots.get? key = some slot) :
    (t.side key tickets).holder = some slot.holder.unnumbered := by
  rw [side, holder?_of_slot held]
  rfl

/-- A free key is taken alike in the table and by itself. -/
theorem take?_of_free (s : t.Sound) {r : Request} (free : t.slots.get? r.key = none) :
    (t.side r.key tickets).take? r = some ((t.install r.key r []).2.side r.key tickets) := by
  rw [side_install s free, Side.take?, holder_side_of_free free]

section Asking

variable {r : Request} {slot : Slot} (held : t.slots.get? r.key = some slot)
include held

/-- A key that is the caller's already is taken once more in both. -/
theorem take?_of_own (again : (t.reentrant && slot.holder.request.sameOwner r) = true) :
    (t.side r.key tickets).take? r
      = some ((t.setHolds r.key slot (slot.holder.holds + 1)).side r.key tickets) := by
  rw [side_setHolds held, Side.take?, holder_side held]
  exact if_pos again

/-- A key of somebody else is not taken in either. -/
theorem take?_of_busy (again : (t.reentrant && slot.holder.request.sameOwner r) = false) :
    (t.side r.key tickets).take? r = none := by
  rw [Side.take?, holder_side held]
  exact if_neg (Bool.eq_false_iff.1 again)

end Asking

/-- **Trying a key** by itself. -/
theorem side_tryLock (s : t.Sound) (r : Request) (tickets : List (Option Nat)) :
    (t.side r.key tickets).tryLock r = ((t.tryLock r).1, (t.tryLock r).2.side r.key tickets) := by
  rw [Side.tryLock, Table.tryLock]
  cases held : t.slots.get? r.key with
  | none => rw [take?_of_free s held, tryAcquire_of_free held]
  | some slot =>
    cases again : t.reentrant && slot.holder.request.sameOwner r with
    | true => rw [take?_of_own held again, tryAcquire_of_own held again]
    | false => rw [take?_of_busy held again, tryAcquire_of_busy held again]

/-- **Waiting for a key** by itself. -/
theorem side_lock (s : t.Sound) (token : String) (r : Request) (f : t.Ticketed r.key tickets) :
    (t.side r.key tickets).lock token r = ((t.lock token r).1.told,
      (t.lock token r).2.side r.key (tickets ++ [(t.lock token r).1.ticket?])) := by
  rw [Side.lock, Table.lock]
  cases held : t.slots.get? r.key with
  | none =>
    rw [take?_of_free s held, acquire, tryAcquire_of_free held]
    exact congrArg _ (side_append_none _ _ _).symm
  | some slot =>
    -- Whether he may have the key once more is decided alike, for the side has the same holder.
    cases again : t.reentrant && slot.holder.request.sameOwner r with
    | true =>
      rw [take?_of_own held again, acquire, tryAcquire_of_own held again]
      exact congrArg _ (side_append_none _ _ _).symm
    | false =>
      rw [take?_of_busy held again, acquire_of_busy s.toQueued held again]
      by_cases off : token ∈ t.cancelled
      · rw [if_pos off]
        exact (if_pos off).trans (congrArg _ (side_append_none t _ _).symm)
      · rw [if_neg off]
        exact (if_neg off).trans (congrArg _ (side_enqueue s f token r).symm)

/-! ## Giving back -/

/-- **Giving a key back** by itself. -/
theorem side_unlock (s : t.Sound) (r : Request) (f : t.Ticketed r.key tickets) :
    (t.side r.key tickets).unlock r = ((t.unlock r).1, (t.unlock r).2.side r.key tickets) := by
  rw [Side.unlock, Table.unlock]
  cases held : t.slots.get? r.key with
  | none =>
    rw [release_of_free held, holder_side_of_free held]
    rfl
  | some slot =>
    rw [holder_side held]
    cases own : slot.holder.request.sameOwner r with
    | false =>
      rw [release_of_other held own]
      exact if_neg (Bool.eq_false_iff.1 own)
    | true =>
      refine (if_pos own).trans ?_
      cases keeps : t.reentrant && decide (1 < slot.holder.holds) with
      | true =>
        rw [release_of_more held own keeps, side_setHolds held]
        exact congrArg _ (if_pos keeps)
      | false =>
        rw [release_of_last held own keeps, ← queue_of_slot held, side_handOn s f]
        exact congrArg _ (if_neg (Bool.eq_false_iff.1 keeps))

/-- A grant that was handed to a call which departs is given back if it holds the key. -/
theorem side_giveBack (s : t.Sound) (f : t.Ticketed key tickets) (grant : Nat) :
    (t.giveBack key grant).2.side key tickets
      = if t.grant? key = some grant then (t.side key tickets).giveBack
        else t.side key tickets := by
  by_cases mine : t.grant? key = some grant
  · obtain ⟨h, held, number⟩ := exists_holder_of_grant mine
    have slot := slot_of_holder held
    rw [if_pos mine, Side.giveBack, holder_side slot]
    by_cases more : 1 < h.holds
    · rw [giveBack_of_more slot number more, side_setHolds slot]
      exact (if_pos more).symm
    · rw [giveBack_of_last slot number more, side_handOn s f]
      exact (if_neg more).symm
  -- A grant that has ended gives nothing back.
  · rw [if_neg mine, giveBack_of_late mine]

/-! ## Calls -/

/-- Whoever stands in a place is the caller of the ticket there. -/
theorem caller?_side (t : Table) (key : String) (tickets : List (Option Nat)) (i : Nat) :
    (t.side key tickets).caller? i = t.caller key tickets[i]?.join := by
  rw [Side.caller?, side, List.getElem?_map]
  cases tickets[i]? <;> rfl

/-- What is seen of a call on the side. -/
theorem caller_of_call {n : Nat} {c : Call} (found : t.call? n = some c) :
    t.caller key (some n) = some ⟨c.token, c.request, t.footing key c⟩ := by
  rw [caller, Option.bind_some, found]
  rfl

section Calls

variable {i n : Nat} (place : tickets[i]? = some (some n))
include place

/-- **A poll** by itself. -/
theorem side_poll (q : t.Queued) (f : t.Ticketed key tickets) :
    (t.side key tickets).poll i
      = ((t.pollLock n).1.told, (t.pollLock n).2.side key tickets) := by
  rw [Side.poll, caller?_side, place, Option.join_some, Table.pollLock]
  cases found : t.call? n with
  | none =>
    rw [caller, Option.bind_some, found]
    rfl
  | some c =>
    obtain ⟨hc, rfl⟩ := q.call?_eq_some_iff.1 found
    rw [caller_of_call found]
    dsimp only
    -- A permit is looked for first, and then whether the call was called off.
    cases ready : c.permit with
    | some g =>
      have cleared := side_clear f place (u := t.forget c.ticket) rfl rfl (t.call?_forget c.ticket)
      rw [if_neg (footing_ne_waiting ready), poll_of_permit found ready, cleared]
      rfl
    | none =>
      have waits : t.footing key c = .waiting := by rw [footing, ready]
      rw [if_pos waits]
      by_cases off : c.token ∈ t.cancelled
      · have cleared := side_clear f place (t.scene_withdraw c) (t.holder?_withdraw c key)
          (t.call?_withdraw c)
        rw [poll_of_cancelled found ready off]
        exact (if_pos off).trans (congrArg _ cleared.symm)
      · rw [poll_of_pending found ready off]
        exact if_neg off

/-- **A departure** by itself. -/
theorem side_depart (s : t.Sound) (f : t.Ticketed key tickets) :
    (t.side key tickets).depart i = (if (t.call? n).isSome then .done else .unknown,
      (t.depart n).2.side key tickets) := by
  rw [Side.depart, caller?_side, place, Option.join_some, Table.depart]
  cases found : t.call? n with
  | none =>
    rw [caller, Option.bind_some, found]
    rfl
  | some c =>
    obtain ⟨hc, rfl⟩ := s.call?_eq_some_iff.1 found
    have here : c.request.key = key :=
      (f.own c hc).1 (List.mem_of_getElem? place)
    rw [caller_of_call found, Option.isSome_some, if_pos rfl]
    dsimp only
    cases ready : c.permit with
    | none =>
      have cleared := side_clear f place (t.scene_withdraw c) (t.holder?_withdraw c key)
        (t.call?_withdraw c)
      have waits : t.footing key c = .waiting := by rw [footing, ready]
      rw [waits]
      exact congrArg _ cleared.symm
    | some g =>
      have cleared := side_clear f place (u := t.forget c.ticket) rfl rfl (t.call?_forget c.ticket)
      have given := side_giveBack (s.forget hc ready) (f.forget c.ticket) g.id
      -- The grant is given back if it still holds the key.
      have standing : t.footing key c = .ready ↔ (t.forget c.ticket).grant? key = some g.id := by
        rw [footing, ready]
        change (if t.grant? key = some g.id then _ else _) = _ ↔ t.grant? key = some g.id
        by_cases mine : t.grant? key = some g.id
        · simp [mine]
        · simp [mine]
      rw [here, given, cleared]
      simp only [standing]

end Calls

end Table

end KeyedLocks
