/-
Where a blocked call is.

A call that blocked is in one of two places until it returns or is dropped: it stands in the
queue of its key and nothing lies ready for it, or it stands in no queue and one grant lies
ready. Both are told here by the history. `live` are the calls that joined a queue and have
neither returned nor been dropped since, and `given` are the grants that were laid ready for
a ticket; a grant is laid ready for whoever was the first in the queue of the key that is
passed on.

What a step does to the calls is one equation (`Way.calls`): those that return are taken
out, the grant that is laid ready goes to the call with that ticket, and the call that joins
comes last. The rest follows from three facts about a step. A grant goes to a call that has
none, so no call is given two; its number is new, so no two calls are given one; and the
ticket of a call that joins is new, so nothing that happened before was meant for it.
-/
import KeyedLocks.Proofs.Table.Fairness
import KeyedLocks.Proofs.Table.Settling

set_option autoImplicit false

namespace KeyedLocks

open GrantEvent

/-! ## Joining, returning, being given a grant -/

/-- A call as it was when it joined its queue. -/
def Call.bare (c : Call) : Call := { c with permit := none }

/-- The call that finds its key busy and stays to wait for it. -/
def joins? (e : Event) (o : Outcome) : Option Call :=
  match e, o with
  | .acquire token r, .acquisition (.waiting ticket) => some ⟨ticket, token, r, none⟩
  | _, _ => none

/-- The ticket of a call that returns or is dropped. -/
def returns? (e : Event) (o : Outcome) : Option Nat :=
  match e, o with
  | .poll ticket, .progress (.granted _) => some ticket
  | _, _ => quits? e o

/-- The grant for a ticket, if it is that ticket's. -/
def grantFor (given : Option (Nat × Grant)) (ticket : Nat) : Option Grant :=
  given.bind fun p => if p.1 = ticket then some p.2 else none

/-- A call after a grant was laid ready for somebody. -/
def Call.take (given : Option (Nat × Grant)) (c : Call) : Call :=
  { c with permit := (grantFor given c.ticket).or c.permit }

namespace Table

/-- The key that is passed on by a step, and the next grant. -/
def passes? (t : Table) (e : Event) (o : Outcome) : Option (String × Option Grant) :=
  match e, o with
  | .release r, .release (.released _ next) => some (r.key, next)
  | .revoke key _, .revocation (some v) => some (key, v.next)
  | .reap, .reaped (.revoked record v) => some (record.key, v.next)
  | .depart ticket, .departure (.gaveBack (.returned _ next)) =>
    (t.call? ticket).map fun c => (c.request.key, next)
  | _, _ => none

/-- The grant that a step lays ready, with the ticket of the first in the queue. -/
def publishes? (t : Table) (e : Event) (o : Outcome) : Option (Nat × Grant) :=
  (t.passes? e o).bind fun p => (t.queue p.1).head?.bind fun w => p.2.map fun g => (w.ticket, g)

/-- A step makes a grant for a request and installs it on the key of the request. -/
def Makes (t : Table) (e : Event) (o : Outcome) (u : Table) (r : Request) (g : Grant) : Prop :=
  installed r.key g.id ∈ t.grantEvents e o
    ∧ ∃ h, u.holder? r.key = some h ∧ h.request = r ∧ h.toGrant = g

end Table

namespace Moment

/-- The call that joins a queue at a moment. -/
def joins? (m : Moment) : Option Call := KeyedLocks.joins? m.event m.outcome

/-- The ticket of the call that returns or is dropped at a moment. -/
def returns? (m : Moment) : Option Nat := KeyedLocks.returns? m.event m.outcome

/-- The grant that is laid ready at a moment, and for whom. -/
def publishes? (m : Moment) : Option (Nat × Grant) := m.table.publishes? m.event m.outcome

/-- A grant is made at a moment for a request, on the key of that request. -/
def Makes (m : Moment) (r : Request) (g : Grant) : Prop :=
  m.table.Makes m.event m.outcome m.after r g

end Moment

/-- Whether the call of a ticket has returned or was dropped. -/
def returned (ms : List Moment) (ticket : Nat) : Bool := ms.any fun m => m.returns? = some ticket

/-- **The calls that are blocked**, as history tells it: those that joined a queue and have
neither returned nor been dropped, in the order in which they joined. -/
def live (ms : List Moment) : List Call :=
  (ms.filterMap Moment.joins?).filter fun c => !returned ms c.ticket

/-- **The grants that were laid ready for a ticket**, as history tells it. -/
def given (ms : List Moment) (ticket : Nat) : List Grant :=
  ms.filterMap fun m => grantFor m.publishes? ticket

theorem returned_concat (ms : List Moment) (m : Moment) (ticket : Nat) :
    returned (ms ++ [m]) ticket = (returned ms ticket || decide (m.returns? = some ticket)) := by
  simp [returned]

theorem given_concat (ms : List Moment) (m : Moment) (ticket : Nat) :
    given (ms ++ [m]) ticket = given ms ticket ++ (grantFor m.publishes? ticket).toList := by
  rw [given, List.filterMap_append]
  refine congrArg (given ms ticket ++ ·) ?_
  cases found : grantFor m.publishes? ticket <;> simp [found]

/-- A grant that is found for a ticket was laid ready for that ticket. -/
theorem grantFor_eq_some {x : Option (Nat × Grant)} {ticket : Nat} {g : Grant}
    (h : grantFor x ticket = some g) : x = some (ticket, g) := by
  cases x with
  | none => cases h
  | some p =>
    change (if p.1 = ticket then some p.2 else none) = some g at h
    by_cases mine : p.1 = ticket
    · rw [if_pos mine] at h
      rw [← mine, ← Option.some.inj h]
    · rw [if_neg mine] at h
      cases h

/-! ## What is told when nothing happens -/

theorem joins?_of_refuses (e : Event) {o : Outcome} (h : o.refuses = true) : joins? e o = none := by
  unfold joins?
  split <;> first | cases h | rfl

/-- A refusal is no return: the call it is told to did not stand anywhere. -/
theorem returns?_of_refuses (e : Event) {o : Outcome} (h : o.refuses = true) :
    returns? e o = none := by
  unfold returns?
  split
  · cases h
  · exact Table.quits?_of_refuses e h

namespace Table

variable {t u : Table}

theorem publishes?_of_refuses (e : Event) {o : Outcome} (h : o.refuses = true) :
    t.publishes? e o = none := by
  -- Only an end of a grant passes a key on.
  have none : t.passes? e o = none := by
    unfold passes?
    split <;> first | cases h | rfl
  rw [publishes?, none]
  rfl

/-! ## What a step does to the calls -/

/-- Passing a key on lays a grant ready for the first in the queue. -/
theorem calls_handOn (t : Table) (key : String) (ws : List Waiter) :
    (t.handOn key ws).2.calls = t.calls.map (Call.take
      (ws.head?.map fun w => (w.ticket, (t.newHolder w.request).toGrant))) := by
  cases ws with
  | nil => exact (List.map_id t.calls).symm
  | cons w ws =>
    -- Call by call: the one with the ticket of the first waiter takes the grant.
    refine List.map_congr_left ?_
    intro c _
    by_cases mine : c.ticket = w.ticket
    · simp [Call.take, grantFor, mine]
    · simp [Call.take, grantFor, mine, Ne.symm mine]

/-- What is laid ready when a key is passed on. A call that departs is forgotten first, and a
record that fell due is taken out first, which is why the table is another one. -/
theorem publishes?_of_passes (t t' : Table) {e : Event} {o : Outcome} {key : String} {slot : Slot}
    (held : t.slots.get? key = some slot)
    (passes : t.passes? e o = some (key, (t'.handOn key slot.waiters).1)) :
    t.publishes? e o
      = slot.waiters.head?.map fun w => (w.ticket, (t'.newHolder w.request).toGrant) := by
  rw [publishes?, passes, Option.bind_some, queue_of_slot held, handOn_fst]
  cases slot.waiters <;> rfl

/-- Forgetting a call takes out the one that returns. -/
theorem filter_returning (calls : List Call) (n : Nat) :
    calls.filter (fun d => d.ticket != n)
      = calls.filter fun d => !decide (some n = some d.ticket) := by
  refine List.filter_congr ?_
  intro d _
  by_cases mine : d.ticket = n
  · simp [mine]
  · simp [mine, Ne.symm mine]

/-- **A step on the calls**: those that return leave, the grant that is laid ready goes to the
call with its ticket, and the call that joins comes last. -/
theorem Way.calls (q : t.Queued) {e : Event} {o : Outcome} (w : Way t e o u) :
    u.calls = ((t.calls.filter fun c => !decide (returns? e o = some c.ticket)).map
        (Call.take (t.publishes? e o))) ++ (joins? e o).toList := by
  -- Where a step tells nothing of calls, the calls are the same.
  have quiet : returns? e o = none → t.publishes? e o = none → joins? e o = none →
      u.calls = t.calls → u.calls = ((t.calls.filter fun c =>
        !decide (returns? e o = some c.ticket)).map (Call.take (t.publishes? e o)))
          ++ (joins? e o).toList := by
    intro stay none nobody same
    rw [stay, none, nobody, same]
    change t.calls = ((t.calls.filter fun _ => true).map fun c => c) ++ []
    rw [List.filter_true, List.map_id', List.append_nil]
  cases w with
  | refuse h =>
    exact quiet (returns?_of_refuses e h) (publishes?_of_refuses e h) (joins?_of_refuses e h) rfl
  | aside same => cases e <;> exact quiet rfl rfl rfl same.calls
  | tryClaim | tryReenter | claim | reenter | decline | retain | discard =>
    exact quiet rfl rfl rfl rfl
  -- The new call comes last, since the list is kept in the order of arrival.
  | block token r =>
    rw [calls_enqueue]
    change t.calls ++ [_] = ((t.calls.filter fun _ => true).map fun c => c) ++ [_]
    rw [List.filter_true, List.map_id']
  | fetch c | lapse c | keep c =>
    change t.calls.filter (fun d => d.ticket != c.ticket)
      = ((t.calls.filter fun d => !decide (some c.ticket = some d.ticket)).map fun d => d) ++ []
    rw [List.map_id', List.append_nil, filter_returning]
  | callOff c | leave c =>
    rw [calls_withdraw, filter_returning]
    change _ = ((t.calls.filter fun d => !decide (some c.ticket = some d.ticket)).map fun d => d)
      ++ []
    rw [List.map_id', List.append_nil]
  | giveBack c g slot hc ready held =>
    -- The departing call is in the list still, and names the key that is passed on.
    have found : t.call? c.ticket = some c := q.call?_eq_some_iff.2 ⟨hc, rfl⟩
    rw [publishes?_of_passes t (t.forget c.ticket) held (by rw [passes?, found]; rfl),
      calls_handOn]
    change (t.calls.filter fun d => d.ticket != c.ticket).map _
      = ((t.calls.filter fun d => !decide (some c.ticket = some d.ticket)).map _) ++ []
    rw [List.append_nil, filter_returning]
  | release r slot held | revoke key slot held =>
    rw [publishes?_of_passes t t held rfl, calls_handOn]
    change _ = ((t.calls.filter fun _ => true).map _) ++ []
    rw [List.filter_true, List.append_nil]
  | expire record slot _ _ _ held =>
    rw [publishes?_of_passes t { t with delays := t.delays.tail } held rfl, calls_handOn]
    change _ = ((t.calls.filter fun _ => true).map _) ++ []
    rw [List.filter_true, List.append_nil]

/-- What is known of a grant that is laid ready: the call had none and does not return, the
number is new, and the grant was made for the request of that call. -/
structure Publishes (t : Table) (e : Event) (o : Outcome) (u : Table) (c : Call) (g : Grant) :
    Prop where
  mem : c ∈ t.calls
  bare : c.permit = none
  stays : returns? e o ≠ some c.ticket
  nobody : joins? e o = none
  number : g.id = t.lastGrant + 1
  last : u.lastGrant = t.lastGrant + 1
  makes : t.Makes e o u c.request g

/-- Passing a key on makes the grant that is laid ready, for the call that it is laid ready
for. -/
theorem publishes_handOn (t t' : Table) {e : Event} {o : Outcome} (q' : t'.Queued)
    (slots : t'.slots = t.slots) (fewer : ∀ c ∈ t'.calls, c ∈ t.calls)
    (last : t'.lastGrant = t.lastGrant) {key : String} {slot : Slot}
    (held : t.slots.get? key = some slot)
    (passes : t.passes? e o = some (key, (t'.handOn key slot.waiters).1)) {i : Nat}
    (told : t.grantEvents e o = passing key i (t'.handOn key slot.waiters).1)
    (stays : ∀ c ∈ t'.calls, returns? e o ≠ some c.ticket) (nobody : joins? e o = none)
    {n : Nat} {g : Grant} (publishes : t.publishes? e o = some (n, g)) :
    ∃ c, c.ticket = n ∧ t.Publishes e o (t'.handOn key slot.waiters).2 c g := by
  have queue : t'.queue key = slot.waiters := by
    rw [Table.queue, slots, held]
  rw [publishes?_of_passes t t' held passes] at publishes
  -- Where nobody waits nothing is laid ready.
  cases waiting : slot.waiters with
  | nil =>
    rw [waiting] at publishes
    cases publishes
  | cons w ws =>
    rw [waiting] at publishes told queue
    obtain ⟨c, hc, bare, rfl, rfl⟩ := q'.exists_call_of_mem (queue ▸ List.mem_cons_self)
    obtain ⟨same, rfl⟩ := Prod.mk.inj (Option.some.inj publishes)
    have number : (t'.newHolder c.request).toGrant.id = t.lastGrant + 1 := congrArg (· + 1) last
    refine ⟨c, same, fewer c hc, bare, stays c hc, nobody, number, congrArg (· + 1) last, ?_⟩
    refine ⟨?_, t'.newHolder c.request, ?_, rfl, rfl⟩
    · rw [told, handOn_fst]
      exact List.mem_cons_of_mem _ (List.mem_singleton.2 rfl)
    · rw [holder?_handOn, if_pos rfl]
      rfl

/-- **A grant is laid ready** for a live call without a grant only, and it is that call's own. -/
theorem Way.publishes (s : t.Sound) {e : Event} {o : Outcome} (w : Way t e o u) {n : Nat}
    {g : Grant} (publishes : t.publishes? e o = some (n, g)) :
    ∃ c, c.ticket = n ∧ t.Publishes e o u c g := by
  have q := s.toQueued
  cases w with
  | refuse h =>
    rw [publishes?_of_refuses e h] at publishes
    cases publishes
  | aside => cases e <;> cases publishes
  | giveBack c g' slot hc ready held mine =>
    have found : t.call? c.ticket = some c := q.call?_eq_some_iff.2 ⟨hc, rfl⟩
    refine publishes_handOn t (t.forget c.ticket) (q.forget hc ready) rfl
      (fun d hd => (List.mem_filter.1 hd).1) rfl held ?_ (i := g'.id) ?_ ?_ rfl publishes
    · rw [passes?, found]
      rfl
    · rw [grantEvents, found]
    · -- Whoever departs was forgotten before the key was passed on.
      intro d hd same
      have gone := (List.mem_filter.1 hd).2
      rw [show d.ticket = c.ticket from (Option.some.inj same).symm] at gone
      simp at gone
  | release r slot held | revoke key slot held =>
    exact publishes_handOn t t q rfl (fun _ hc => hc) rfl held rfl rfl
      (fun _ _ h => by cases h) rfl publishes
  | expire record slot _ _ _ held =>
    exact publishes_handOn t { t with delays := t.delays.tail } s.drain.toQueued rfl
      (fun _ hc => hc) rfl held rfl rfl (fun _ _ h => by cases h) rfl publishes
  | _ => cases publishes

/-- A call that joins draws the next ticket, and nobody returns or is given anything. -/
theorem Way.joins {e : Event} {o : Outcome} (w : Way t e o u) {c : Call}
    (joins : joins? e o = some c) :
    c.ticket = t.nextTicket ∧ u.nextTicket = t.nextTicket + 1 ∧ c.permit = none
      ∧ returns? e o = none ∧ t.publishes? e o = none := by
  cases w with
  | refuse h =>
    rw [joins?_of_refuses e h] at joins
    cases joins
  | aside => cases e <;> cases joins
  | block token r =>
    obtain ⟨slots, eq⟩ := t.enqueue_eq token r
    rw [← Option.some.inj joins]
    exact ⟨rfl, by rw [eq], rfl, rfl, rfl⟩
  | _ => cases joins

/-- A call that returns had drawn its ticket. -/
theorem Way.returns_lt (q : t.Queued) {e : Event} {o : Outcome} (w : Way t e o u) {n : Nat}
    (returns : returns? e o = some n) : n < t.nextTicket := by
  have others : quits? e o = some n → n < t.nextTicket := w.quits_lt q
  cases w with
  | fetch c g hc =>
    rw [← Option.some.inj returns]
    exact q.ticket_lt c hc
  | refuse h =>
    rw [returns?_of_refuses e h] at returns
    cases returns
  | aside => cases e <;> cases returns
  | callOff | leave | lapse | keep | giveBack => exact others returns
  | _ => cases returns

/-! ## What holds over a run -/

/-- Calls and history agree. -/
structure Placed (ms : List Moment) (t : Table) : Prop where
  live_eq : t.calls.map Call.bare = live ms
  given_eq : ∀ c ∈ t.calls, given ms c.ticket = c.permit.toList
  made : ∀ c ∈ t.calls, ∀ g, c.permit = some g → ∃ m ∈ ms, m.Makes c.request g
  once : ∀ n, (given ms n).length ≤ 1
  given_lt : ∀ n g, g ∈ given ms n → n < t.nextTicket
  given_le : ∀ n g, g ∈ given ms n → g.id ≤ t.lastGrant
  given_inj : ∀ n n' g g', g ∈ given ms n → g' ∈ given ms n' → g.id = g'.id → n = n'
  returned_lt : ∀ n, returned ms n = true → n < t.nextTicket

/-- A grant that is in the longer history was given before, or is given now. -/
theorem mem_given_concat {ms : List Moment} {m : Moment} {n : Nat} {g : Grant}
    (h : g ∈ given (ms ++ [m]) n) : g ∈ given ms n ∨ m.publishes? = some (n, g) := by
  rw [given_concat] at h
  rcases List.mem_append.1 h with earlier | now
  · exact .inl earlier
  · rw [Option.mem_toList] at now
    exact .inr (grantFor_eq_some now)

namespace Placed

variable {ms : List Moment} {m : Moment}

/-- Nothing was given before to a call that is given something now. -/
theorem given_of_publishes (p : Placed ms m.table) {c : Call} {g : Grant}
    (pub : m.table.Publishes m.event m.outcome m.after c g) : given ms c.ticket = [] := by
  rw [p.given_eq c pub.mem, pub.bare]
  rfl

/-- The calls after a moment are those that the longer history names. -/
theorem live_concat (p : Placed ms m.table) (s : m.table.Sound) :
    m.after.calls.map Call.bare = live (ms ++ [m]) := by
  have way := m.way s
  have older : ((m.table.calls.filter fun c => !decide (m.returns? = some c.ticket)).map
      (Call.take m.publishes?)).map Call.bare
      = (live ms).filter fun c => !decide (m.returns? = some c.ticket) := by
    rw [← p.live_eq, List.filter_map, List.map_map]
    rfl
  rw [way.calls s.toQueued, List.map_append]
  change ((m.table.calls.filter fun c => !decide (m.returns? = some c.ticket)).map
    (Call.take m.publishes?)).map Call.bare ++ (m.joins?.toList).map Call.bare = _
  rw [older, live, live, List.filterMap_append, List.filter_append, List.filter_filter]
  -- Those from before are judged by the new history, and the one that joins is judged for the first
  -- time.
  refine congrArg₂ (· ++ ·) (List.filter_congr ?_) ?_
  · intro c _
    rw [returned_concat, Bool.not_or, Bool.and_comm]
  · cases joins : m.joins? with
    | none => simp [joins]
    | some c =>
      obtain ⟨ticket, -, bare, stay, -⟩ := way.joins joins
      -- Its ticket is new, so no earlier return was meant for it.
      have fresh : returned (ms ++ [m]) c.ticket = false := by
        rw [returned_concat, show m.returns? = none from stay, ← Bool.not_eq_true, ticket]
        intro h
        rw [Bool.or_eq_true, decide_eq_true_eq] at h
        rcases h with earlier | now
        · exact Nat.lt_irrefl _ (p.returned_lt _ earlier)
        · cases now
      have same : c.bare = c := by rw [Call.bare, ← bare]
      simp [joins, fresh, same]

/-- What lies ready for a call is what was given to it. -/
theorem given_eq_concat (p : Placed ms m.table) (s : m.table.Sound) {c : Call}
    (hc : c ∈ m.after.calls) : given (ms ++ [m]) c.ticket = c.permit.toList := by
  have way := m.way s
  rw [way.calls s.toQueued] at hc
  rcases List.mem_append.1 hc with old | new
  · obtain ⟨d, hd, rfl⟩ := List.mem_map.1 old
    have member := (List.mem_filter.1 hd).1
    change given (ms ++ [m]) d.ticket = ((grantFor m.publishes? d.ticket).or d.permit).toList
    rw [given_concat, p.given_eq d member]
    cases found : grantFor m.publishes? d.ticket with
    | none => simp
    | some g =>
      -- It is the call that the grant is laid ready for, so it had none.
      obtain ⟨c, same, pub⟩ := way.publishes s (grantFor_eq_some found)
      rw [s.call_unique pub.mem member same] at pub
      rw [pub.bare]
      rfl
  · rw [Option.mem_toList] at new
    obtain ⟨ticket, -, bare, -, none⟩ := way.joins new
    have never : given ms c.ticket = [] := by
      rw [List.eq_nil_iff_forall_not_mem]
      intro g hg
      have old := p.given_lt _ g hg
      omega
    rw [given_concat, never, bare, show m.publishes? = Option.none from none]
    rfl

/-- A grant that lies ready was made at some moment, which is this one if it was laid ready just
now. -/
theorem made_concat (p : Placed ms m.table) (s : m.table.Sound) {c : Call}
    (hc : c ∈ m.after.calls) {g : Grant} (ready : c.permit = some g) :
    ∃ m' ∈ ms ++ [m], m'.Makes c.request g := by
  have way := m.way s
  rw [way.calls s.toQueued] at hc
  rcases List.mem_append.1 hc with old | new
  · obtain ⟨d, hd, rfl⟩ := List.mem_map.1 old
    have member := (List.mem_filter.1 hd).1
    change (grantFor m.publishes? d.ticket).or d.permit = some g at ready
    cases found : grantFor m.publishes? d.ticket with
    | none =>
      rw [found, Option.none_or] at ready
      obtain ⟨m', hm', makes⟩ := p.made d member g ready
      exact ⟨m', List.mem_append_left _ hm', makes⟩
    | some g' =>
      rw [found, Option.some_or] at ready
      obtain rfl := Option.some.inj ready
      obtain ⟨c, same, pub⟩ := way.publishes s (grantFor_eq_some found)
      rw [s.call_unique pub.mem member same] at pub
      exact ⟨m, List.mem_append_right _ (List.mem_singleton.2 rfl), pub.makes⟩
  · rw [Option.mem_toList] at new
    obtain ⟨-, -, bare, -⟩ := way.joins new
    rw [bare] at ready
    cases ready

/-- **A moment keeps calls and history in agreement.** -/
theorem concat (p : Placed ms m.table) (s : m.table.Sound) : Placed (ms ++ [m]) m.after := by
  have way := m.way s
  have grants : m.table.lastGrant ≤ m.after.lastGrant := (way.turn s).news.2.2
  have tickets : m.table.nextTicket ≤ m.after.nextTicket := way.nextTicket_le
  refine ⟨p.live_concat s, fun c hc => p.given_eq_concat s hc,
    fun c hc g ready => p.made_concat s hc ready, ?_, ?_, ?_, ?_, ?_⟩
  · intro n
    rw [given_concat]
    cases found : grantFor m.publishes? n with
    | none => simpa using p.once n
    | some g =>
      obtain ⟨c, rfl, pub⟩ := way.publishes s (grantFor_eq_some found)
      rw [p.given_of_publishes pub]
      exact Nat.le_refl 1
  · intro n g hg
    rcases mem_given_concat hg with earlier | now
    · exact Nat.lt_of_lt_of_le (p.given_lt n g earlier) tickets
    · obtain ⟨c, rfl, pub⟩ := way.publishes s now
      exact Nat.lt_of_lt_of_le (s.ticket_lt c pub.mem) tickets
  · intro n g hg
    rcases mem_given_concat hg with earlier | now
    · exact Nat.le_trans (p.given_le n g earlier) grants
    · obtain ⟨c, -, pub⟩ := way.publishes s now
      rw [pub.number]
      exact Nat.le_of_eq pub.last.symm
  -- Two grants with one number were given at the same moment, or one of them is the newest.
  · intro n n' g g' hg hg' same
    rcases mem_given_concat hg with earlier | now <;>
      rcases mem_given_concat hg' with earlier' | now'
    · exact p.given_inj n n' g g' earlier earlier' same
    · -- The number that is given now is greater than all before.
      obtain ⟨c, -, pub⟩ := way.publishes s now'
      have bound := p.given_le n g earlier
      have number := pub.number
      omega
    · obtain ⟨c, -, pub⟩ := way.publishes s now
      have bound := p.given_le n' g' earlier'
      have number := pub.number
      omega
    · exact (Prod.mk.inj (Option.some.inj (now.symm.trans now'))).1
  · intro n h
    rw [returned_concat, Bool.or_eq_true, decide_eq_true_eq] at h
    rcases h with earlier | now
    · exact Nat.lt_of_lt_of_le (p.returned_lt n earlier) tickets
    · exact Nat.lt_of_lt_of_le (way.returns_lt s.toQueued now) tickets

end Placed

variable {kind : LockKind} {leased : Bool} {reaper : Reaper} {horizon : Horizon}

/-- **Calls and history agree in every run.** -/
theorem placed_run (es : List Event) :
    Placed ((opening kind leased reaper horizon).history es)
      ((opening kind leased reaper horizon).run es) := by
  refine opening_induction kind leased reaper horizon (P := Placed) ?_ ?_ es
  · exact ⟨rfl, fun c hc => absurd hc List.not_mem_nil, fun c hc => absurd hc List.not_mem_nil,
      fun n => Nat.zero_le 1, fun n g hg => absurd hg List.not_mem_nil,
      fun n g hg => absurd hg List.not_mem_nil, fun n n' g g' hg => absurd hg List.not_mem_nil,
      fun n h => by cases h⟩
  · intro ms m s p
    exact p.concat s

/-- A token is called off from the moment it is, and no other is. -/
theorem mem_cancelled_run (es : List Event) (token : String) :
    token ∈ ((opening kind leased reaper horizon).run es).cancelled ↔ Event.cancel token ∈ es := by
  induction es using List.reverseRecOn with
  | nil => simp [opening]
  | append_singleton es e ih =>
    have s : ((opening kind leased reaper horizon).run es).Sound := sound_run es
    have way := step_way s.toQueued e
    rw [run_concat, List.mem_append, List.mem_singleton, ← ih]
    -- Only a step that answers nothing can touch the tokens.
    have still : ((((opening kind leased reaper horizon).run es).step e).1 ≠ .done) →
        (((opening kind leased reaper horizon).run es).step e).2.cancelled
          = ((opening kind leased reaper horizon).run es).cancelled :=
      fun answers => congrArg Scene.cancelled (way.scene answers)
    generalize (opening kind leased reaper horizon).run es = t at still
    cases e with
    | cancel other =>
      change token ∈ (t.cancel other).cancelled ↔ _
      rw [Event.cancel.injEq, cancel]
      split
      · constructor
        · exact .inl
        · rintro (member | rfl) <;> assumption
      · rw [List.mem_cons, or_comm]
    | tick ns => simp [step, tick]
    | stopReaper =>
      change token ∈ t.stopReaper.cancelled ↔ _
      unfold stopReaper
      split <;> simp
    | _ =>
      rw [still (by intro h; cases h)]
      simp

/-! ## Two places -/

/-- A call stands in the queue of its own key, with its own request, once and in no other
queue; and nothing was laid ready for it. -/
structure Waits (ms : List Moment) (t : Table) (c : Call) : Prop where
  empty : c.permit = none
  queued : (t.queue c.request.key).filter (fun w => w.ticket = c.ticket) = [⟨c.ticket, c.request⟩]
  only : ∀ key, key ≠ c.request.key → ∀ w ∈ t.queue key, w.ticket ≠ c.ticket
  never : given ms c.ticket = []

/-- A call stands in no queue; one grant lies ready for it, the only one that ever did, and it
was made for the call's own request. -/
structure Ready (ms : List Moment) (t : Table) (c : Call) (g : Grant) : Prop where
  full : c.permit = some g
  gone : ∀ key, ∀ w ∈ t.queue key, w.ticket ≠ c.ticket
  alone : given ms c.ticket = [g]
  made : ∃ m ∈ ms, m.Makes c.request g

variable {ms : List Moment}

/-- A call that was not given anything waits where its request belongs. -/
theorem Placed.waits (p : Placed ms t) (q : t.Queued) {c : Call} (hc : c ∈ t.calls)
    (bare : c.permit = none) : Waits ms t c := by
  have member : c.toWaiter ∈ t.waitList := mem_waitList.2 ⟨c, hc, bare, rfl⟩
  have tickets : (t.waitList.map Waiter.ticket).Nodup := by
    rw [List.Nodup, List.pairwise_map]
    exact q.waitList_ascending.imp fun h => Nat.ne_of_lt h
  -- The wait list names its ticket once, and the queue of its key is a part of that list.
  have mine : (t.waitList.filter fun w => w.ticket = c.ticket) = [c.toWaiter] :=
    filter_eq_singleton tickets member
  refine ⟨bare, ?_, ?_, ?_⟩
  · rw [q.queue_eq, List.filter_comm, mine]
    exact List.filter_cons_of_pos (decide_eq_true rfl)
  · intro key other w hw
    obtain ⟨listed, here⟩ := q.mem_queue.1 hw
    exact q.ticket_ne_of_key_ne hc listed fun same => other (here ▸ same)
  · rw [p.given_eq c hc, bare]
    rfl

theorem Placed.ready (p : Placed ms t) (q : t.Queued) {c : Call} (hc : c ∈ t.calls) {g : Grant}
    (full : c.permit = some g) : Ready ms t c g := by
  refine ⟨full, ?_, ?_, p.made c hc g full⟩
  · intro key w hw
    exact q.ticket_ne_of_permit hc full (q.mem_queue.1 hw).1
  · rw [p.given_eq c hc, full]
    rfl

/-- What a poll finds, told by the history: the grant that was laid ready, whether the call was
called off or not; that it was called off, and then the call has left its queue; or nothing. -/
theorem Placed.poll (p : Placed ms t) (q : t.Queued) {c : Call} (hc : c ∈ t.calls) :
    (∀ g, (t.poll c.ticket).1 = .granted g ↔ given ms c.ticket = [g])
      ∧ (∀ key, (t.poll c.ticket).1 = .cancelled key
        ↔ key = c.request.key ∧ c.token ∈ t.cancelled ∧ given ms c.ticket = [])
      ∧ ((t.poll c.ticket).1 = .pending ↔ c.token ∉ t.cancelled ∧ given ms c.ticket = [])
      ∧ ((t.poll c.ticket).1 ≠ .pending → ∀ key, ∀ w ∈ (t.poll c.ticket).2.queue key,
        w.ticket ≠ c.ticket) := by
  have found : t.call? c.ticket = some c := q.call?_eq_some_iff.2 ⟨hc, rfl⟩
  have told := p.given_eq c hc
  cases full : c.permit with
  -- Who has a grant is not asked whether he was called off.
  | some g =>
    rw [full] at told
    rw [poll_of_permit found full, told]
    refine ⟨fun g' => ?_, fun key => ?_, ?_, fun _ => (p.ready q hc full).gone⟩
    · simp
    · simp
    · simp
  | none =>
    rw [full] at told
    rw [told]
    by_cases off : c.token ∈ t.cancelled
    · rw [poll_of_cancelled found full off]
      refine ⟨fun g => by simp, fun key => by simp [off, eq_comm], by simp [off], ?_⟩
      intro _ key w hw
      change w ∈ (t.withdraw c).queue key at hw
      -- It leaves the queue of its key, and stood in no other.
      rw [queue_withdraw] at hw
      by_cases here : key = c.request.key
      · rw [if_pos here] at hw
        simpa using (List.mem_filter.1 hw).2
      · rw [if_neg here] at hw
        exact (p.waits q hc full).only key here w hw
    · rw [poll_of_pending found full off]
      exact ⟨fun g => by simp, fun key => by simp [off], by simp [off], fun h => absurd rfl h⟩

/-- A call that is called off beforehand does not stay: it leaves nothing but the number of
its ticket. -/
theorem acquire_of_cancelled (q : t.Queued) {token : String} {r : Request} {key : String}
    (cancelled : (t.acquire token r).1 = .cancelled key) :
    key = r.key ∧ token ∈ t.cancelled
      ∧ (t.acquire token r).2 = { t with nextTicket := t.nextTicket + 1 } := by
  have way := way_acquire q token r
  rw [cancelled] at way
  generalize (t.acquire token r).2 = u at way
  cases way with
  | refuse h => cases h
  | decline _ _ _ _ off => exact ⟨rfl, off, rfl⟩

/-- **Every blocked call is in one place.** In every table that a run leads to, the calls it
keeps are those that blocked and have neither returned nor been dropped. Each of them either
waits in the queue of its own key, once, or has one grant lying ready that was made for its own
request, and then it stands in no queue; and whoever stands in a queue is such a call. A poll
finds the grant exactly if one was laid ready, called off or not; it finds the call called off
exactly if its token was and no grant was ever laid ready, and then the call has left its
queue; and else it finds nothing. A call that is called off before it blocks never joins a
queue. No ticket is ever given two grants, and no grant is given to two tickets. -/
theorem every_call_is_in_one_place (kind : LockKind) (leased : Bool) (reaper : Reaper)
    (horizon : Horizon) (es : List Event) :
    let t := (opening kind leased reaper horizon).run es
    let ms := (opening kind leased reaper horizon).history es
    t.calls.map Call.bare = live ms
      ∧ (∀ c ∈ t.calls, Waits ms t c ∨ ∃ g, Ready ms t c g)
      ∧ (∀ key, ∀ w ∈ t.queue key, ∃ c ∈ t.calls, c.permit = none ∧ c.toWaiter = w
        ∧ c.request.key = key)
      ∧ (∀ c ∈ t.calls,
        (∀ g, (t.poll c.ticket).1 = .granted g ↔ given ms c.ticket = [g])
          ∧ (∀ key, (t.poll c.ticket).1 = .cancelled key
            ↔ key = c.request.key ∧ .cancel c.token ∈ es ∧ given ms c.ticket = [])
          ∧ ((t.poll c.ticket).1 = .pending ↔ .cancel c.token ∉ es ∧ given ms c.ticket = [])
          ∧ ((t.poll c.ticket).1 ≠ .pending → ∀ key, ∀ w ∈ (t.poll c.ticket).2.queue key,
            w.ticket ≠ c.ticket))
      ∧ (∀ token r key, (t.acquire token r).1 = .cancelled key →
        key = r.key ∧ .cancel token ∈ es
          ∧ (t.acquire token r).2 = { t with nextTicket := t.nextTicket + 1 })
      ∧ (∀ n, (given ms n).length ≤ 1)
      ∧ ∀ n n' g g', g ∈ given ms n → g' ∈ given ms n' → g.id = g'.id → n = n' := by
  intro t ms
  have s : t.Sound := sound_run es
  have p : Placed ms t := placed_run es
  have tokens : ∀ token, token ∈ t.cancelled ↔ .cancel token ∈ es := mem_cancelled_run es
  refine ⟨p.live_eq, ?_, fun key w hw => s.exists_call_of_mem hw, ?_, ?_, p.once, p.given_inj⟩
  · intro c hc
    cases full : c.permit with
    | none => exact .inl (p.waits s.toQueued hc full)
    | some g => exact .inr ⟨g, p.ready s.toQueued hc full⟩
  · intro c hc
    have polled := p.poll s.toQueued hc
    rw [tokens] at polled
    exact polled
  · intro token r key cancelled
    obtain ⟨here, off, after⟩ := acquire_of_cancelled s.toQueued cancelled
    exact ⟨here, (tokens token).1 off, after⟩

end Table

end KeyedLocks
