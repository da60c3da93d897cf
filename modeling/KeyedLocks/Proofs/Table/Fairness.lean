/-
Who comes next.

The list of those who wait for a key is told here by the history alone: the calls
that blocked, in the order in which they did, without those that were handed a grant,
were dropped, or gave up since (`line`). The queue that a table keeps is that list, at
every moment of every run. Each step takes out of the wait list what it has handed or
dismissed and puts in, at the end, what it has blocked (`Way.waitList`); a ticket that
was ever taken out is older than every ticket still to come, so what blocks later is
not taken for it.

Being first in the list is worth something: when the grant of the key ends, by whichever of its
four ends (`Closing`), the first one holds the key in the same step, nobody else is granted
anything, and as long as the list is not empty nobody gets a new grant by asking.
-/
import KeyedLocks.Proofs.Table.Lifecycle

set_option autoImplicit false

namespace KeyedLocks

/-! ## Blocking, being served, giving up -/

/-- The call that finds its key busy and stays to wait for it. A call that was called
off beforehand does not stay. -/
def blocked? (e : Event) (o : Outcome) : Option Waiter :=
  match e, o with
  | .acquire _ r, .acquisition (.waiting ticket) => some ⟨ticket, r⟩
  | _, _ => none

/-- The ticket of a call that is dropped, or that finds that it was called off. -/
def quits? (e : Event) (o : Outcome) : Option Nat :=
  match e, o with
  | .depart ticket, .departure .left => some ticket
  | .depart ticket, .departure (.gaveBack _) => some ticket
  | .poll ticket, .progress (.cancelled _) => some ticket
  | _, _ => none

namespace Table

/-- Whether a grant lies ready for the call of a ticket. -/
def served (t : Table) (ticket : Nat) : Bool :=
  t.calls.any fun c => c.ticket == ticket && c.permit.isSome

end Table

namespace Moment

/-- The call that blocks at a moment. -/
def blocked? (m : Moment) : Option Waiter := KeyedLocks.blocked? m.event m.outcome

/-- Whether the call of a ticket is handed its grant at a moment, or has not fetched it
since then, or whether it gives up. -/
def dismisses (m : Moment) (ticket : Nat) : Bool :=
  m.after.served ticket || quits? m.event m.outcome == some ticket

end Moment

/-- Whether the call of a ticket was handed its grant, was dropped, or gave up. -/
def dismissed (ms : List Moment) (ticket : Nat) : Bool := ms.any fun m => m.dismisses ticket

/-- **Those who wait for a key**, as history tells it: the calls that blocked on it, in
that order, without those that were dismissed. -/
def line (ms : List Moment) (key : String) : List Waiter :=
  ((ms.filterMap Moment.blocked?).filter fun w => !dismissed ms w.ticket).filter fun w =>
    w.request.key = key

theorem dismissed_concat (ms : List Moment) (m : Moment) (ticket : Nat) :
    dismissed (ms ++ [m]) ticket = (dismissed ms ticket || m.dismisses ticket) := by
  simp [dismissed]

namespace Table

variable {t u : Table}

/-! ## What a step does to the wait list -/

/-- A call that waits has not been served. -/
theorem Queued.served_of_mem (q : t.Queued) {w : Waiter} (hw : w ∈ t.waitList) :
    t.served w.ticket = false := by
  rw [served, List.any_eq_false]
  intro c hc
  cases ready : c.permit with
  | none => simp
  | some g => simpa using (q.ticket_ne_of_permit hc ready hw).symm

/-- **Passing a key on serves the first** in its queue, who is the only one that leaves. -/
theorem served_handOn {w : Waiter} (hw : w ∈ t.waitList) {key : String} {ws : List Waiter}
    (gone : (ws.head?.all fun first => w.ticket != first.ticket) = false) :
    (t.handOn key ws).2.served w.ticket = true := by
  cases ws with
  | nil => cases gone
  | cons first rest =>
    obtain ⟨c, hc, -, rfl⟩ := mem_waitList.1 hw
    have mine : c.ticket = first.ticket := by simpa [Call.toWaiter] using gone
    rw [handOn_cons, served, List.any_eq_true]
    refine ⟨_, List.mem_map.2 ⟨c, hc, rfl⟩, ?_⟩
    rw [if_pos mine]
    simp [Call.toWaiter]

theorem quits?_of_refuses (e : Event) {o : Outcome} (h : o.refuses = true) :
    quits? e o = none := by
  unfold quits?
  split <;> first | cases h | rfl

theorem blocked?_of_refuses (e : Event) {o : Outcome} (h : o.refuses = true) :
    blocked? e o = none := by
  unfold blocked?
  split <;> first | cases h | rfl

/-- What becomes of a wait list when nobody blocks. Whoever is left in it was not
dismissed, so it is enough to look at those who are missing. -/
theorem Queued.waitList_filter (q : u.Queued) {e : Event} {o : Outcome} {p : Waiter → Bool}
    (nobody : blocked? e o = none) (left : u.waitList = t.waitList.filter p)
    (out : ∀ v ∈ t.waitList, p v = false → u.served v.ticket = true ∨ quits? e o = some v.ticket)
    (stay : ∀ v ∈ t.waitList, p v = true → quits? e o ≠ some v.ticket) :
    u.waitList = (t.waitList.filter fun v => !(u.served v.ticket || quits? e o == some v.ticket))
      ++ (blocked? e o).toList := by
  rw [nobody, Option.toList_none, List.append_nil, left]
  refine List.filter_congr fun v hv => ?_
  cases kept : p v with
  | false => rcases out v hv kept with done | done <;> simp [done]
  | true =>
    -- Whoever stays is without a grant, or it would not be in the list after the step.
    have unserved := q.served_of_mem (left ▸ List.mem_filter.2 ⟨hv, kept⟩)
    simp [unserved, stay v hv kept]

/-- Where all stay, nobody must have given up. -/
theorem Queued.waitList_same (q : u.Queued) {e : Event} {o : Outcome}
    (nobody : blocked? e o = none) (same : u.waitList = t.waitList)
    (nor : ∀ v ∈ t.waitList, quits? e o ≠ some v.ticket) :
    u.waitList = (t.waitList.filter fun v => !(u.served v.ticket || quits? e o == some v.ticket))
      ++ (blocked? e o).toList := by
  refine q.waitList_filter (p := fun _ => true) nobody ?_ (fun _ _ h => by cases h)
    fun v hv _ => nor v hv
  rw [same, List.filter_true]

/-- **A step on the wait list**: those it dismisses leave, and the one it blocks joins at
the end. -/
theorem Way.waitList (s : t.Sound) {e : Event} {o : Outcome} (w : Way t e o u) :
    u.waitList = (t.waitList.filter fun v => !(u.served v.ticket || quits? e o == some v.ticket))
      ++ (blocked? e o).toList := by
  have after := (s.way w).toQueued
  cases w with
  | refuse h =>
    refine after.waitList_same (blocked?_of_refuses e h) rfl fun v _ => ?_
    rw [quits?_of_refuses e h]
    exact (Option.some_ne_none _).symm
  | aside same =>
    have still : u.waitList = t.waitList := by rw [Table.waitList, Table.waitList, same.calls]
    cases e <;> exact after.waitList_same rfl still fun _ _ => (Option.some_ne_none _).symm
  | tryClaim | tryReenter | claim | reenter | decline | retain | discard =>
    exact after.waitList_same rfl rfl fun _ _ => (Option.some_ne_none _).symm
  | block token r slot held =>
    -- Nobody leaves: all that waited before wait after the step, so none was served.
    rw [waitList_enqueue]
    refine congrArg (· ++ [_]) (List.filter_eq_self.2 fun v hv => ?_).symm
    have stays : v ∈ (t.enqueue token r).waitList := by
      rw [waitList_enqueue]
      exact List.mem_append_left _ hv
    rw [after.served_of_mem stays]
    rfl
  | fetch c g hc ready =>
    exact after.waitList_same rfl (s.waitList_forget_ready hc ready) fun _ _ =>
      (Option.some_ne_none _).symm
  | callOff c | leave c =>
    refine after.waitList_filter rfl (t.waitList_withdraw c) (fun v _ gone => ?_)
      fun v _ kept same => ?_
    · rw [show v.ticket = c.ticket by simpa using gone]
      exact .inr rfl
    · rw [Option.some.inj same] at kept
      simp at kept
  | lapse c g hc ready | keep c g slot hc ready held =>
    refine after.waitList_same rfl (s.waitList_forget_ready hc ready) fun v hv same => ?_
    exact s.ticket_ne_of_permit hc ready hv (Option.some.inj same).symm
  | giveBack c g slot hc ready held =>
    -- The call that departs had its grant, so it is not one of those that wait.
    refine after.waitList_filter rfl ?_ (fun v hv gone => .inl (served_handOn ?_ gone))
      fun v hv _ same => ?_
    · rw [waitList_handOn, s.waitList_forget_ready hc ready]
    · rw [s.waitList_forget_ready hc ready]
      exact hv
    · exact s.ticket_ne_of_permit hc ready hv (Option.some.inj same).symm
  | release r slot | revoke key slot =>
    exact after.waitList_filter rfl (waitList_handOn _ _ _)
      (fun v hv gone => .inl (served_handOn hv gone)) fun _ _ _ => (Option.some_ne_none _).symm
  | expire record slot =>
    exact after.waitList_filter rfl (waitList_handOn _ _ _)
      (fun v hv gone => .inl (served_handOn (t := { t with delays := t.delays.tail }) hv gone))
      fun _ _ _ => (Option.some_ne_none _).symm

/-! ## Tickets are not drawn twice -/

/-- The number for the next ticket never falls. It rises with a call that blocks, and with one that
finds itself called off on arrival. -/
theorem Way.nextTicket_le {e : Event} {o : Outcome} (w : Way t e o u) :
    t.nextTicket ≤ u.nextTicket := by
  cases w with
  | aside same => exact Nat.le_of_eq same.nextTicket.symm
  | block token r =>
    obtain ⟨slots, eq⟩ := t.enqueue_eq token r
    rw [eq]
    exact Nat.le_succ _
  | decline => exact Nat.le_succ _
  | callOff c | leave c =>
    obtain ⟨slots, eq⟩ := t.withdraw_eq c
    exact Nat.le_of_eq (congrArg Table.nextTicket eq).symm
  | giveBack c g slot | release r slot | revoke key slot | expire record slot =>
    -- The ticket counter is no part of passing a key on, whether or not somebody waits.
    cases slot.waiters <;> exact Nat.le_refl _
  | _ => exact Nat.le_refl _

/-- A call that gives up had drawn its ticket. -/
theorem Way.quits_lt (q : t.Queued) {e : Event} {o : Outcome} (w : Way t e o u) {n : Nat}
    (quits : quits? e o = some n) : n < t.nextTicket := by
  cases w with
  | refuse h =>
    rw [quits?_of_refuses e h] at quits
    cases quits
  | aside => cases e <;> cases quits
  | callOff c hc | leave c hc | lapse c g hc | keep c g slot hc | giveBack c g slot hc =>
    rw [← Option.some.inj quits]
    exact q.ticket_lt c hc
  | _ => cases quits

/-- A call that blocks draws the next ticket, and it is nobody else who gives up. -/
theorem Way.blocked {e : Event} {o : Outcome} (w : Way t e o u) {v : Waiter}
    (blocks : blocked? e o = some v) : v.ticket = t.nextTicket ∧ quits? e o = none := by
  cases w with
  | refuse h =>
    rw [blocked?_of_refuses e h] at blocks
    cases blocks
  | aside => cases e <;> cases blocks
  | block =>
    rw [← Option.some.inj blocks]
    exact ⟨rfl, rfl⟩
  | _ => cases blocks

/-- A grant lies ready only for calls there are, and their tickets were drawn. -/
theorem Queued.served_lt (q : t.Queued) {n : Nat} (served : t.served n = true) :
    n < t.nextTicket := by
  obtain ⟨c, hc, mine⟩ := List.any_eq_true.1 served
  rw [← show c.ticket = n by simp_all]
  exact q.ticket_lt c hc

end Table

namespace Moment

variable {m : Moment}

/-- The wait list after a moment, told by the moment: whoever was dismissed is out, and whoever
blocked stands last. -/
theorem waitList_after (s : m.table.Sound) :
    m.after.waitList = (m.table.waitList.filter fun v => !m.dismisses v.ticket)
      ++ m.blocked?.toList :=
  (m.way s).waitList s

/-- Who is dismissed has drawn a ticket, so no later call is taken for him. -/
theorem dismisses_lt (s : m.table.Sound) {n : Nat} (h : m.dismisses n = true) :
    n < m.after.nextTicket := by
  rcases Bool.or_eq_true_iff.1 h with served | quits
  · exact (s.way (m.way s)).served_lt served
  · exact Nat.lt_of_lt_of_le ((m.way s).quits_lt s.toQueued (beq_iff_eq.1 quits))
      (m.way s).nextTicket_le

/-- Nobody is dismissed while blocking. -/
theorem not_dismisses_of_blocked (s : m.table.Sound) {v : Waiter} (h : m.blocked? = some v) :
    m.dismisses v.ticket = false := by
  have joined : v ∈ m.after.waitList := by
    rw [waitList_after s, h]
    exact List.mem_append_right _ (List.mem_singleton.2 rfl)
  rw [dismisses, (s.way (m.way s)).served_of_mem joined, ((m.way s).blocked h).2]
  rfl

end Moment

namespace Table

variable {t u : Table} {kind : LockKind} {leased : Bool} {reaper : Reaper} {horizon : Horizon}

/-! ## The line of a run -/

/-- The calls that wait are those that blocked and were not dismissed; and whoever was
dismissed had drawn a ticket. -/
theorem waitList_run (es : List Event) :
    ((opening kind leased reaper horizon).run es).waitList
        = (((opening kind leased reaper horizon).history es).filterMap Moment.blocked?).filter
          (fun w => !dismissed ((opening kind leased reaper horizon).history es) w.ticket)
      ∧ ∀ n, dismissed ((opening kind leased reaper horizon).history es) n = true →
        n < ((opening kind leased reaper horizon).run es).nextTicket := by
  refine opening_induction kind leased reaper horizon
    (P := fun ms t => t.waitList
        = (ms.filterMap Moment.blocked?).filter (fun w => !dismissed ms w.ticket)
      ∧ ∀ n, dismissed ms n = true → n < t.nextTicket)
    ⟨rfl, fun n h => by cases h⟩ (fun ms m s ih => ?_) es
  obtain ⟨same, bound⟩ := ih
  constructor
  · rw [Moment.waitList_after s, same, List.filterMap_append, List.filter_append,
      List.filter_filter]
    refine congrArg₂ (· ++ ·) (List.filter_congr fun w _ => ?_) ?_
    · rw [dismissed_concat, Bool.not_or, Bool.and_comm]
    · cases blocks : m.blocked? with
      | none => simp [blocks]
      | some v =>
        -- Its ticket is new, so no earlier dismissal was meant for it.
        have fresh : dismissed ms v.ticket = false := by
          rw [((m.way s).blocked blocks).1, ← Bool.not_eq_true]
          exact fun h => Nat.lt_irrefl _ (bound _ h)
        have stays := Moment.not_dismisses_of_blocked s blocks
        simp [blocks, dismissed_concat, fresh, stays]
  · intro n h
    rw [dismissed_concat, Bool.or_eq_true_iff] at h
    rcases h with earlier | now
    · exact Nat.lt_of_lt_of_le (bound n earlier) (m.way s).nextTicket_le
    · exact Moment.dismisses_lt s now

/-- **The queue of a key is its line**, in every table that a run leads to: its part of the list of
all that wait, which is followed through the run as a whole. -/
theorem queue_run (es : List Event) (key : String) :
    ((opening kind leased reaper horizon).run es).queue key
      = line ((opening kind leased reaper horizon).history es) key := by
  have s : ((opening kind leased reaper horizon).run es).Sound := sound_run es
  rw [s.queue_eq, (waitList_run es).1]
  rfl

/-! ## The first in line -/

/-- A key went to the first in its queue, and that call alone was granted something. -/
structure HandedTo (t u : Table) (key : String) (w : Waiter) (rest : List Waiter) : Prop where
  holder : u.holder? key = some (t.newHolder w.request)
  queue : u.queue key = rest
  ready : ∃ c, t.call? w.ticket = some c ∧ c.permit = none
    ∧ u.call? w.ticket = some { c with permit := some (t.newHolder w.request).toGrant }
  calls : ∀ n, n ≠ w.ticket → ∀ c, u.call? n = some c → t.call? n = some c
  keys : ∀ k, k ≠ key → u.holder? k = t.holder? k

/-- Passing a key on does that. A call that departs with its grant is forgotten first, and
a record that fell due is taken out first, which is why the table is another one. -/
theorem handedTo_handOn (q : t.Queued) {t' : Table} (q' : t'.Queued) (slots : t'.slots = t.slots)
    (fewer : ∀ c ∈ t'.calls, c ∈ t.calls) (holder : t'.newHolder = t.newHolder) {key : String}
    {w : Waiter} {rest : List Waiter} (first : t.queue key = w :: rest) :
    HandedTo t (t'.handOn key (t.queue key)).2 key w rest := by
  -- Slots are the same, so the queue is; and a call that is still there was there before.
  have queue : t'.queue key = t.queue key := by rw [Table.queue, Table.queue, slots]
  have after : (t'.handOn key (w :: rest)).2.Queued := by
    rw [← first, ← queue]
    exact q'.handOn key
  rw [first]
  refine ⟨?_, ?_, ?_, fun n other c found => ?_, fun k other => ?_⟩
  · rw [holder?_handOn, if_pos rfl, ← holder]
    rfl
  · rw [queue_handOn, if_pos rfl]
    rfl
  · obtain ⟨c, hc, bare, rfl, -⟩ := q'.exists_call_of_mem (queue.trans first ▸ List.mem_cons_self)
    refine ⟨c, q.call?_eq_some_iff.2 ⟨fewer c hc, rfl⟩, bare, ?_⟩
    refine after.call?_eq_some_iff.2 ⟨List.mem_map.2 ⟨c, hc, ?_⟩, rfl⟩
    rw [if_pos (show c.ticket = c.toWaiter.ticket from rfl), ← holder]
  · obtain ⟨hc, rfl⟩ := after.call?_eq_some_iff.1 found
    rw [handOn_cons] at hc
    obtain ⟨d, hd, rfl⟩ := List.mem_map.1 hc
    by_cases mine : d.ticket = w.ticket
    · rw [if_pos mine] at other
      exact absurd mine other
    · rw [if_neg mine]
      exact q.call?_eq_some_iff.2 ⟨fewer d hd, rfl⟩
  · rw [holder?_handOn, if_neg other, holder?, holder?, slots]

/-- When a grant ends while others wait, the first of them has the key at once, with a grant in his
channel that he has not looked at yet. The four endings share this, since each of them passes the
key on by the same helper. -/
theorem Ending.handedTo (s : t.Sound) {e : Event} {o : Outcome} {key : String} {h : Holder}
    (ending : Ending t key h e o u) {w : Waiter} {rest : List Waiter}
    (first : t.queue key = w :: rest) : HandedTo t u key w rest := by
  have q := s.toQueued
  cases ending with
  | released | revoked => exact handedTo_handOn q q rfl (fun _ hc => hc) rfl first
  | returned c g hc ready =>
    exact handedTo_handOn q (q.forget hc ready) rfl (fun _ hd => (List.mem_filter.1 hd).1) rfl
      first
  | expired => exact handedTo_handOn q s.drain.toQueued rfl (fun _ hc => hc) rfl first

/-- A claim succeeds only where nobody waits. -/
theorem queue_of_claim (q : t.Queued) {e : Event} {r : Request}
    (asks : e = .tryAcquire r ∨ ∃ token, e = .acquire token r) {g : Grant}
    (granted : (t.step e).1 = .admission (.granted g) ∨ (t.step e).1 = .acquisition (.granted g)) :
    t.queue r.key = [] := by
  have w := step_way q e
  -- Of all ways of a step only a claim answers so, and a claim finds no slot.
  generalize (t.step e).1 = o at w granted
  generalize (t.step e).2 = u at w
  cases w with
  | refuse h => rcases granted with rfl | rfl <;> cases h
  | tryClaim r' free =>
    rcases asks with same | ⟨token, same⟩ <;> cases same
    exact queue_of_no_slot free
  | claim token r' free =>
    rcases asks with same | ⟨token', same⟩ <;> cases same
    exact queue_of_no_slot free
  | _ => rcases granted with same | same <;> cases same

/-- **Whatever ends a grant serves the first in the queue.** -/
theorem Closing.handedTo (s : t.Sound) {e : Event} {key : String} {h : Holder}
    (closing : t.Closing key h e) (held : t.holder? key = some h) {w : Waiter}
    {rest : List Waiter} (first : t.queue key = w :: rest) :
    HandedTo t (t.step e).2 key w rest
      ∧ t.grantEvents e (t.step e).1 = [.ended key h.grant, .installed key (t.lastGrant + 1)] := by
  have way := step_way s.toQueued e
  obtain ⟨h', -, -, ending⟩ := way.ending s.toQueued (closing.told held)
  have handed := ending.handedTo s first
  refine ⟨handed, ?_⟩
  have gone := (s.closing_iff_gone held).1 closing
  -- The key was not freed, as there is a holder, so the next grant was told of.
  rcases (way.turn s).of_gone (grant?_of_holder held) gone with ⟨freed, -⟩ | ⟨-, events⟩
  · rw [grant?_of_holder handed.holder] at freed
    cases freed
  · exact events

/-- **First come, first served.** In every run the queue of a key is the line of the calls
that blocked on it and were not yet handed the key, dropped or called off. The grant of a holder
ends exactly if the last hold is given back, the key is taken away, the deadline is looked after,
or the call that was handed it departs with the last hold; that is told in the answer, and the
grant is gone after the step. If somebody is in line then, the first in line has the key, alone,
in that same step. And while somebody is in line, nobody gets a new grant by asking for the key. -/
theorem first_come_first_served (kind : LockKind) (leased : Bool) (reaper : Reaper)
    (horizon : Horizon) (es : List Event) (key : String) :
    let t := (opening kind leased reaper horizon).run es
    let ms := (opening kind leased reaper horizon).history es
    t.queue key = line ms key
      ∧ (∀ e h, t.holder? key = some h →
          (t.Closing key h e ↔ .ended key h.grant ∈ t.grantEvents e (t.step e).1)
            ∧ (t.Closing key h e ↔ (t.step e).2.grant? key ≠ some h.grant)
            ∧ (t.Closing key h e → ∀ w rest, line ms key = w :: rest →
              HandedTo t (t.step e).2 key w rest
                ∧ t.grantEvents e (t.step e).1
                  = [.ended key h.grant, .installed key (t.lastGrant + 1)]))
      ∧ (∀ e g, .ended key g ∈ t.grantEvents e (t.step e).1 → t.grant? key = some g)
      ∧ (line ms key ≠ [] → ∀ r g, r.key = key →
          (t.tryAcquire r).1 ≠ .granted g ∧ ∀ token, (t.acquire token r).1 ≠ .granted g) := by
  intro t ms
  have s : t.Sound := sound_run es
  have queue : t.queue key = line ms key := queue_run es key
  refine ⟨queue, ?_, ?_, ?_⟩
  · intro e h held
    refine ⟨closing_iff_ended s.toQueued held, s.closing_iff_gone held, ?_⟩
    intro closing w rest first
    exact closing.handedTo s held (queue.trans first)
  · intro e g ends
    -- Whatever ended did so in one of the four ways, each of which names its holder.
    obtain ⟨h, held, rfl, -⟩ := (step_way s.toQueued e).ending s.toQueued ends
    exact grant?_of_holder held
  · intro busy r g here
    -- A new grant is made on arrival only if the key is free, and a free key has no queue.
    rw [← queue, ← here] at busy
    constructor
    · intro granted
      refine busy (queue_of_claim s.toQueued (.inl rfl) (g := g) (.inl ?_))
      exact congrArg Outcome.admission granted
    · intro token granted
      refine busy (queue_of_claim s.toQueued (.inr ⟨token, rfl⟩) (g := g) (.inr ?_))
      exact congrArg Outcome.acquisition granted

end Table

end KeyedLocks
