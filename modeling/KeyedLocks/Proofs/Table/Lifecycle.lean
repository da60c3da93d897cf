/-
How a key changes hands.

Two things happen to a grant: it is installed on a key, and it ends. `grantEvents`
reads both off what a step answers, and `log` collects them over a run. What they come
to for the tables is `Turn`: in one step nothing changes hands, or a free key is
claimed, or a grant ends and the key becomes free, or a grant ends and the next one is
installed at once. The numbers of new grants are always the next ones. What makes a
grant end is said without the answers (`Closing`): there are four causes, and a grant ends
exactly by one of them.

The law about runs reads the log. Key by key, installations and ends take turns, each
end naming the grant that was installed last, and the grant that has not ended is the
one the holder has (`Lifecycle`); over all keys the numbers of the installed grants grow.
-/
import KeyedLocks.Proofs.Table.Run

set_option autoImplicit false

namespace KeyedLocks

/-! ## Events of grants -/

/-- What happens to a grant on a key. -/
inductive GrantEvent where
  | installed (key : String) (grant : Nat)
  | ended (key : String) (grant : Nat)
  deriving DecidableEq, Repr

namespace GrantEvent

/-- The key. -/
def key : GrantEvent → String
  | installed key _ => key
  | ended key _ => key

/-- The number of a grant that is installed. -/
def new? : GrantEvent → Option Nat
  | installed _ grant => some grant
  | ended _ _ => none

/-- A grant ends and the key goes on to the next one, if there is one. -/
def passing (key : String) (grant : Nat) (next : Option Grant) : List GrantEvent :=
  ended key grant :: next.toList.map fun g => installed key g.id

/-- The events on one key. -/
def about (key : String) (log : List GrantEvent) : List GrantEvent :=
  log.filter fun e => e.key = key

/-- The numbers of the grants that were installed, in that order. -/
def news (log : List GrantEvent) : List Nat := log.filterMap new?

end GrantEvent

open GrantEvent

namespace Table

/-- What happens to grants when a table answers an event. -/
def grantEvents (t : Table) (e : Event) (o : Outcome) : List GrantEvent :=
  match e, o with
  | .tryAcquire r, .admission (.granted g) => [installed r.key g.id]
  | .acquire _ r, .acquisition (.granted g) => [installed r.key g.id]
  | .release r, .release (.released grant next) => passing r.key grant next
  | .revoke key grant, .revocation (some v) => passing key grant v.next
  | .reap, .reaped (.revoked record v) => passing record.key record.grant v.next
  | .depart ticket, .departure (.gaveBack (.returned grant next)) =>
    match t.call? ticket with
    | some c => passing c.request.key grant next
    | none => []
  | _, _ => []

end Table

/-- What happens to grants at a moment. -/
def Moment.grantEvents (m : Moment) : List GrantEvent := m.table.grantEvents m.event m.outcome

/-- What happened to grants, from the first moment to the last. -/
def grantLog (ms : List Moment) : List GrantEvent := ms.flatMap Moment.grantEvents

theorem grantLog_concat (ms : List Moment) (m : Moment) :
    grantLog (ms ++ [m]) = grantLog ms ++ m.grantEvents := by
  simp [grantLog]

theorem GrantEvent.about_append (key : String) (l l' : List GrantEvent) :
    about key (l ++ l') = about key l ++ about key l' :=
  List.filter_append ..

theorem GrantEvent.news_append (l l' : List GrantEvent) : news (l ++ l') = news l ++ news l' :=
  List.filterMap_append ..

/-! ## What one step comes to -/

namespace Table

/-- How keys change hands from one table to the next, and which events tell it. -/
inductive Turn (t u : Table) : List GrantEvent → Prop
  | quiet (now : ∀ k, u.grant? k = t.grant? k) (last : u.lastGrant = t.lastGrant) : Turn t u []
  | claim (key : String) (free : t.grant? key = none)
      (now : ∀ k, u.grant? k = if k = key then some (t.lastGrant + 1) else t.grant? k)
      (last : u.lastGrant = t.lastGrant + 1) : Turn t u [installed key (t.lastGrant + 1)]
  | free (key : String) (g : Nat) (held : t.grant? key = some g)
      (now : ∀ k, u.grant? k = if k = key then none else t.grant? k)
      (last : u.lastGrant = t.lastGrant) : Turn t u [ended key g]
  | pass (key : String) (g : Nat) (held : t.grant? key = some g)
      (now : ∀ k, u.grant? k = if k = key then some (t.lastGrant + 1) else t.grant? k)
      (last : u.lastGrant = t.lastGrant + 1) :
      Turn t u [ended key g, installed key (t.lastGrant + 1)]

variable {t u : Table}

/-- Where all holders are those who were there before, no key has changed hands. -/
theorem turn_of_holders (now : ∀ k, u.holder? k = t.holder? k)
    (last : u.lastGrant = t.lastGrant) : Turn t u [] :=
  .quiet (fun k => by rw [grant?, now, grant?]) last

/-- A key that was free is claimed under the next number. -/
theorem turn_install {r : Request} (free : t.slots.get? r.key = none) (ws : List Waiter) :
    Turn t (t.install r.key r ws).2 [installed r.key (t.lastGrant + 1)] := by
  refine .claim r.key ?_ (fun k => ?_) rfl
  · rw [grant?, holder?_of_no_slot free]
    rfl
  · rw [grant?, holder?_install]
    split <;> rfl

/-- Counting holds leaves every grant where it is. The slot is found in a table with the
same slots, as a call may have been forgotten in between. -/
theorem turn_setHolds {key : String} {s : Slot} (held : t.slots.get? key = some s)
    (slots : u.slots = t.slots) (last : u.lastGrant = t.lastGrant) (holds : UInt32) :
    Turn t (u.setHolds key s holds) [] := by
  refine .quiet (fun k => ?_) last
  rw [grant?, holder?_setHolds]
  split
  · next same => rw [same, grant?_of_holder (holder?_of_slot held)]; rfl
  · rw [grant?, holder?, holder?, slots]

/-- **Passing a key on** ends one grant and installs the next in the same step. -/
theorem turn_handOn {key : String} {s : Slot} (held : t.slots.get? key = some s)
    (slots : u.slots = t.slots) (last : u.lastGrant = t.lastGrant) :
    Turn t (u.handOn key s.waiters).2
      (passing key s.holder.grant (u.handOn key s.waiters).1) := by
  have mine : t.grant? key = some s.holder.grant := grant?_of_holder (holder?_of_slot held)
  have others : ∀ k, u.grant? k = t.grant? k := fun k => by
    rw [grant?, grant?, holder?, holder?, slots]
  have now : ∀ k, (u.handOn key s.waiters).2.grant? k
      = if k = key then s.waiters.head?.map fun _ => t.lastGrant + 1 else t.grant? k := by
    intro k
    rw [grant?, holder?_handOn, ← others k]
    split
    · rw [← last]
      cases s.waiters <;> rfl
    · rfl
  -- The key is freed if nobody waits, and else the first in the queue has the next number.
  cases waiting : s.waiters with
  | nil =>
    rw [waiting] at now
    exact .free key _ mine now last
  | cons w ws =>
    rw [waiting] at now
    have number : (u.newHolder w.request).grant = t.lastGrant + 1 := congrArg (· + 1) last
    rw [handOn_cons] at now ⊢
    have events : passing key s.holder.grant (some (u.newHolder w.request).toGrant)
        = [ended key s.holder.grant, installed key (t.lastGrant + 1)] := by
      rw [← number]
      rfl
    dsimp only
    rw [events]
    exact .pass key _ mine now (congrArg (· + 1) last)

theorem grantEvents_of_refuses (e : Event) {o : Outcome} (h : o.refuses = true) :
    t.grantEvents e o = [] := by
  unfold grantEvents
  split <;> first | cases h | rfl

/-- **What a step does to grants** is what its events tell. -/
theorem Way.turn (s : t.Sound) {e : Event} {o : Outcome} (w : Way t e o u) :
    Turn t u (t.grantEvents e o) := by
  cases w with
  | refuse h =>
    rw [grantEvents_of_refuses e h]
    exact .quiet (fun _ => rfl) rfl
  | aside same =>
    have none : t.grantEvents e .done = [] := by cases e <;> rfl
    rw [none]
    refine turn_of_holders (fun k => ?_) same.lastGrant
    rw [holder?, holder?, same.slots]
  | tryClaim r free | claim token r free => exact turn_install free []
  | tryReenter r slot held | reenter token r slot held | retain r slot held =>
    exact turn_setHolds held rfl rfl _
  | block token r slot held =>
    obtain ⟨slots, eq⟩ := t.enqueue_eq token r
    exact turn_of_holders (t.holder?_enqueue token r) (by rw [eq])
  | decline | fetch | lapse | discard => exact .quiet (fun _ => rfl) rfl
  | callOff c | leave c =>
    obtain ⟨slots, eq⟩ := t.withdraw_eq c
    exact turn_of_holders (t.holder?_withdraw c) (by rw [eq])
  | keep c g slot hc ready held =>
    -- The call is forgotten first, which changes no slot.
    exact turn_setHolds (u := t.forget c.ticket) held rfl rfl _
  | giveBack c g slot hc ready held mine =>
    have found : t.call? c.ticket = some c := s.call?_eq_some_iff.2 ⟨hc, rfl⟩
    rw [grantEvents, found, ← mine]
    exact turn_handOn held rfl rfl
  | release r slot held | revoke key slot held => exact turn_handOn held rfl rfl
  | expire record slot _ _ _ held mine =>
    rw [grantEvents, ← mine]
    exact turn_handOn held rfl rfl

/-! ## How a grant ends -/

/-- The four ways in which the grant of a holder ends. In all of them the key is passed
on to its queue. -/
inductive Ending (t : Table) (key : String) (h : Holder) : Event → Outcome → Table → Prop
  | released (r : Request) (here : r.key = key) (own : h.request.sameOwner r = true)
      (last : ¬ (t.reentrant = true ∧ 1 < h.holds)) :
      Ending t key h (.release r)
        (.release (.released h.grant (t.handOn key (t.queue key)).1))
        (t.handOn key (t.queue key)).2
  | returned (c : Call) (g : Grant) (hc : c ∈ t.calls) (ready : c.permit = some g)
      (here : c.request.key = key) (mine : h.grant = g.id) (last : ¬ 1 < h.holds) :
      Ending t key h (.depart c.ticket)
        (.departure (.gaveBack (.returned g.id ((t.forget c.ticket).handOn key (t.queue key)).1)))
        ((t.forget c.ticket).handOn key (t.queue key)).2
  | revoked :
      Ending t key h (.revoke key h.grant)
        (.revocation (some ⟨h.request.owner, (t.handOn key (t.queue key)).1⟩))
        (t.handOn key (t.queue key)).2
  | expired (record : DelayRecord) (running : t.reaper = .running)
      (first : t.delays.records.head? = some record) (due : record.deadline ≤ t.now)
      (here : record.key = key) (mine : h.grant = record.grant) :
      Ending t key h .reap
        (.reaped (.revoked record
          ⟨h.request.owner, ({ t with delays := t.delays.tail }.handOn key (t.queue key)).1⟩))
        ({ t with delays := t.delays.tail }.handOn key (t.queue key)).2

/-- Passing a key on tells of one end only, that of the grant which was there. -/
theorem mem_passing {key key' : String} {g g' : Nat} {next : Option Grant}
    (h : ended key g ∈ passing key' g' next) : key' = key ∧ g' = g := by
  rcases List.mem_cons.1 h with same | later
  · cases same
    exact ⟨rfl, rfl⟩
  · obtain ⟨n, -, eq⟩ := List.mem_map.1 later
    cases eq

/-- **A grant ends in no other way**, and it is the holder's. -/
theorem Way.ending (q : t.Queued) {e : Event} {o : Outcome} (w : Way t e o u) {key : String}
    {g : Nat} (ends : ended key g ∈ t.grantEvents e o) :
    ∃ h, t.holder? key = some h ∧ h.grant = g ∧ Ending t key h e o u := by
  -- Whatever way does not pass a key on tells of no end.
  cases w with
  | refuse h =>
    rw [grantEvents_of_refuses e h] at ends
    cases ends
  | aside => cases e <;> cases ends
  | tryClaim | claim => cases List.mem_singleton.1 ends
  | tryReenter | reenter | block | decline | fetch | callOff | leave | lapse | keep | retain
  | discard => cases ends
  | giveBack c g' slot hc ready held mine last =>
    rw [grantEvents, q.call?_eq_some_iff.2 ⟨hc, rfl⟩] at ends
    obtain ⟨rfl, rfl⟩ := mem_passing ends
    rw [← queue_of_slot held]
    exact ⟨_, holder?_of_slot held, mine, .returned c g' hc ready rfl mine last⟩
  | release r slot held own last =>
    obtain ⟨rfl, rfl⟩ := mem_passing ends
    rw [← queue_of_slot held]
    exact ⟨_, holder?_of_slot held, rfl, .released r rfl own last⟩
  | revoke key' slot held =>
    obtain ⟨rfl, rfl⟩ := mem_passing ends
    rw [← queue_of_slot held]
    exact ⟨_, holder?_of_slot held, rfl, .revoked⟩
  | expire record slot running first due held mine =>
    obtain ⟨rfl, rfl⟩ := mem_passing ends
    rw [← queue_of_slot held]
    exact ⟨_, holder?_of_slot held, mine, .expired record running first due rfl mine⟩

/-- **What ends the grant of a holder**, told by the table and the event alone, whatever comes of
it: the owner gives the key back and has no other hold, the grant is taken away, its record is the
first one and is due, or the call that the grant was handed to departs and its hold is the last. -/
inductive Closing (t : Table) (key : String) (h : Holder) : Event → Prop
  | release (r : Request) (here : r.key = key) (own : h.request.sameOwner r = true)
      (last : ¬ (t.reentrant = true ∧ 1 < h.holds)) : Closing t key h (.release r)
  | revoke : Closing t key h (.revoke key h.grant)
  | expire (record : DelayRecord) (running : t.reaper = .running)
      (first : t.delays.records.head? = some record) (due : record.deadline ≤ t.now)
      (here : record.key = key) (mine : record.grant = h.grant) : Closing t key h .reap
  | depart (c : Call) (g : Grant) (found : t.call? c.ticket = some c) (ready : c.permit = some g)
      (here : c.request.key = key) (mine : g.id = h.grant) (last : ¬ 1 < h.holds) :
      Closing t key h (.depart c.ticket)

/-- Each way of ending had its cause before the step. The converse is `Closing.told`. -/
theorem Ending.closing (q : t.Queued) {e : Event} {o : Outcome} {key : String} {h : Holder}
    (ending : Ending t key h e o u) : t.Closing key h e := by
  cases ending with
  | released r here own last => exact .release r here own last
  | returned c g hc ready here mine last =>
    -- `Closing` finds the call by its ticket, as `depart` does.
    exact .depart c g (q.call?_eq_some_iff.2 ⟨hc, rfl⟩) ready here mine.symm last
  | revoked => exact .revoke
  | expired record running first due here mine =>
    exact .expire record running first due here mine.symm

/-- Whatever ends a grant is told of in the answer. -/
theorem Closing.told {e : Event} {key : String} {h : Holder} (closing : t.Closing key h e)
    (held : t.holder? key = some h) : ended key h.grant ∈ t.grantEvents e (t.step e).1 := by
  have slot := slot_of_holder held
  cases closing with
  | release r here own last =>
    subst here
    have none_left : (t.reentrant && 1 < h.holds) = false := by
      rw [← Bool.not_eq_true, Bool.and_eq_true, decide_eq_true_eq]
      exact last
    rw [step, release_of_last slot own none_left]
    exact List.mem_cons_self
  | revoke =>
    -- The grant that is named is the holder's, so it is not too late.
    rw [step, revoke_of_holder slot rfl]
    exact List.mem_cons_self
  | expire record running first due here mine =>
    subst here
    have popped := DelayQueue.popDue_eq_some_iff.2 ⟨first, due, rfl⟩
    have taken := revoke_of_holder (t := { t with delays := t.delays.tail }) slot mine.symm
    rw [step, reap_of_popped running popped, taken, ← mine]
    exact List.mem_cons_self
  | depart c g found ready here mine last =>
    subst here
    -- The call is forgotten first, and the key still has its slot then.
    have back := giveBack_of_last (t := t.forget c.ticket) slot mine.symm last
    rw [step, depart_of_permit found ready, back, ← mine]
    change ended _ _ ∈ t.grantEvents (.depart c.ticket) (.departure (.gaveBack (.returned _ _)))
    rw [grantEvents, found]
    exact List.mem_cons_self

/-- **A grant ends exactly if one of its four ends has come**, and the answer tells it. -/
theorem closing_iff_ended (q : t.Queued) {e : Event} {key : String} {h : Holder}
    (held : t.holder? key = some h) :
    t.Closing key h e ↔ ended key h.grant ∈ t.grantEvents e (t.step e).1 := by
  constructor
  · intro closing
    exact closing.told held
  · intro ends
    obtain ⟨h', held', -, ending⟩ := (step_way q e).ending q ends
    obtain rfl := Option.some.inj (held.symm.trans held')
    exact ending.closing q

/-- A grant that is gone has ended, and if the key is held now the next grant took its
place. -/
theorem Turn.of_gone {log : List GrantEvent} (turn : Turn t u log) {key : String} {g : Nat}
    (held : t.grant? key = some g) (gone : u.grant? key ≠ some g) :
    u.grant? key = none ∧ log = [ended key g]
      ∨ u.grant? key = some (t.lastGrant + 1)
        ∧ log = [ended key g, installed key (t.lastGrant + 1)] := by
  -- On every other key nothing changed.
  have here : ∀ {k : String} {next : Option Nat},
      (∀ k', u.grant? k' = if k' = k then next else t.grant? k') → key = k := by
    intro k next now
    by_contra other
    rw [now, if_neg other] at gone
    exact gone held
  cases turn with
  | quiet now => exact absurd ((now key).trans held) gone
  | claim k free now =>
    rw [← here now, held] at free
    cases free
  | free k g' held' now =>
    obtain rfl := here now
    obtain rfl := Option.some.inj (held.symm.trans held')
    exact .inl ⟨by rw [now, if_pos rfl], rfl⟩
  | pass k g' held' now =>
    obtain rfl := here now
    obtain rfl := Option.some.inj (held.symm.trans held')
    exact .inr ⟨by rw [now, if_pos rfl], rfl⟩

/-- A grant that is not there after the step has ended in it. -/
theorem Turn.ended_of_gone {log : List GrantEvent} (turn : Turn t u log) {key : String}
    {g : Nat} (held : t.grant? key = some g) (gone : u.grant? key ≠ some g) :
    ended key g ∈ log := by
  rcases turn.of_gone held gone with ⟨-, rfl⟩ | ⟨-, rfl⟩ <;> exact List.mem_cons_self

end Table

/-! ## What a whole run comes to -/

/-- Events on one key that lead from one standing grant to another: a free key gets a
grant, and the grant that stands is the one that ends. -/
inductive Lifecycle : Option Nat → List GrantEvent → Option Nat → Prop
  | done (g : Option Nat) : Lifecycle g [] g
  | install {key : String} {g : Nat} {log : List GrantEvent} {last : Option Nat}
      (rest : Lifecycle (some g) log last) : Lifecycle none (installed key g :: log) last
  | finish {key : String} {g : Nat} {log : List GrantEvent} {last : Option Nat}
      (rest : Lifecycle none log last) : Lifecycle (some g) (ended key g :: log) last

/-- Two stretches of a log make one, if the second begins with the grant that the first leaves. -/
theorem Lifecycle.append {g g' g'' : Option Nat} {log log' : List GrantEvent}
    (first : Lifecycle g log g') (second : Lifecycle g' log' g'') :
    Lifecycle g (log ++ log') g'' := by
  induction first with
  | done => exact second
  | install _ ih => exact .install (ih second)
  | finish _ ih => exact .finish (ih second)

namespace Table

variable {t u : Table}

/-- A step is about one key, and leads it from the grant before to the grant after. -/
theorem Turn.one_key {log : List GrantEvent} (turn : Turn t u log) :
    ∃ k, (∀ e ∈ log, e.key = k) ∧ (∀ k', k' ≠ k → u.grant? k' = t.grant? k')
      ∧ Lifecycle (t.grant? k) log (u.grant? k) := by
  cases turn with
  | quiet now =>
    -- It is about none, so any key will do.
    refine ⟨"", fun e he => absurd he List.not_mem_nil, fun k' _ => now k', ?_⟩
    rw [now]
    exact .done _
  | claim k free now =>
    refine ⟨k, fun e he => ?_, fun k' other => ?_, ?_⟩
    · rw [List.mem_singleton.1 he]
      rfl
    · rw [now, if_neg other]
    · rw [free, now, if_pos rfl]
      exact .install (.done _)
  | free k g held now =>
    refine ⟨k, fun e he => ?_, fun k' other => ?_, ?_⟩
    · rw [List.mem_singleton.1 he]
      rfl
    · rw [now, if_neg other]
    · rw [held, now, if_pos rfl]
      exact .finish (.done _)
  | pass k g held now =>
    refine ⟨k, fun e he => ?_, fun k' other => ?_, ?_⟩
    · rcases List.mem_cons.1 he with rfl | he
      · rfl
      · rw [List.mem_singleton.1 he]
        rfl
    · rw [now, if_neg other]
    · rw [held, now, if_pos rfl]
      exact .finish (.install (.done _))

/-- A step leads every key from the grant before it to the grant after it. -/
theorem Turn.lifecycle {log : List GrantEvent} (turn : Turn t u log) (key : String) :
    Lifecycle (t.grant? key) (about key log) (u.grant? key) := by
  obtain ⟨k, mine, others, path⟩ := turn.one_key
  by_cases here : key = k
  · have all : about key log = log := by
      refine List.filter_eq_self.2 fun e he => ?_
      rw [mine e he, here]
      exact decide_eq_true rfl
    rw [all, here]
    exact path
  -- All events are about the other key, so for this one the log is empty.
  · have none : about key log = [] := by
      refine List.filter_eq_nil_iff.2 fun e he same => ?_
      rw [mine e he] at same
      exact here (of_decide_eq_true same).symm
    rw [none, others key here]
    exact .done _

/-- The numbers that a step gives out lie between the last one before it and the last
one after it, in order. -/
theorem Turn.news {log : List GrantEvent} (turn : Turn t u log) :
    (news log).Pairwise (· < ·) ∧ (∀ g ∈ news log, t.lastGrant < g ∧ g ≤ u.lastGrant)
      ∧ t.lastGrant ≤ u.lastGrant := by
  cases turn with
  | quiet now last => exact ⟨.nil, by simp [GrantEvent.news], Nat.le_of_eq last.symm⟩
  | claim k free now last => simp [GrantEvent.news, new?, last]
  | free k g held now last =>
    -- An end alone gives no number out.
    rw [show GrantEvent.news [ended k g] = [] from rfl, last]
    exact ⟨.nil, by simp, Nat.le_refl _⟩
  | pass k g held now last =>
    rw [show GrantEvent.news [ended k g, installed k (t.lastGrant + 1)] = [t.lastGrant + 1] from
      rfl, last]
    exact ⟨List.pairwise_singleton .., by simp, Nat.le_succ _⟩

/-- Whoever has a grant after a step had it before, or it is a new one. -/
theorem Turn.older_or_new {log : List GrantEvent} (turn : Turn t u log) {key : String} {g : Nat}
    (held : u.grant? key = some g) : t.grant? key = some g ∨ g = t.lastGrant + 1 := by
  cases turn with
  | quiet now =>
    rw [now] at held
    exact .inl held
  | claim k _ now | pass k _ _ now =>
    rw [now] at held
    -- Only the key that changes hands can have another grant than before.
    split at held
    · exact .inr (Option.some.inj held).symm
    · exact .inl held
  | free k _ _ now =>
    rw [now] at held
    split at held
    · cases held
    · exact .inl held

/-- A grant that ends leaves its key, and it was on no other. -/
theorem Turn.not_held (n : t.Numbered) {log : List GrantEvent} (turn : Turn t u log)
    {key : String} {g : Nat} (ends : ended key g ∈ log) :
    g ≤ t.lastGrant ∧ ∀ k, u.grant? k ≠ some g := by
  -- The key had the grant before the step and does not have it after it.
  have lost : t.grant? key = some g ∧ u.grant? key ≠ some g := by
    cases turn with
    | quiet => cases ends
    | claim => cases List.mem_singleton.1 ends
    | free k g' held now =>
      cases List.mem_singleton.1 ends
      exact ⟨held, by rw [now, if_pos rfl]; exact Option.some_ne_none g ∘ Eq.symm⟩
    | pass k g' held now =>
      have bound := n.grant?_le held
      rcases List.mem_cons.1 ends with same | same
      · cases same
        refine ⟨held, ?_⟩
        rw [now, if_pos rfl]
        intro same
        have next := Option.some.inj same
        omega
      · cases List.mem_singleton.1 same
  have bound := n.grant?_le lost.1
  refine ⟨bound, fun k held => ?_⟩
  rcases turn.older_or_new held with before | rfl
  · rw [n.grant?_inj before lost.1] at held
    exact lost.2 held
  · exact Nat.not_succ_le_self _ bound

/-- **And then it is gone**, as no step that tells of its end leaves it on its key. -/
theorem Sound.closing_iff_gone (s : t.Sound) {e : Event} {key : String} {h : Holder}
    (held : t.holder? key = some h) :
    t.Closing key h e ↔ (t.step e).2.grant? key ≠ some h.grant := by
  have turn := (step_way s.toQueued e).turn s
  rw [closing_iff_ended s.toQueued held]
  constructor
  · intro ends
    exact (turn.not_held s.toNumbered ends).2 key
  · intro gone
    exact turn.ended_of_gone (grant?_of_holder held) gone

variable {kind : LockKind} {leased : Bool} {reaper : Reaper} {horizon : Horizon}

/-- **On each key, installations and ends take turns**, from the empty table to whatever a run leads
to. -/
theorem lifecycle_of_run (es : List Event) (key : String) :
    Lifecycle none (about key (grantLog ((opening kind leased reaper horizon).history es)))
      (((opening kind leased reaper horizon).run es).grant? key) := by
  refine opening_induction kind leased reaper horizon
    (P := fun ms t => Lifecycle none (about key (grantLog ms)) (t.grant? key))
    (.done none) (fun ms m s ih => ?_) es
  rw [grantLog_concat, about_append]
  exact ih.append ((m.way s).turn s |>.lifecycle key)

/-- Every number in the log was given out, and they were given out in order. -/
theorem news_of_run (es : List Event) :
    (news (grantLog ((opening kind leased reaper horizon).history es))).Pairwise (· < ·)
      ∧ ∀ g ∈ news (grantLog ((opening kind leased reaper horizon).history es)),
        g ≤ ((opening kind leased reaper horizon).run es).lastGrant := by
  refine opening_induction kind leased reaper horizon
    (P := fun ms t => (news (grantLog ms)).Pairwise (· < ·)
      ∧ ∀ g ∈ news (grantLog ms), g ≤ t.lastGrant)
    ⟨.nil, by simp [grantLog, GrantEvent.news]⟩ (fun ms m s ih => ?_) es
  obtain ⟨order, bound⟩ := ih
  obtain ⟨order', between, last⟩ := ((m.way s).turn s).news
  rw [grantLog_concat, news_append]
  refine ⟨List.pairwise_append.2 ⟨order, order', fun g hg g' hg' => ?_⟩, fun g hg => ?_⟩
  -- All older numbers are at most the last one, and all new ones above it.
  · exact Nat.lt_of_le_of_lt (bound g hg) (between g' hg').1
  · rcases List.mem_append.1 hg with older | new
    · exact Nat.le_trans (bound g older) last
    · exact (between g new).2

/-- A grant that has ended is nobody's from then on. -/
theorem gone_of_run (es : List Event) {key : String} {g : Nat}
    (ends : ended key g ∈ grantLog ((opening kind leased reaper horizon).history es)) :
    g ≤ ((opening kind leased reaper horizon).run es).lastGrant
      ∧ ∀ k, ((opening kind leased reaper horizon).run es).grant? k ≠ some g := by
  refine opening_induction kind leased reaper horizon
    (P := fun ms t => ended key g ∈ grantLog ms → g ≤ t.lastGrant ∧ ∀ k, t.grant? k ≠ some g)
    (fun h => by cases h) (fun ms m s ih ends => ?_) es ends
  have turn := (m.way s).turn s
  have last := turn.news.2.2
  rw [grantLog_concat, List.mem_append] at ends
  rcases ends with earlier | now
  · -- What is given out since then has greater numbers.
    obtain ⟨bound, nobody⟩ := ih earlier
    refine ⟨Nat.le_trans bound last, fun k held => ?_⟩
    rcases turn.older_or_new held with before | rfl
    · exact nobody k before
    · exact Nat.not_succ_le_self _ bound
  · obtain ⟨bound, nobody⟩ := turn.not_held s.toNumbered now
    exact ⟨Nat.le_trans bound last, nobody⟩

/-- **A key has one grant at a time.** In every run, the events on a key are an
installation, the end of that grant, an installation, and so on, and the holder has
exactly the grant that was installed last and has not ended. Over all keys together the
numbers of the grants grow in the order of their installation, so none is given
twice. -/
theorem grants_take_turns (kind : LockKind) (leased : Bool) (reaper : Reaper) (horizon : Horizon)
    (es : List Event) :
    let log := grantLog ((opening kind leased reaper horizon).history es)
    (∀ key, Lifecycle none (about key log)
        ((((opening kind leased reaper horizon).run es).holder? key).map Holder.grant))
      ∧ (news log).Pairwise (· < ·) ∧ (news log).Nodup := by
  have order :
      (news (grantLog ((opening kind leased reaper horizon).history es))).Pairwise (· < ·) :=
    (news_of_run es).1
  exact ⟨lifecycle_of_run es, order, order.imp fun h => Nat.ne_of_lt h⟩

end Table

end KeyedLocks
