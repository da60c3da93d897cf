/-
The events that change a count of holds.

A holder who takes his key once more has one hold more under the same grant. There is one
less when he gives one back, and when the call that the grant was handed to departs and gives
back the one it was handed. `holdEvent?` reads off a step which of the three happened and under
which grant, and `holdLog` collects them over a run. How often a grant was taken again, and how
often a hold of it was given back, is then how often it stands in the log.

One step is looked at through the holders that are there after it. A holder is new and has one
hold, or it was there before and the event tells what became of its count (`Counted`). The count
is a word, and so is one more or one less; what they are as numbers depends on the room there is,
and this is not the matter here.
-/
import KeyedLocks.Proofs.Table.Balance

set_option autoImplicit false

namespace KeyedLocks

/-! ## Events of holds -/

/-- What happens to the holds of a grant: the holder has the key once more, gives one hold back,
or a call that departs gives back the one that it was handed. -/
inductive HoldEvent where
  | reentered (grant : Nat)
  | released (grant : Nat)
  | givenUp (grant : Nat)
  deriving DecidableEq, Repr

namespace HoldEvent

/-- The number of the grant. -/
def grant : HoldEvent → Nat
  | reentered g => g
  | released g => g
  | givenUp g => g

/-- Whether there is one hold less. -/
def lowers : HoldEvent → Bool
  | reentered _ => false
  | released _ => true
  | givenUp _ => true

end HoldEvent

/-- What happens to holds when a table answers an event. -/
def Table.holdEvent? (t : Table) (e : Event) (o : Outcome) : Option HoldEvent :=
  match e, o with
  | .tryAcquire _, .admission (.reentered g) => some (.reentered g.id)
  | .acquire _ _, .acquisition (.reentered g) => some (.reentered g.id)
  | .release r, .release (.retained _) => (t.grant? r.key).map .released
  | .release _, .release (.released grant _) => some (.released grant)
  | .depart ticket, .departure (.gaveBack (.kept _)) =>
    ((t.call? ticket).bind Call.permit).map fun g => .givenUp g.id
  | .depart _, .departure (.gaveBack (.returned grant _)) => some (.givenUp grant)
  | _, _ => none

/-- What happens to holds at a moment. -/
def Moment.holdEvent? (m : Moment) : Option HoldEvent := m.table.holdEvent? m.event m.outcome

/-- What happened to holds, from the first moment to the last. -/
def holdLog (ms : List Moment) : List HoldEvent := ms.filterMap Moment.holdEvent?

/-- How often a grant was taken once more. -/
def reentries (ms : List Moment) (g : Nat) : Nat := (holdLog ms).count (.reentered g)

/-- How often the holder gave a hold of a grant back. -/
def releases (ms : List Moment) (g : Nat) : Nat := (holdLog ms).count (.released g)

/-- How often the hold that a call was handed with a grant was given back by its departure. -/
def departures (ms : List Moment) (g : Nat) : Nat := (holdLog ms).count (.givenUp g)

/-! ## The log grows by one moment -/

section Concat

variable (ms : List Moment) (m : Moment)

/-- One more moment adds at most one event to the log. -/
theorem holdLog_concat : holdLog (ms ++ [m]) = holdLog ms ++ m.holdEvent?.toList := by
  rw [holdLog, List.filterMap_append, holdLog]
  cases told : m.holdEvent? <;> simp [told]

theorem count_concat (y : HoldEvent) :
    (holdLog (ms ++ [m])).count y = (holdLog ms).count y + m.holdEvent?.toList.count y := by
  rw [holdLog_concat, List.count_append]

theorem departures_concat (g : Nat) :
    departures (ms ++ [m]) g
      = departures ms g + if m.holdEvent? = some (.givenUp g) then 1 else 0 := by
  rw [departures, count_concat]
  cases told : m.holdEvent? <;> simp [departures, List.count_singleton]

variable {m} {g : Nat}

/-- An event of another grant counts for nothing here. -/
theorem tally_of_apart (apart : ∀ y, m.holdEvent? = some y → y.grant ≠ g) :
    reentries (ms ++ [m]) g = reentries ms g ∧ releases (ms ++ [m]) g = releases ms g
      ∧ departures (ms ++ [m]) g = departures ms g := by
  have none : ∀ y : HoldEvent, y.grant = g → m.holdEvent?.toList.count y = 0 := by
    intro y mine
    rw [List.count_eq_zero, Option.mem_toList]
    intro told
    exact apart y told mine
  rw [reentries, releases, departures, count_concat, count_concat, count_concat, none _ rfl,
    none _ rfl, none _ rfl]
  exact ⟨rfl, rfl, rfl⟩

/-- A re-entry is counted among the re-entries and nowhere else. -/
theorem tally_of_reentered (told : m.holdEvent? = some (.reentered g)) :
    reentries (ms ++ [m]) g = reentries ms g + 1 ∧ releases (ms ++ [m]) g = releases ms g
      ∧ departures (ms ++ [m]) g = departures ms g := by
  simp [reentries, releases, departures, count_concat, told]

/-- Whichever way a hold is given back, there is one more in the log. -/
theorem tally_of_lowers {y : HoldEvent} (told : m.holdEvent? = some y) (lowers : y.lowers = true)
    (mine : y.grant = g) :
    reentries (ms ++ [m]) g = reentries ms g
      ∧ releases (ms ++ [m]) g + departures (ms ++ [m]) g
        = releases ms g + departures ms g + 1 := by
  subst mine
  cases y with
  | reentered => cases lowers
  | released g | givenUp g =>
    simp only [reentries, releases, departures, count_concat, told, HoldEvent.grant]
    simp only [Option.toList_some, List.count_singleton, beq_iff_eq, reduceCtorEq, if_false,
      if_true]
    omega

end Concat

namespace Table

variable {t u : Table} {e : Event} {o : Outcome}

/-! ## What an event does to a holder -/

/-- What became of the count of a holder who was there before. -/
inductive Counted (h : Holder) : Option HoldEvent → Holder → Prop
  | still {x : Option HoldEvent} (apart : ∀ y, x = some y → y.grant ≠ h.grant) : Counted h x h
  | more : Counted h (some (.reentered h.grant)) { h with holds := h.holds + 1 }
  | fewer {y : HoldEvent} (lowers : y.lowers = true) (mine : y.grant = h.grant)
      (several : 1 < h.holds) : Counted h (some y) { h with holds := h.holds - 1 }

/-- A holder after a step is new and has one hold, or it was there before. -/
def Recounted (t : Table) (x : Option HoldEvent) (k : String) (h' : Holder) : Prop :=
  (h'.grant = t.lastGrant + 1 ∧ h'.holds = 1) ∨ ∃ h, t.holder? k = some h ∧ Counted h x h'

section Holders

variable {x : Option HoldEvent} {y : HoldEvent} {key k : String} {h' : Holder} {slot : Slot}

/-- If the holders are those who were there before and nothing is told, no count has changed. -/
theorem recounted_still (holders : ∀ k, u.holder? k = t.holder? k) (quiet : x = none)
    (now : u.holder? k = some h') : Recounted t x k h' := by
  rw [holders] at now
  refine .inr ⟨h', now, .still fun y told => ?_⟩
  rw [quiet] at told
  cases told

/-- Nothing is told of a grant that is made, as its first hold is part of it. -/
theorem recounted_install {r : Request} (quiet : x = none)
    (now : (t.install r.key r []).2.holder? k = some h') : Recounted t x k h' := by
  rw [holder?_install] at now
  split at now
  · rw [← Option.some.inj now]
    exact .inl ⟨rfl, rfl⟩
  · exact recounted_still (fun _ => rfl) quiet now

/-- The event is about the holder whose count is set, and about no other. The slot is found in a
table with the same slots, as a call may have been forgotten in between. -/
theorem Numbered.recounted_setHolds (n : t.Numbered) (t' : Table) (slots : t'.slots = t.slots)
    (held : t.slots.get? key = some slot) {holds : UInt32}
    (counted : Counted slot.holder (some y) { slot.holder with holds })
    (mine : y.grant = slot.holder.grant)
    (now : (t'.setHolds key slot holds).holder? k = some h') : Recounted t (some y) k h' := by
  rw [holder?_setHolds] at now
  split at now
  · next here =>
    rw [← Option.some.inj now, here]
    exact .inr ⟨_, holder?_of_slot held, counted⟩
  · next other =>
    rw [holder?, slots] at now
    refine .inr ⟨h', now, .still fun z told => ?_⟩
    -- Other keys are held under other grants, so the event is not about them.
    rw [← Option.some.inj told, mine]
    exact (n.grant_ne held now other).symm

/-- Passing a key on makes a new holder. The event, if there is one, is about the grant that
ends. -/
theorem Numbered.recounted_handOn (n : t.Numbered) (t' : Table) (slots : t'.slots = t.slots)
    (last : t'.lastGrant = t.lastGrant) (held : t.slots.get? key = some slot)
    (mine : ∀ y, x = some y → y.grant = slot.holder.grant)
    (now : (t'.handOn key slot.waiters).2.holder? k = some h') : Recounted t x k h' := by
  rw [holder?_handOn] at now
  split at now
  · -- Whether somebody waits is settled by there being a holder.
    obtain ⟨w, -, rfl⟩ := Option.map_eq_some_iff.1 now
    exact .inl ⟨congrArg (· + 1) last, rfl⟩
  · next other =>
    rw [holder?, slots] at now
    refine .inr ⟨h', now, .still fun y told => ?_⟩
    rw [mine y told]
    exact (n.grant_ne held now other).symm

end Holders

/-! ## What the ways of a step tell -/

theorem holdEvent?_of_refuses (e : Event) {o : Outcome} (h : o.refuses = true) :
    t.holdEvent? e o = none := by
  unfold holdEvent?
  split <;> first | cases h | rfl

theorem holdEvent?_done (e : Event) : t.holdEvent? e .done = none := by
  cases e <;> rfl

/-- A release that keeps the grant is one under the grant of its key. -/
theorem holdEvent?_retained {r : Request} {slot : Slot} (held : t.slots.get? r.key = some slot)
    (holds : UInt32) :
    t.holdEvent? (.release r) (.release (.retained holds))
      = some (.released slot.holder.grant) := by
  rw [holdEvent?, grant?_of_holder (holder?_of_slot held)]
  rfl

/-- A departure that keeps the grant gives up the one that the call was handed. -/
theorem Queued.holdEvent?_kept (q : t.Queued) {c : Call} (hc : c ∈ t.calls) {g : Grant}
    (ready : c.permit = some g) (holds : UInt32) :
    t.holdEvent? (.depart c.ticket) (.departure (.gaveBack (.kept holds)))
      = some (.givenUp g.id) := by
  rw [holdEvent?, q.call?_eq_some_iff.2 ⟨hc, rfl⟩, Option.bind_some, ready]
  rfl

/-- **What a step does to the count of a holder** is what its event tells. -/
theorem Way.recounted (s : t.Sound) (w : Way t e o u) {k : String} {h' : Holder}
    (now : u.holder? k = some h') : Recounted t (t.holdEvent? e o) k h' := by
  cases w with
  | refuse h => exact recounted_still (fun _ => rfl) (holdEvent?_of_refuses e h) now
  | aside same =>
    refine recounted_still (fun k => ?_) (holdEvent?_done e) now
    rw [holder?, holder?, same.slots]
  | tryClaim | claim => exact recounted_install rfl now
  | tryReenter r slot held | reenter token r slot held =>
    exact s.recounted_setHolds t rfl held .more rfl now
  | block token r => exact recounted_still (t.holder?_enqueue token r) rfl now
  | decline | fetch | lapse | discard => exact recounted_still (fun _ => rfl) rfl now
  | callOff c | leave c => exact recounted_still (t.holder?_withdraw c) rfl now
  -- A departure that only lowers the count gives back the hold its call was handed.
  | keep c g slot hc ready held mine more =>
    rw [s.holdEvent?_kept hc ready]
    exact s.recounted_setHolds (t.forget c.ticket) rfl held (.fewer rfl mine.symm more)
      mine.symm now
  | giveBack c g slot hc ready held mine =>
    refine s.recounted_handOn (t.forget c.ticket) rfl rfl held (fun y told => ?_) now
    rw [← Option.some.inj told]
    exact mine.symm
  | retain r slot held own may more =>
    rw [holdEvent?_retained held]
    exact s.recounted_setHolds t rfl held (.fewer rfl rfl more) rfl now
  | release r slot held =>
    refine s.recounted_handOn t rfl rfl held (fun y told => ?_) now
    rw [← Option.some.inj told]
    rfl
  | revoke key slot held =>
    -- Whoever takes a grant away gives no hold back.
    exact s.recounted_handOn t rfl rfl held (fun y told => by cases told) now
  | expire record slot _ _ _ held =>
    exact s.recounted_handOn { t with delays := t.delays.tail } rfl rfl held
      (fun y told => by cases told) now

/-- Nothing happens to the holds of a grant that no key is held under. -/
theorem Way.holdEvent_held (s : t.Sound) (w : Way t e o u) {y : HoldEvent}
    (told : t.holdEvent? e o = some y) : ∃ key, t.grant? key = some y.grant := by
  cases w with
  | refuse h =>
    rw [holdEvent?_of_refuses e h] at told
    cases told
  | aside =>
    rw [holdEvent?_done] at told
    cases told
  | tryReenter r slot held | reenter token r slot held | release r slot held =>
    rw [← Option.some.inj told]
    exact ⟨_, grant?_of_holder (holder?_of_slot held)⟩
  -- What is told by a release that keeps its grant is found by looking the grant up.
  | retain r slot held =>
    rw [holdEvent?_retained held] at told
    rw [← Option.some.inj told]
    exact ⟨_, grant?_of_holder (holder?_of_slot held)⟩
  | keep c g slot hc ready held mine =>
    rw [s.holdEvent?_kept hc ready] at told
    rw [← Option.some.inj told, HoldEvent.grant, ← mine]
    exact ⟨_, grant?_of_holder (holder?_of_slot held)⟩
  | giveBack c g slot hc ready held mine =>
    rw [← Option.some.inj told, HoldEvent.grant, ← mine]
    exact ⟨_, grant?_of_holder (holder?_of_slot held)⟩
  | _ => cases told

end Table

end KeyedLocks
