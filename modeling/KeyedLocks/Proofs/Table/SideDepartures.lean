/-
Departures from one key.

Two callers depart from the same key. One of them may have the key and pass it on as he goes,
perhaps to the other one, who then passes it on in his turn; or the other one goes first and is
not there to be served. It comes to the same (`depart_comm`).

Passing a key on looks for the first who waits. Whoever is not served by it can leave his place
before or after (`passOn_set_of_other`); if the one who is served leaves, the key goes where it
would have gone without him (`passOn_set_of_served`).
-/
import KeyedLocks.Proofs.Table.Alone

set_option autoImplicit false

namespace KeyedLocks

namespace Caller

/-- No call has a grant that holds the key when all grants have ended. -/
theorem lapse_footing_ne (c : Caller) : c.lapse.footing ≠ .ready := by
  intro ready
  rw [lapse] at ready
  by_cases had : c.footing = .ready
  · rw [if_pos had] at ready
    cases ready
  · rw [if_neg had] at ready
    exact had ready

theorem lapse_of_ne {c : Caller} (other : c.footing ≠ .ready) : c.lapse = c := if_neg other

@[simp] theorem lapse_lapse (c : Caller) : c.lapse.lapse = c.lapse :=
  lapse_of_ne c.lapse_footing_ne

/-- Whoever waits goes on waiting when the grants of others end. -/
@[simp] theorem lapse_footing_eq_waiting (c : Caller) :
    c.lapse.footing = .waiting ↔ c.footing = .waiting := by
  rw [lapse]
  by_cases had : c.footing = .ready
  · simp [had]
  · rw [if_neg had]

theorem wants?_of_ne {c : Caller} (other : c.footing ≠ .waiting) : c.wants? = none := if_neg other

theorem wants?_of_waiting {c : Caller} (waits : c.footing = .waiting) :
    c.wants? = some c.request := if_pos waits

end Caller

namespace Side

/-! ## Who is first -/

section First

variable {cs : List (Option Caller)} {c : Caller}

theorem next?_cons_of_waiting (waits : c.footing = .waiting) (cs : List (Option Caller)) :
    next? (some c :: cs) = some c.request := by
  rw [next?, List.findSome?_cons, Option.bind_some, Caller.wants?_of_waiting waits]

theorem next?_cons_of_other (other : c.footing ≠ .waiting) (cs : List (Option Caller)) :
    next? (some c :: cs) = next? cs := by
  rw [next?, List.findSome?_cons, Option.bind_some, Caller.wants?_of_ne other]
  rfl

/-- If the first in place waits, he is served, and the grants behind him have ended. -/
theorem passOn_cons_of_waiting (waits : c.footing = .waiting) (cs : List (Option Caller)) :
    passOn (some c :: cs) = some c.serve :: cs.map (Option.map Caller.lapse) := if_pos waits

/-- Otherwise his grant ends, if he has one, and someone behind him is served. -/
theorem passOn_cons_of_other (other : c.footing ≠ .waiting) (cs : List (Option Caller)) :
    passOn (some c :: cs) = some c.lapse :: passOn cs := if_neg other

/-- The first who waits does not depend on who has a grant that has ended. -/
theorem passOn_lapse (cs : List (Option Caller)) :
    passOn (cs.map (Option.map Caller.lapse)) = passOn cs
      ∧ next? (cs.map (Option.map Caller.lapse)) = next? cs := by
  induction cs with
  | nil => exact ⟨rfl, rfl⟩
  | cons c cs ih =>
    cases c with
    | none => exact ⟨congrArg (none :: ·) ih.1, ih.2⟩
    | some c =>
      rw [List.map_cons, Option.map_some]
      by_cases waits : c.footing = .waiting
      · have ready : c.footing ≠ .ready := by
          rw [waits]
          intro h
          cases h
        -- Grants that have ended do not end again.
        have twice : (cs.map (Option.map Caller.lapse)).map (Option.map Caller.lapse)
            = cs.map (Option.map Caller.lapse) := by
          rw [List.map_map]
          refine List.map_congr_left fun d _ => ?_
          cases d with
          | none => rfl
          | some d => exact congrArg some d.lapse_lapse
        rw [Caller.lapse_of_ne ready, passOn_cons_of_waiting waits, passOn_cons_of_waiting waits,
          next?_cons_of_waiting waits, next?_cons_of_waiting waits, twice]
        exact ⟨rfl, rfl⟩
      · have other : c.lapse.footing ≠ .waiting := mt c.lapse_footing_eq_waiting.1 waits
        rw [passOn_cons_of_other other, passOn_cons_of_other waits, next?_cons_of_other other,
          next?_cons_of_other waits, c.lapse_lapse, ih.1, ih.2]
        exact ⟨rfl, rfl⟩

/-- **Whoever is not served** can leave his place before the key is passed on or after. -/
theorem passOn_set_of_other {j : Nat}
    (other : ∀ d, (passOn cs)[j]? = some (some d) → d.footing ≠ .ready) :
    passOn (cs.set j none) = (passOn cs).set j none ∧ next? (cs.set j none) = next? cs := by
  induction cs generalizing j with
  | nil => exact ⟨rfl, rfl⟩
  | cons c cs ih =>
    cases c with
    | none =>
      -- An empty place is no obstacle, whoever leaves.
      cases j with
      | zero => exact ⟨rfl, rfl⟩
      | succ j =>
        obtain ⟨places, next⟩ := ih (j := j) other
        exact ⟨congrArg (none :: ·) places, next⟩
    | some c =>
      by_cases waits : c.footing = .waiting
      · rw [passOn_cons_of_waiting waits] at other ⊢
        -- This one is served, so it is not the one who leaves.
        cases j with
        | zero => exact absurd rfl (other c.serve rfl)
        | succ j =>
          rw [List.set_cons_succ, List.set_cons_succ, passOn_cons_of_waiting waits,
            next?_cons_of_waiting waits, next?_cons_of_waiting waits, List.map_set]
          exact ⟨rfl, rfl⟩
      · rw [passOn_cons_of_other waits] at other ⊢
        rw [next?_cons_of_other waits]
        cases j with
        | zero => exact ⟨rfl, rfl⟩
        | succ j =>
          obtain ⟨places, next⟩ := ih (j := j) other
          rw [List.set_cons_succ, List.set_cons_succ, passOn_cons_of_other waits,
            next?_cons_of_other waits, places, next]
          exact ⟨rfl, rfl⟩

/-- **If the one who is served leaves**, the key goes where it would have gone without him. -/
theorem passOn_set_of_served {j : Nat} {d : Caller} (place : (passOn cs)[j]? = some (some d))
    (ready : d.footing = .ready) :
    next? cs ≠ none
      ∧ passOn ((passOn cs).set j none) = passOn (cs.set j none)
      ∧ next? ((passOn cs).set j none) = next? (cs.set j none) := by
  induction cs generalizing j with
  | nil => cases place
  | cons c cs ih =>
    cases c with
    | none =>
      cases j with
      | zero => cases place
      | succ j =>
        obtain ⟨someone, places, next⟩ := ih (j := j) place
        exact ⟨someone, congrArg (none :: ·) places, next⟩
    | some c =>
      by_cases waits : c.footing = .waiting
      · rw [passOn_cons_of_waiting waits] at place ⊢
        rw [next?_cons_of_waiting waits]
        cases j with
        | zero =>
          -- The grants behind have ended already, and ending them once more changes nothing.
          obtain ⟨places, next⟩ := passOn_lapse cs
          exact ⟨Option.some_ne_none _, congrArg (none :: ·) places, next⟩
        | succ j =>
          -- Behind the one who is served nobody has a grant any more.
          rw [List.getElem?_cons_succ, List.getElem?_map] at place
          obtain ⟨e, -, lapsed⟩ := Option.map_eq_some_iff.1 place
          obtain ⟨e, -, rfl⟩ := Option.map_eq_some_iff.1 lapsed
          exact absurd ready e.lapse_footing_ne
      · rw [passOn_cons_of_other waits] at place ⊢
        rw [next?_cons_of_other waits]
        cases j with
        | zero =>
          obtain rfl : c.lapse = d := Option.some.inj (Option.some.inj place)
          exact absurd ready c.lapse_footing_ne
        | succ j =>
          have other : c.lapse.footing ≠ .waiting := mt c.lapse_footing_eq_waiting.1 waits
          obtain ⟨someone, places, next⟩ := ih (j := j) place
          refine ⟨someone, ?_, ?_⟩
          · rw [List.set_cons_succ, List.set_cons_succ, passOn_cons_of_other other,
              passOn_cons_of_other waits, c.lapse_lapse, places]
          · rw [List.set_cons_succ, List.set_cons_succ, next?_cons_of_other other,
              next?_cons_of_other waits, next]

end First

/-! ## Departing -/

section Departing

variable (s : Side) (i j : Nat)

/-- Whether the call in a place has a grant that holds the key. -/
def isReady : Bool := (s.caller? i).any fun c => c.footing = .ready

/-- An empty place is left as it is. -/
theorem clear_of_empty {s : Side} {i : Nat} (empty : s.caller? i = none) : s.clear i = s := by
  have same : s.callers.set i none = s.callers := by
    rw [caller?, Option.join_eq_none_iff] at empty
    rcases empty with outside | here
    · exact List.set_eq_of_length_le (List.getElem?_eq_none_iff.1 outside)
    · obtain ⟨bound, here⟩ := List.getElem?_eq_some_iff.1 here
      rw [← here, List.set_getElem_self]
  rw [clear, same]

/-- It does not matter which of two places is emptied first. -/
theorem clear_comm : (s.clear i).clear j = (s.clear j).clear i := by
  by_cases same : i = j
  · rw [same]
  · rw [clear, clear, clear, clear, List.set_comm none none same]

/-- Who has a grant is not changed by another's going. -/
theorem isReady_clear {i j : Nat} (other : i ≠ j) : (s.clear i).isReady j = s.isReady j := by
  rw [isReady, isReady, caller?, caller?, clear, List.getElem?_set_ne other]

/-- A call departs: its place becomes empty, and a hold is given back if its grant has one. -/
theorem depart_snd : (s.depart i).2 = if s.isReady i then (s.clear i).giveBack else s.clear i := by
  rw [depart, isReady]
  cases here : s.caller? i with
  | none => exact (clear_of_empty here).symm
  | some c =>
    by_cases ready : c.footing = .ready
    · simp [ready]
    · simp [ready]

theorem giveBack_of_free {s : Side} (free : s.holder = none) : s.giveBack = s := by
  rw [giveBack, free]

theorem giveBack_of_more {s : Side} {h : Holder} (held : s.holder = some h) (more : 1 < h.holds) :
    s.giveBack = s.setHolds h (h.holds - 1) := by
  rw [giveBack, held]
  exact if_pos more

theorem giveBack_of_last {s : Side} {h : Holder} (held : s.holder = some h)
    (last : ¬ 1 < h.holds) : s.giveBack = s.handOn := by
  rw [giveBack, held]
  exact if_neg last

/-- **After the key was passed on** a departure comes to what it would have come to before: if the
one who departs is the one who was served, he passes the key on again. -/
theorem depart_handOn : (s.handOn.depart j).2 = (s.clear j).handOn := by
  rw [depart_snd]
  by_cases ready : s.handOn.isReady j = true
  · rw [if_pos ready]
    obtain ⟨d, here, stands⟩ := Option.any_eq_true _ _ |>.1 ready
    have place : (passOn s.callers)[j]? = some (some d) := Option.join_eq_some_iff.1 here
    obtain ⟨someone, places, next⟩ := passOn_set_of_served place (of_decide_eq_true stands)
    obtain ⟨r, first⟩ := Option.ne_none_iff_exists'.1 someone
    -- Whoever is served holds the key once.
    have held : (s.handOn.clear j).holder = some (s.newHolder r) := by
      change (next? s.callers).map s.newHolder = _
      rw [first]
      rfl
    rw [giveBack_of_last held (by decide : ¬ (1 : UInt32) < 1)]
    change Side.mk _ ((next? ((passOn s.callers).set j none)).map s.newHolder) _ = _
    change Side.mk s.scene _ (passOn ((passOn s.callers).set j none)) = _
    -- He is the one who was served, so the key goes on as if he had not been there.
    rw [next, places]
    rfl
  · rw [if_neg ready]
    have other : ∀ d, (passOn s.callers)[j]? = some (some d) → d.footing ≠ .ready := by
      intro d place stands
      refine ready (Option.any_eq_true _ _ |>.2 ⟨d, ?_, decide_eq_true stands⟩)
      exact Option.join_eq_some_iff.2 place
    obtain ⟨places, next⟩ := passOn_set_of_other other
    change _ = Side.mk s.scene ((next? (s.callers.set j none)).map s.newHolder)
      (passOn (s.callers.set j none))
    rw [next, places]
    rfl

/-- **After a hold was given back** a departure comes to what it would have come to before. It
gives back a hold of its own if there are more, and otherwise it has none left to give back. -/
theorem depart_giveBack : (s.giveBack.depart j).2
    = if s.isReady j && s.holder.any (fun h => 1 < h.holds) then (s.clear j).giveBack.giveBack
      else (s.clear j).giveBack := by
  cases held : s.holder with
  | none =>
    rw [giveBack_of_free held, giveBack_of_free (s := s.clear j) held, depart_snd,
      giveBack_of_free (s := s.clear j) held]
    simp
  | some h =>
    -- A hold is left for the second departure only in the first case.
    by_cases more : 1 < h.holds
    · rw [giveBack_of_more held more, giveBack_of_more (s := s.clear j) held more, depart_snd]
      simp only [Option.any_some, more, decide_true, Bool.and_true]
      rfl
    · rw [giveBack_of_last held more, giveBack_of_last (s := s.clear j) held more, depart_handOn]
      simp [more]

/-- **Two departures from one key come to the same in either order.** -/
theorem depart_comm : ((s.depart i).2.depart j).2 = ((s.depart j).2.depart i).2 := by
  by_cases same : i = j
  · rw [same]
  have first := s.depart_snd i
  have second := s.depart_snd j
  have ready := s.isReady_clear (Ne.symm same)
  have ready' := s.isReady_clear same
  cases left : s.isReady i <;> cases right : s.isReady j
  -- Nobody gives anything back.
  · simp only [first, second, depart_snd, ready, ready', left, right, clear_comm s i j,
      Bool.false_eq_true, if_false]
  -- One gives back a hold, and the other one leaves a place behind him.
  · simp only [first, second, left, right, Bool.false_eq_true, if_false, if_true, depart_giveBack,
      depart_snd (s.clear i), ready, ready', clear_comm s i j, Bool.false_and]
  · simp only [first, second, left, right, Bool.false_eq_true, if_false, if_true, depart_giveBack,
      depart_snd (s.clear j), ready, ready', clear_comm s i j, Bool.false_and]
  -- Both give back.
  · simp only [first, second, left, right, if_true, depart_giveBack, ready, ready',
      clear_comm s i j]
    rfl

end Departing

end Side

end KeyedLocks
