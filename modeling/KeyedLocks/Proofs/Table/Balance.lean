/-
The holds of one grant, step by step.

The number of holds in a slot says how often a grant has to be given back. Each of them
is in somebody's hand: a caller was told that it got the grant, or the grant lies ready
for a call that has not fetched it. `answered` and `retained` count, over a history, how
often a grant was told and how often one hold of it was given back; `undelivered` looks
whether it still lies ready.

One step is looked at through the holders that are there after it. A holder is new and
has one hold, which was told or laid ready in that step (`Fresh`), or it was there before
and the step moved both sides of the balance by the same amount (`Carried`).
-/
import KeyedLocks.Proofs.Table.Run

set_option autoImplicit false

namespace KeyedLocks

/-! ## What is told and what lies ready -/

/-- The grant that a caller is told to have: a new one, one more hold, or the one it
waited for. -/
def Outcome.tells? : Outcome → Option Nat
  | .admission (.granted g) => some g.id
  | .admission (.reentered g) => some g.id
  | .acquisition (.granted g) => some g.id
  | .acquisition (.reentered g) => some g.id
  | .progress (.granted g) => some g.id
  | _ => none

/-- The grant that somebody gives the last hold back of. -/
def finishes? (e : Event) (o : Outcome) : Option Nat :=
  match e, o with
  | .release _, .release (.released grant _) => some grant
  | _, _ => none

namespace Table

variable (t : Table)

/-- The grant that somebody gives one of several holds back of. -/
def retains? (e : Event) (o : Outcome) : Option Nat :=
  match e, o with
  | .release r, .release (.retained _) => t.grant? r.key
  | _, _ => none

/-- Whether a grant lies ready for a call that has not fetched it. -/
def owes (g : Nat) : Bool := t.calls.any fun c => c.permit.any fun p => p.id == g

/-- One for a grant that lies ready. -/
def undelivered (g : Nat) : Nat := (t.owes g).toNat

/-- No count of holds has reached its limit. -/
def Unsaturated : Prop := ∀ e ∈ t.slots.entries, e.2.holder.holds.toNat + 1 < UInt32.size

instance : Decidable t.Unsaturated := inferInstanceAs (Decidable (∀ e ∈ t.slots.entries, _))

end Table

/-- How often a grant was told to a caller. -/
def answered (ms : List Moment) (g : Nat) : Nat := ms.countP fun m => m.outcome.tells? = some g

/-- How often one hold of a grant was given back while others were kept. -/
def retained (ms : List Moment) (g : Nat) : Nat :=
  ms.countP fun m => m.table.retains? m.event m.outcome = some g

/-- How often the last hold of a grant was given back. -/
def finished (ms : List Moment) (g : Nat) : Nat :=
  ms.countP fun m => finishes? m.event m.outcome = some g

/-- One, if it is this grant. -/
def once (x : Option Nat) (g : Nat) : Nat := if x = some g then 1 else 0

@[simp] theorem once_none (g : Nat) : once none g = 0 := rfl

@[simp] theorem once_self (g : Nat) : once (some g) g = 1 := if_pos rfl

/-- Another grant counts for nothing. -/
theorem once_of_ne {g g' : Nat} (other : g' ≠ g) : once (some g) g' = 0 :=
  if_neg fun same => other (Option.some.inj same).symm

/-- A count over a history with one moment more is the count before and what the moment adds. It is
so for all three. -/
theorem answered_concat (ms : List Moment) (m : Moment) (g : Nat) :
    answered (ms ++ [m]) g = answered ms g + once m.outcome.tells? g := by
  simp [answered, once, List.countP_append, List.countP_singleton]

theorem retained_concat (ms : List Moment) (m : Moment) (g : Nat) :
    retained (ms ++ [m]) g
      = retained ms g + once (m.table.retains? m.event m.outcome) g := by
  simp [retained, once, List.countP_append, List.countP_singleton]

theorem finished_concat (ms : List Moment) (m : Moment) (g : Nat) :
    finished (ms ++ [m]) g = finished ms g + once (finishes? m.event m.outcome) g := by
  simp [finished, once, List.countP_append, List.countP_singleton]

namespace Table

variable {t u : Table}

/-- There is room for one hold more. -/
theorem holds_lt (room : t.Unsaturated) {key : String} {s : Slot}
    (held : t.slots.get? key = some s) : s.holder.holds.toNat + 1 < UInt32.size :=
  room _ (KeyMap.get?_eq_some_iff.1 held)

/-! ## What lies ready -/

/-- A grant lies ready if some call has it as its permit. -/
theorem owes_iff {g : Nat} :
    t.owes g = true ↔ ∃ c ∈ t.calls, ∃ p, c.permit = some p ∧ p.id = g := by
  simp [owes, Option.any_eq_true]

/-- That depends on the calls alone. -/
theorem owes_of_calls (same : u.calls = t.calls) (g : Nat) : u.owes g = t.owes g := by
  rw [owes, owes, same]

/-- What lies ready was given out. -/
theorem Numbered.not_owes (n : t.Numbered) {g : Nat} (new : t.lastGrant < g) :
    t.owes g = false := by
  rw [← Bool.not_eq_true, owes_iff]
  rintro ⟨c, hc, p, ready, rfl⟩
  exact Nat.not_le_of_lt new (n.permit_le c hc p ready)

/-- A call that comes to wait has no permit. -/
theorem owes_enqueue (token : String) (r : Request) (g : Nat) :
    (t.enqueue token r).owes g = t.owes g := by
  simp [owes]

/-- Nothing lies ready for a call in a queue. -/
theorem Queued.owes_withdraw (q : t.Queued) {c : Call} (hc : c ∈ t.calls)
    (bare : c.permit = none) (g : Nat) : (t.withdraw c).owes g = t.owes g := by
  rw [Bool.eq_iff_iff, owes_iff, owes_iff, calls_withdraw]
  constructor
  · rintro ⟨d, hd, found⟩
    exact ⟨d, (List.mem_filter.1 hd).1, found⟩
  · rintro ⟨d, hd, p, ready, mine⟩
    refine ⟨d, List.mem_filter.2 ⟨hd, ?_⟩, p, ready, mine⟩
    -- The call with the permit is not the one that leaves, for that one has none.
    have other : d.ticket ≠ c.ticket := by
      intro same
      rw [q.call_unique hd hc same, bare] at ready
      cases ready
    simpa using other

/-- Forgetting a call that has its grant takes that grant away, and no other. -/
theorem Sound.owes_forget (s : t.Sound) {c : Call} (hc : c ∈ t.calls) {p : Grant}
    (ready : c.permit = some p) (g : Nat) :
    (t.forget c.ticket).owes g = (t.owes g && g != p.id) := by
  rw [Bool.eq_iff_iff, Bool.and_eq_true, owes_iff, owes_iff, bne_iff_ne]
  constructor
  · rintro ⟨d, hd, p', ready', rfl⟩
    obtain ⟨hd, other⟩ := List.mem_filter.1 hd
    refine ⟨⟨d, hd, p', ready', rfl⟩, fun same => ?_⟩
    rw [s.permit_inj d hd c hc p' p ready' ready same] at other
    simp at other
  · rintro ⟨⟨d, hd, p', ready', rfl⟩, other⟩
    refine ⟨d, List.mem_filter.2 ⟨hd, ?_⟩, p', ready', rfl⟩
    have apart : d.ticket ≠ c.ticket := by
      intro same
      rw [s.call_unique hd hc same, ready] at ready'
      exact other (congrArg Grant.id (Option.some.inj ready').symm)
    simpa using apart

/-- No other grant is affected. -/
theorem Sound.owes_forget_other (s : t.Sound) {c : Call} (hc : c ∈ t.calls) {p : Grant}
    (ready : c.permit = some p) {g : Nat} (other : g ≠ p.id) :
    (t.forget c.ticket).owes g = t.owes g := by
  rw [s.owes_forget hc ready, bne_iff_ne.2 other, Bool.and_true]

/-- A grant that lies ready is undelivered until its call is forgotten. -/
theorem Sound.undelivered_forget (s : t.Sound) {c : Call} (hc : c ∈ t.calls) {p : Grant}
    (ready : c.permit = some p) :
    t.undelivered p.id = 1 ∧ (t.forget c.ticket).undelivered p.id = 0 := by
  have lay : t.owes p.id = true := owes_iff.2 ⟨c, hc, p, ready, rfl⟩
  constructor
  · rw [undelivered, lay]
    rfl
  · rw [undelivered, s.owes_forget hc ready, bne_self_eq_false, Bool.and_false]
    rfl

/-- Passing a key on lays the new grant ready, if somebody waits. -/
theorem Queued.owes_handOn (q : t.Queued) (key : String) (g : Nat) :
    (t.handOn key (t.queue key)).2.owes g
      = (t.owes g || (!(t.queue key).isEmpty && g == t.lastGrant + 1)) := by
  cases waiting : t.queue key with
  | nil =>
    rw [List.isEmpty_nil, Bool.not_true, Bool.false_and, Bool.or_false]
    exact owes_of_calls rfl g
  | cons w ws =>
    have first : w ∈ t.waitList := (q.mem_queue.1 (waiting ▸ List.mem_cons_self)).1
    obtain ⟨c, hc, bare, rfl⟩ := mem_waitList.1 first
    rw [handOn_cons, Bool.eq_iff_iff, Bool.or_eq_true, owes_iff, owes_iff]
    simp only [List.isEmpty_cons, Bool.not_false, Bool.true_and, beq_iff_eq]
    constructor
    · rintro ⟨d, hd, p, ready, rfl⟩
      obtain ⟨e, he, rfl⟩ := List.mem_map.1 hd
      by_cases served : e.ticket = c.toWaiter.ticket
      · rw [if_pos served] at ready
        rw [← Option.some.inj ready]
        exact .inr rfl
      · rw [if_neg served] at ready
        exact .inl ⟨e, he, p, ready, rfl⟩
    · rintro (⟨d, hd, p, ready, rfl⟩ | rfl)
      -- A call with a permit is not the first in the queue, so it stays as it is.
      · refine ⟨d, List.mem_map.2 ⟨d, hd, if_neg ?_⟩, p, ready, rfl⟩
        exact (q.ticket_ne_of_permit hd ready first).symm
      · exact ⟨_, List.mem_map.2 ⟨c, hc, if_pos rfl⟩, _, rfl, rfl⟩

/-- Whether an old grant lies ready does not change when a key is passed on. -/
theorem Queued.owes_handOn_old (q : t.Queued) (key : String) {g : Nat} (old : g ≤ t.lastGrant) :
    (t.handOn key (t.queue key)).2.owes g = t.owes g := by
  have other : (g == t.lastGrant + 1) = false := by
    rw [beq_eq_false_iff_ne]
    omega
  rw [q.owes_handOn, other, Bool.and_false, Bool.or_false]

/-! ## What a step does to a holder -/

/-- A holder that was made by a step. Its one hold was told or laid ready. -/
structure Fresh (t u : Table) (o : Outcome) (h' : Holder) : Prop where
  grant : h'.grant = t.lastGrant + 1
  holds : h'.holds.toNat = 1
  share : u.undelivered h'.grant + once o.tells? h'.grant = 1

/-- A holder that was there before a step, and what the step did to its balance. -/
structure Carried (t u : Table) (e : Event) (o : Outcome) (h h' : Holder) : Prop where
  grant : h'.grant = h.grant
  balance : h'.holds.toNat + once (t.retains? e o) h.grant + t.undelivered h.grant
    = h.holds.toNat + u.undelivered h.grant + once o.tells? h.grant
  pos : 1 ≤ h.holds.toNat → 1 ≤ h'.holds.toNat
  single : t.reentrant = false → h.holds.toNat = 1 → h'.holds.toNat = 1

/-- A holder after a step is one or the other. -/
def Accounted (t u : Table) (e : Event) (o : Outcome) (k : String) (h' : Holder) : Prop :=
  Fresh t u o h' ∨ ∃ h, t.holder? k = some h ∧ Carried t u e o h h'

section Holders

variable {e : Event} {o : Outcome} {key k : String} {h h' : Holder} {slot : Slot}

/-- Nothing happens to a holder whose grant the step is not about. -/
theorem Carried.still (owes : u.owes h.grant = t.owes h.grant)
    (untold : once o.tells? h.grant = 0) (unkept : once (t.retains? e o) h.grant = 0) :
    Carried t u e o h h where
  grant := rfl
  balance := by
    rw [undelivered, undelivered, owes, untold, unkept]
    omega
  pos := id
  single _ := id

/-- A step that neither tells nor gives back, and changes no holder, carries the balance over. -/
theorem accounted_still (holders : ∀ k, u.holder? k = t.holder? k)
    (owes : ∀ k h, t.holder? k = some h → u.owes h.grant = t.owes h.grant)
    (untold : o.tells? = none) (unkept : t.retains? e o = none)
    (now : u.holder? k = some h') : Accounted t u e o k h' := by
  rw [holders] at now
  refine .inr ⟨h', now, .still (owes k h' now) ?_ ?_⟩
  · rw [untold, once_none]
  · rw [unkept, once_none]

/-- Different keys are held under different grants. -/
theorem Numbered.grant_ne (n : t.Numbered) (held : t.slots.get? key = some slot)
    (held' : t.holder? k = some h) (other : k ≠ key) : h.grant ≠ slot.holder.grant :=
  fun same => other (n.grant_inj k key h _ held' (holder?_of_slot held) same)

/-- A new holder is fresh, and all others are carried over: their numbers are older than the one
that is told. -/
theorem Sound.accounted_install (s : t.Sound) {r : Request}
    (told : o.tells? = some (t.lastGrant + 1)) (unkept : t.retains? e o = none)
    (now : (t.install r.key r []).2.holder? k = some h') :
    Accounted t (t.install r.key r []).2 e o k h' := by
  rw [holder?_install] at now
  split at now
  · rw [← Option.some.inj now]
    refine .inl ⟨rfl, rfl, ?_⟩
    change undelivered t (t.lastGrant + 1) + once o.tells? (t.lastGrant + 1) = 1
    rw [undelivered, s.not_owes (Nat.lt_succ_self _), told, once_self]
    rfl
  · have bound := s.grant_le k h' now
    refine .inr ⟨h', now, .still rfl ?_ ?_⟩
    · rw [told]
      exact once_of_ne (Nat.ne_of_lt (Nat.lt_succ_of_le bound))
    · rw [unkept, once_none]

/-- Counting holds moves the balance of one holder. The slot is found in a table with the
same slots, as a call may have been forgotten in between. -/
theorem Sound.accounted_setHolds (s : t.Sound) (t' : Table) (slots : t'.slots = t.slots)
    (held : t.slots.get? key = some slot) {holds : UInt32}
    (mine : Carried t (t'.setHolds key slot holds) e o slot.holder { slot.holder with holds })
    (others : ∀ g, g ≠ slot.holder.grant →
      t'.owes g = t.owes g ∧ once o.tells? g = 0 ∧ once (t.retains? e o) g = 0)
    (now : (t'.setHolds key slot holds).holder? k = some h') :
    Accounted t (t'.setHolds key slot holds) e o k h' := by
  rw [holder?_setHolds] at now
  split at now
  · next same =>
    rw [← Option.some.inj now, same]
    exact .inr ⟨_, holder?_of_slot held, mine⟩
  · next other =>
    rw [holder?, slots] at now
    obtain ⟨owes, untold, unkept⟩ := others h'.grant (s.grant_ne held now other)
    exact .inr ⟨h', now, .still owes untold unkept⟩

/-- Passing a key on makes a holder whose hold lies ready, and touches no other. -/
theorem Sound.accounted_handOn (s : t.Sound) {t' : Table} (q' : t'.Queued)
    (slots : t'.slots = t.slots) (last : t'.lastGrant = t.lastGrant)
    (held : t.slots.get? key = some slot)
    (owes : ∀ g, g ≠ slot.holder.grant → t'.owes g = t.owes g)
    (untold : o.tells? = none) (unkept : t.retains? e o = none)
    (now : (t'.handOn key slot.waiters).2.holder? k = some h') :
    Accounted t (t'.handOn key slot.waiters).2 e o k h' := by
  have waiters : t'.queue key = slot.waiters := by
    rw [queue, slots, held]
  rw [holder?_handOn] at now
  split at now
  · obtain ⟨w, first, rfl⟩ := Option.map_eq_some_iff.1 now
    -- There is a new holder only because somebody waited.
    have busy : slot.waiters.isEmpty = false := by
      rw [List.isEmpty_eq_false_iff]
      rintro none
      rw [none] at first
      cases first
    have number : (t'.newHolder w.request).grant = t.lastGrant + 1 := congrArg (· + 1) last
    have ready := q'.owes_handOn key (t.lastGrant + 1)
    rw [waiters, last, busy] at ready
    refine .inl ⟨number, rfl, ?_⟩
    rw [number, untold, undelivered, ready, once_none]
    simp
  · next other =>
    rw [holder?, slots] at now
    have old : h'.grant ≤ t'.lastGrant := last ▸ s.grant_le k h' now
    refine .inr ⟨h', now, .still ?_ ?_ ?_⟩
    · rw [← waiters, q'.owes_handOn_old key old]
      exact owes h'.grant (s.grant_ne held now other)
    · rw [untold, once_none]
    · rw [unkept, once_none]

/-! ### One hold more or less -/

/-- Below the limit one hold more is one more. -/
theorem toNat_succ {holds : UInt32} (room : holds.toNat + 1 < UInt32.size) :
    (holds + 1).toNat = holds.toNat + 1 := by
  rw [UInt32.toNat_add]
  exact Nat.mod_eq_of_lt room

/-- From two on one hold less is one less. -/
theorem toNat_pred {holds : UInt32} (more : 1 < holds) :
    (holds - 1).toNat = holds.toNat - 1 ∧ 1 < holds.toNat := by
  have many : 1 < holds.toNat := UInt32.lt_iff_toNat_lt.1 more
  have one_le : (1 : UInt32) ≤ holds :=
    UInt32.le_iff_toNat_le.2 (show UInt32.toNat 1 ≤ holds.toNat from Nat.le_of_lt many)
  refine ⟨?_, many⟩
  rw [UInt32.toNat_sub_of_le _ _ one_le]
  rfl

/-- One more hold is one that was told. -/
theorem Sound.accounted_reenter (s : t.Sound) (room : t.Unsaturated)
    (held : t.slots.get? key = some slot) (may : t.reentrant = true)
    (told : o.tells? = some slot.holder.grant) (unkept : t.retains? e o = none)
    (now : (t.setHolds key slot (slot.holder.holds + 1)).holder? k = some h') :
    Accounted t (t.setHolds key slot (slot.holder.holds + 1)) e o k h' := by
  have more := toNat_succ (holds_lt room held)
  refine s.accounted_setHolds t rfl held ⟨rfl, ?_, ?_, ?_⟩ (fun g other => ⟨rfl, ?_, ?_⟩) now
  · change (slot.holder.holds + 1).toNat + _ + t.undelivered _ = _ + t.undelivered _ + _
    rw [told, unkept, once_self, once_none, more]
    omega
  · intro _
    change 1 ≤ (slot.holder.holds + 1).toNat
    omega
  -- Only where owners may take a key again does this happen.
  · intro single
    rw [may] at single
    cases single
  · rw [told]
    exact once_of_ne other
  · rw [unkept, once_none]

/-- One hold less is one that a release gave back. -/
theorem Sound.accounted_retain (s : t.Sound) (held : t.slots.get? key = some slot)
    (may : t.reentrant = true) (more : 1 < slot.holder.holds) (untold : o.tells? = none)
    (kept : t.retains? e o = some slot.holder.grant)
    (now : (t.setHolds key slot (slot.holder.holds - 1)).holder? k = some h') :
    Accounted t (t.setHolds key slot (slot.holder.holds - 1)) e o k h' := by
  obtain ⟨less, many⟩ := toNat_pred more
  refine s.accounted_setHolds t rfl held ⟨rfl, ?_, ?_, ?_⟩ (fun g other => ⟨rfl, ?_, ?_⟩) now
  · change (slot.holder.holds - 1).toNat + _ + t.undelivered _ = _ + t.undelivered _ + _
    rw [kept, untold, once_self, once_none, less]
    omega
  · intro _
    change 1 ≤ (slot.holder.holds - 1).toNat
    omega
  · intro single
    rw [may] at single
    cases single
  · rw [untold, once_none]
  · rw [kept]
    exact once_of_ne other

/-- Or it is the one that lay ready for a call that departs. -/
theorem Sound.accounted_keep (s : t.Sound) {c : Call} (hc : c ∈ t.calls) {p : Grant}
    (ready : c.permit = some p) (held : t.slots.get? key = some slot)
    (mine : slot.holder.grant = p.id) (more : 1 < slot.holder.holds) (untold : o.tells? = none)
    (unkept : t.retains? e o = none)
    (now : ((t.forget c.ticket).setHolds key slot (slot.holder.holds - 1)).holder? k = some h') :
    Accounted t ((t.forget c.ticket).setHolds key slot (slot.holder.holds - 1)) e o k h' := by
  obtain ⟨less, many⟩ := toNat_pred more
  obtain ⟨lay, gone⟩ := s.undelivered_forget hc ready
  refine s.accounted_setHolds (t.forget c.ticket) rfl held ⟨rfl, ?_, ?_, ?_⟩
    (fun g other => ⟨?_, ?_, ?_⟩) now
  -- What lay ready is gone, and with it one hold. Both stand on their own sides.
  · change (slot.holder.holds - 1).toNat + _ + t.undelivered _
      = _ + (t.forget c.ticket).undelivered _ + _
    rw [untold, unkept, once_none, mine, lay, gone, less]
    omega
  · intro _
    change 1 ≤ (slot.holder.holds - 1).toNat
    omega
  · intro _ single
    omega
  · rw [mine] at other
    exact s.owes_forget_other hc ready other
  · rw [untold, once_none]
  · rw [unkept, once_none]

/-- A grant that lay ready is told to its call, and no hold moves. -/
theorem Sound.accounted_fetch (s : t.Sound) {c : Call} (hc : c ∈ t.calls) {p : Grant}
    (ready : c.permit = some p) (told : o.tells? = some p.id) (unkept : t.retains? e o = none)
    (now : (t.forget c.ticket).holder? k = some h') :
    Accounted t (t.forget c.ticket) e o k h' := by
  by_cases mine : h'.grant = p.id
  · obtain ⟨lay, gone⟩ := s.undelivered_forget hc ready
    refine .inr ⟨h', now, rfl, ?_, id, fun _ => id⟩
    rw [mine, lay, gone, told, unkept, once_self, once_none]
  · refine .inr ⟨h', now, .still (s.owes_forget_other hc ready mine) ?_ ?_⟩
    · rw [told]
      exact once_of_ne mine
    · rw [unkept, once_none]

end Holders

theorem tells?_of_refuses {o : Outcome} (h : o.refuses = true) : o.tells? = none := by
  unfold Outcome.tells?
  split <;> first | cases h | rfl

theorem retains?_of_refuses (e : Event) {o : Outcome} (h : o.refuses = true) :
    t.retains? e o = none := by
  unfold retains?
  split <;> first | cases h | rfl

/-- **A step keeps the balance** of whoever holds a key after it. -/
theorem Way.accounted (s : t.Sound) (room : t.Unsaturated) {e : Event} {o : Outcome}
    (w : Way t e o u) {k : String} {h' : Holder} (now : u.holder? k = some h') :
    Accounted t u e o k h' := by
  cases w with
  | refuse h =>
    exact accounted_still (fun _ => rfl) (fun _ _ _ => rfl) (tells?_of_refuses h)
      (retains?_of_refuses e h) now
  | aside same =>
    have holders : ∀ k, u.holder? k = t.holder? k := fun k => by
      rw [holder?, holder?, same.slots]
    have unkept : t.retains? e .done = none := by cases e <;> rfl
    exact accounted_still holders (fun _ h _ => owes_of_calls same.calls h.grant) rfl unkept now
  | decline | discard => exact accounted_still (fun _ => rfl) (fun _ _ _ => rfl) rfl rfl now
  | tryClaim | claim => exact s.accounted_install rfl rfl now
  | tryReenter r slot held may | reenter token r slot held may =>
    exact s.accounted_reenter room held may rfl rfl now
  | block token r =>
    exact accounted_still (t.holder?_enqueue token r)
      (fun _ h _ => owes_enqueue token r h.grant) rfl rfl now
  | callOff c hc bare | leave c hc bare =>
    exact accounted_still (t.holder?_withdraw c)
      (fun _ h _ => s.owes_withdraw hc bare h.grant) rfl rfl now
  | fetch c g hc ready => exact s.accounted_fetch hc ready rfl rfl now
  | lapse c g hc ready gone =>
    refine accounted_still (fun _ => rfl) (fun k h held => ?_) rfl rfl now
    -- The grant that is given back holds no key any more.
    have other : h.grant ≠ g.id := by
      intro mine
      rw [← s.permit_key hc ready held mine, grant?_of_holder held, mine] at gone
      exact gone rfl
    exact s.owes_forget_other hc ready other
  | keep c g slot hc ready held mine more =>
    exact s.accounted_keep hc ready held mine more rfl rfl now
  | giveBack c g slot hc ready held mine =>
    refine s.accounted_handOn (s.forget hc ready).toQueued rfl rfl held (fun g' other => ?_)
      rfl rfl now
    rw [mine] at other
    exact s.owes_forget_other hc ready other
  | retain r slot held own may more =>
    have kept : t.retains? (.release r) (.release (.retained (slot.holder.holds - 1)))
        = some slot.holder.grant := grant?_of_holder (holder?_of_slot held)
    exact s.accounted_retain held may more rfl kept now
  | release r slot held | revoke key slot held =>
    exact s.accounted_handOn s.toQueued rfl rfl held (fun _ _ => rfl) rfl rfl now
  | expire record slot _ _ _ held =>
    exact s.accounted_handOn s.drain.toQueued rfl rfl held (fun _ _ => rfl) rfl rfl now

end Table

end KeyedLocks
