/-
Who accounts for the holds.

The balance of a held key,

    holds + retained = undelivered + answered,

stands at every moment of every run (`Balanced`), for as long as no count of holds reaches
its limit. From it follows when a key goes on: when its grant is taken away, or when
nothing that was told or laid ready is left to give back (`gone_iff`). A call that departs
gives back what lay ready for it and nothing else.
-/
import KeyedLocks.Proofs.Table.Lifecycle
import KeyedLocks.Proofs.Table.Balance

set_option autoImplicit false

namespace KeyedLocks

namespace Table

variable {t u : Table}

/-! ## The balance of a run -/

/-- **The balance of a history** and the table it led to. -/
structure Balanced (ms : List Moment) (t : Table) : Prop where
  balance : ∀ key h, t.holder? key = some h →
    h.holds.toNat + retained ms h.grant = t.undelivered h.grant + answered ms h.grant
  pos : ∀ key h, t.holder? key = some h → 1 ≤ h.holds.toNat
  single : t.reentrant = false → ∀ key h, t.holder? key = some h → h.holds.toNat = 1
  new : ∀ g, t.lastGrant < g → answered ms g = 0 ∧ retained ms g = 0

/-- A grant that one hold is given back of was made before. -/
theorem retains?_le (n : t.Numbered) {e : Event} {o : Outcome} {g : Nat}
    (kept : t.retains? e o = some g) : g ≤ t.lastGrant := by
  unfold retains? at kept
  split at kept
  · exact n.grant?_le kept
  · cases kept

/-- Nobody is told of a grant that was not given out. -/
theorem Way.tells?_le (s : t.Sound) {e : Event} {o : Outcome} (w : Way t e o u) {g : Nat}
    (told : o.tells? = some g) : g ≤ u.lastGrant := by
  cases w with
  | refuse h =>
    rw [tells?_of_refuses h] at told
    cases told
  | tryClaim | claim => exact Nat.le_of_eq (Option.some.inj told).symm
  | tryReenter r slot held | reenter token r slot held =>
    rw [← Option.some.inj told]
    exact s.grant_le r.key slot.holder (holder?_of_slot held)
  | fetch c p hc ready =>
    rw [← Option.some.inj told]
    exact s.permit_le c hc p ready
  | _ => cases told

/-- A moment keeps the balance: what a holder has is new and all told, or both sides have moved
alike. -/
theorem Balanced.concat {ms : List Moment} {m : Moment} (s : m.table.Sound)
    (room : m.table.Unsaturated) (b : Balanced ms m.table) : Balanced (ms ++ [m]) m.after := by
  have way := m.way s
  have last := (way.turn s).news.2.2
  have kind : m.after.reentrant = m.table.reentrant := by
    rw [reentrant, reentrant, way.settings.1]
  refine ⟨fun key h' held => ?_, fun key h' held => ?_, fun one key h' held => ?_, fun g new => ?_⟩
  · rw [answered_concat, retained_concat]
    rcases way.accounted s room held with fresh | ⟨h, before, carried⟩
    · -- The number is new: nobody was told of it or gave a hold of it back before.
      have unkept : once (m.table.retains? m.event m.outcome) h'.grant = 0 := by
        refine if_neg fun kept => ?_
        have bound := retains?_le s.toNumbered kept
        rw [fresh.grant] at bound
        exact Nat.not_succ_le_self _ bound
      have none := b.new h'.grant (by rw [fresh.grant]; exact Nat.lt_succ_self _)
      have share := fresh.share
      rw [fresh.holds, none.1, none.2, unkept]
      omega
    · have old := b.balance key h before
      have moved := carried.balance
      rw [carried.grant]
      omega
  · rcases way.accounted s room held with fresh | ⟨h, before, carried⟩
    · exact Nat.le_of_eq fresh.holds.symm
    · exact carried.pos (b.pos key h before)
  · rw [kind] at one
    rcases way.accounted s room held with fresh | ⟨h, before, carried⟩
    · exact fresh.holds
    · exact carried.single one (b.single one key h before)
  · have none := b.new g (Nat.lt_of_le_of_lt last new)
    have untold : once m.outcome.tells? g = 0 :=
      if_neg fun told => Nat.not_le_of_lt new (way.tells?_le s told)
    have unkept : once (m.table.retains? m.event m.outcome) g = 0 :=
      if_neg fun kept =>
        Nat.not_le_of_lt new (Nat.le_trans (retains?_le s.toNumbered kept) last)
    rw [answered_concat, retained_concat, untold, unkept]
    exact none

variable {kind : LockKind} {leased : Bool} {reaper : Reaper} {horizon : Horizon}

/-- The balance stands after every run in which no count reached its limit. -/
theorem balanced_run (es : List Event)
    (room : ∀ m ∈ (opening kind leased reaper horizon).history es, m.table.Unsaturated) :
    Balanced ((opening kind leased reaper horizon).history es)
      ((opening kind leased reaper horizon).run es) := by
  refine opening_induction kind leased reaper horizon
    (P := fun ms t => (∀ m ∈ ms, m.table.Unsaturated) → Balanced ms t)
    (fun _ => ⟨?_, ?_, ?_, ?_⟩) (fun ms m s ih all => ?_) es room
  · intro key h held
    cases held
  · intro key h held
    cases held
  · intro _ key h held
    cases held
  · exact fun g _ => ⟨rfl, rfl⟩
  · have now := all m (List.mem_append_right _ (List.mem_singleton.2 rfl))
    exact (ih fun m' hm' => all m' (List.mem_append_left _ hm')).concat s now

end Table

/-! ## When a key goes on -/

/-- Whether a grant is taken away from a key, at somebody's demand or because its lease is
over. -/
def Moment.takesAway (m : Moment) (key : String) (g : Nat) : Prop :=
  m.event = .revoke key g
    ∨ ∃ record v, m.outcome = .reaped (.revoked record v) ∧ record.key = key ∧ record.grant = g

/-- A grant that is taken away from its key has ended in that moment. -/
theorem Moment.ended_of_takesAway {m : Moment} {key : String} {g : Nat}
    (held : m.table.grant? key = some g) (away : m.takesAway key g) :
    .ended key g ∈ m.grantEvents := by
  obtain ⟨t, e⟩ := m
  rcases away with rfl | ⟨record, v, reaped, rfl, rfl⟩
  · obtain ⟨h, holder, rfl⟩ := Table.exists_holder_of_grant held
    have taken := Table.revoke_of_holder (Table.slot_of_holder holder) rfl
    have outcome : (⟨t, .revoke key h.grant⟩ : Moment).outcome
        = .revocation (t.revoke key h.grant).1 := rfl
    rw [Moment.grantEvents, outcome, taken]
    exact List.mem_cons_self
  -- The outcome tells that it was the reaper.
  · cases e with
    | reap =>
      rw [Moment.grantEvents, reaped]
      exact List.mem_cons_self
    | _ => cases reaped

namespace Table

variable {t u : Table}

/-- A grant that goes on by itself has one hold left, and its last share goes. -/
theorem Ending.last_hold (s : t.Sound) {ms : List Moment} (b : Balanced ms t) {key : String}
    {h : Holder} (held : t.holder? key = some h) {e : Event} {o : Outcome}
    (ending : Ending t key h e o u) :
    (e = .revoke key h.grant ∨ ∃ record v, o = .reaped (.revoked record v)
        ∧ record.key = key ∧ record.grant = h.grant)
      ∨ h.holds.toNat = 1 ∧ o.tells? = none ∧ t.retains? e o = none
        ∧ u.undelivered h.grant + 1 = t.undelivered h.grant + once (finishes? e o) h.grant := by
  have pos := b.pos key h held
  have old := s.grant_le key h held
  cases ending with
  | revoked => exact .inl (.inl rfl)
  | expired record _ _ _ here mine => exact .inl (.inr ⟨record, _, rfl, here, mine.symm⟩)
  | released r here own last =>
    refine .inr ⟨?_, rfl, rfl, ?_⟩
    · -- Where a key cannot be taken again there is one hold at all times.
      by_cases may : t.reentrant = true
      · have few : ¬ 1 < h.holds.toNat := fun more => last ⟨may, UInt32.lt_iff_toNat_lt.2 more⟩
        omega
      · exact b.single (by simpa using may) key h held
    · rw [undelivered, s.owes_handOn_old key old, finishes?, once_self]
      rfl
  | returned c g hc ready here mine last =>
    refine .inr ⟨?_, rfl, rfl, ?_⟩
    · have few : ¬ 1 < h.holds.toNat := fun more => last (UInt32.lt_iff_toNat_lt.2 more)
      omega
    · -- The hold that goes is the one that lay ready.
      have lay : t.owes h.grant = true := owes_iff.2 ⟨c, hc, g, ready, mine.symm⟩
      have same : (t.forget c.ticket).queue key = t.queue key := rfl
      have gone := (s.forget hc ready).owes_handOn_old key (g := h.grant) old
      rw [same, s.owes_forget hc ready, mine, bne_self_eq_false, Bool.and_false] at gone
      rw [undelivered, undelivered, lay, mine, gone]
      rfl

variable {kind : LockKind} {leased : Bool} {reaper : Reaper} {horizon : Horizon}

/-- Giving the last hold back ends a grant for good. -/
theorem finished_of_held (es : List Event) {key : String} {g : Nat}
    (held : ((opening kind leased reaper horizon).run es).grant? key = some g) :
    finished ((opening kind leased reaper horizon).history es) g = 0 := by
  rw [finished, List.countP_eq_zero]
  intro m hm last
  have ends : ∃ k, .ended k g ∈ m.grantEvents := by
    obtain ⟨t, e⟩ := m
    have named := of_decide_eq_true last
    unfold finishes? at named
    split at named
    · next r grant after event outcome =>
      cases event
      cases named
      refine ⟨r.key, ?_⟩
      rw [Moment.grantEvents, outcome]
      exact List.mem_cons_self
    · cases named
  -- A grant that has ended holds no key any more.
  obtain ⟨k, ends⟩ := ends
  exact (gone_of_run es (List.mem_flatMap.2 ⟨m, hm, ends⟩)).2 key held

/-- The balance after one more event, as long as there was room. -/
theorem balanced_next (es : List Event) (e : Event)
    (room : ∀ m ∈ (opening kind leased reaper horizon).history es, m.table.Unsaturated)
    (now : ((opening kind leased reaper horizon).run es).Unsaturated) :
    Balanced
      ((opening kind leased reaper horizon).history es
        ++ [⟨(opening kind leased reaper horizon).run es, e⟩])
      (((opening kind leased reaper horizon).run es).step e).2 :=
  (balanced_run es room).concat (m := ⟨_, e⟩) (sound_run es) now

/-- **A key goes on when nothing is left under its grant**, or when the grant is taken
away. -/
theorem gone_iff (es : List Event)
    (room : ∀ m ∈ (opening kind leased reaper horizon).history es, m.table.Unsaturated)
    (now : ((opening kind leased reaper horizon).run es).Unsaturated) (e : Event) {key : String}
    {h : Holder} (held : ((opening kind leased reaper horizon).run es).holder? key = some h) :
    let t := (opening kind leased reaper horizon).run es
    let ms := (opening kind leased reaper horizon).history es
    let m : Moment := ⟨t, e⟩
    m.after.grant? key ≠ some h.grant
      ↔ m.takesAway key h.grant
        ∨ m.after.undelivered h.grant + answered (ms ++ [m]) h.grant
          = retained (ms ++ [m]) h.grant + finished (ms ++ [m]) h.grant := by
  intro t ms m
  have s : t.Sound := sound_run es
  have way := m.way s
  have b : Balanced ms t := balanced_run es room
  have before : t.grant? key = some h.grant := grant?_of_holder held
  constructor
  -- A grant that goes on by itself had one hold left, and its last share goes with it.
  · intro gone
    obtain ⟨h', held', same, ending⟩ :=
      way.ending s.toQueued ((way.turn s).ended_of_gone before gone)
    obtain rfl := Option.some.inj (held.symm.trans held')
    rcases ending.last_hold s b held with away | ⟨one, untold, unkept, share⟩
    · exact .inl away
    · have balance := b.balance key h held
      have earlier : finished ms h.grant = 0 := finished_of_held es before
      refine .inr ?_
      rw [answered_concat, retained_concat, finished_concat, untold, unkept, once_none]
      omega
  -- A grant that stays has a hold, and somebody has that hold.
  · rintro (away | none) stays
    · have ends := Moment.ended_of_takesAway before away
      exact ((way.turn s).not_held s.toNumbered ends).2 key stays
    · obtain ⟨h', held', same⟩ := exists_holder_of_grant stays
      have after : Balanced (ms ++ [m]) m.after := balanced_next es e room now
      have balance := after.balance key h' held'
      have pos := after.pos key h' held'
      have last : finished (ms ++ [m]) h.grant = 0 := by
        have path : (opening kind leased reaper horizon).history (es ++ [e]) = ms ++ [m] :=
          history_concat _ es e
        have led : (opening kind leased reaper horizon).run (es ++ [e]) = m.after :=
          run_concat _ es e
        rw [← led] at stays
        rw [← path]
        exact finished_of_held (es ++ [e]) stays
      rw [same] at balance
      omega

/-- **No hold is leaked or lost.** In every run in which no count of holds reaches its
limit, the holds of a held key and the holds given back under its grant are those that
were told to callers, and one more while the grant lies ready; and there is one hold at
least. The grant leaves its key exactly when it is taken away or when all that was told or
laid ready was given back. A call that departs leaves no key to nobody, and the holds that
were told stay where they are. -/
theorem holds_are_accounted_for (kind : LockKind) (leased : Bool) (reaper : Reaper)
    (horizon : Horizon) (es : List Event)
    (room : ∀ m ∈ (opening kind leased reaper horizon).history es, m.table.Unsaturated)
    (now : ((opening kind leased reaper horizon).run es).Unsaturated) :
    let t := (opening kind leased reaper horizon).run es
    let ms := (opening kind leased reaper horizon).history es
    (∀ key h, t.holder? key = some h →
        h.holds.toNat + retained ms h.grant = t.undelivered h.grant + answered ms h.grant
          ∧ 1 ≤ h.holds.toNat)
      ∧ (∀ key h, t.holder? key = some h → ∀ e,
          let m : Moment := ⟨t, e⟩
          m.after.grant? key ≠ some h.grant
            ↔ m.takesAway key h.grant
              ∨ m.after.undelivered h.grant + answered (ms ++ [m]) h.grant
                = retained (ms ++ [m]) h.grant + finished (ms ++ [m]) h.grant)
      ∧ ∀ ticket,
          (∀ key h', (t.step (.depart ticket)).2.holder? key = some h' →
            retained ms h'.grant
              < (t.step (.depart ticket)).2.undelivered h'.grant + answered ms h'.grant)
          ∧ ∀ key h, t.holder? key = some h → retained ms h.grant < answered ms h.grant →
            ∃ h', (t.step (.depart ticket)).2.holder? key = some h' ∧ h'.grant = h.grant
              ∧ answered ms h.grant ≤ h'.holds.toNat + retained ms h.grant := by
  intro t ms
  have b : Balanced ms t := balanced_run es room
  refine ⟨fun key h held => ⟨b.balance key h held, b.pos key h held⟩,
    fun key h held e => gone_iff es room now e held, fun ticket => ?_⟩
  -- Whoever departs is told nothing and gives nothing back by a release.
  have after : Balanced (ms ++ [⟨t, .depart ticket⟩]) (t.step (.depart ticket)).2 :=
    balanced_next es (.depart ticket) room now
  have answers : ∀ g, answered (ms ++ [⟨t, .depart ticket⟩]) g = answered ms g :=
    fun g => answered_concat ms _ g
  have retains : ∀ g, retained (ms ++ [⟨t, .depart ticket⟩]) g = retained ms g :=
    fun g => retained_concat ms _ g
  have finishes : ∀ g, finished (ms ++ [⟨t, .depart ticket⟩]) g = finished ms g :=
    fun g => finished_concat ms _ g
  refine ⟨fun key h' held' => ?_, fun key h held more => ?_⟩
  · have balance := after.balance key h' held'
    have pos := after.pos key h' held'
    rw [answers, retains] at balance
    omega
  · have stays : (t.step (.depart ticket)).2.grant? key = some h.grant := by
      by_contra gone
      rcases (gone_iff es room now (.depart ticket) held).1 gone with away | none
      · rcases away with event | ⟨record, v, outcome, -⟩
        · cases event
        · cases outcome
      · have never := finished_of_held es (grant?_of_holder held)
        change _ + answered (ms ++ [_]) _ = retained (ms ++ [_]) _ + finished (ms ++ [_]) _ at none
        change finished ms _ = 0 at never
        rw [answers, retains, finishes] at none
        omega
    obtain ⟨h', held', same⟩ := exists_holder_of_grant stays
    have balance := after.balance key h' held'
    rw [answers, retains, same] at balance
    exact ⟨h', held', same, by omega⟩

/-- A key is handed to a call that has not fetched its grant, its owner takes the key once
more, and the call departs. The hold that was told is still there. -/
theorem told_hold_survives_departure :
    let a : Request := ⟨"k", 1, ⟨"app", "a"⟩, .reentrant, none, 0⟩
    let b : Request := ⟨"k", 2, ⟨"app", "b"⟩, .reentrant, none, 0⟩
    let es : List Event := [.tryAcquire a, .acquire "token" b, .release a, .tryAcquire b]
    let t := (opening .reentrant false .absent .widest).run es
    let ms := (opening .reentrant false .absent .widest).history es
    (∀ m ∈ ms, m.table.Unsaturated) ∧ t.Unsaturated ∧ answered ms 2 = 1
      ∧ ∃ h', (t.step (.depart 0)).2.holder? "k" = some h' ∧ h'.grant = 2
        ∧ answered ms 2 ≤ h'.holds.toNat + retained ms 2 := by
  intro a b es t ms
  have room : ∀ m ∈ ms, m.table.Unsaturated := by decide +kernel
  have now : t.Unsaturated := by decide +kernel
  -- One hold was told and none given back, so at least one is left whoever departs.
  have told : answered ms 2 = 1 ∧ retained ms 2 = 0 := by decide +kernel
  have held : t.holder? "k" = some ⟨b, 2, 2, 0, none⟩ := by decide +kernel
  have accounts := holds_are_accounted_for .reentrant false .absent .widest es room now
  refine ⟨room, now, told.1, (accounts.2.2 0).2 "k" _ held ?_⟩
  change retained ms 2 < answered ms 2
  omega

end Table

end KeyedLocks
