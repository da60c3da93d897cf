/-
As many are given back as there are holds.

A grant that was taken `n` times more has `n + 1` holds to give back, and its key goes on with the
last of them. The holder gives back by a release. A call that departs gives back the one hold that
it was handed, and as its departure is the end of it, this happens once at most. A grant that is
taken away goes with all its holds, and no other grant ends before the last one is given back.

The count of holds is a word of 32 bits, so this is a law about grants that had room for one more
hold whenever they were taken once more (`HasRoom`). A grant needs many re-entries before it can be
without room: as many as the word has values, less two (`hasRoom_of_few`). The induction is over the
moments of a run, and what it carries is that log and count agree (`Tallied`); when a grant ends by
itself the count says one, and then the log says that all was given back.

The last section shows what keeps the law from saying more.
-/
import KeyedLocks.Proofs.Table.Accounting
import KeyedLocks.Proofs.Table.Endings
import KeyedLocks.Proofs.Table.HoldLog
import KeyedLocks.Proofs.Table.Reentry

set_option autoImplicit false

namespace KeyedLocks

open GrantEvent

/-- Whenever a grant was taken once more, there was room for one more hold. -/
def HasRoom (ms : List Moment) (g : Nat) : Prop :=
  ∀ m ∈ ms, m.holdEvent? = some (.reentered g) → ∀ key h, m.table.holder? key = some h →
    h.grant = g → h.holds.toNat + 1 < UInt32.size

theorem HasRoom.earlier {ms : List Moment} {m : Moment} {g : Nat} (room : HasRoom (ms ++ [m]) g) :
    HasRoom ms g := by
  intro m' hm'
  exact room m' (List.mem_append_left _ hm')

theorem HasRoom.now {ms : List Moment} {m : Moment} {g : Nat} (room : HasRoom (ms ++ [m]) g) :
    m.holdEvent? = some (.reentered g) → ∀ key h, m.table.holder? key = some h → h.grant = g →
      h.holds.toNat + 1 < UInt32.size :=
  room m (List.mem_append_right _ List.mem_cons_self)

namespace Table

variable {t u : Table}

/-! ## The count and the log -/

/-- **The history and the count of a holder agree.** The count is never above the number of
re-entries and the one hold at the beginning; and if there was room, it is what is left of them, and
not nothing. -/
structure Agrees (ms : List Moment) (h : Holder) : Prop where
  most : h.holds.toNat ≤ reentries ms h.grant + 1
  pos : HasRoom ms h.grant → 1 ≤ h.holds.toNat
  exact : HasRoom ms h.grant →
    h.holds.toNat + (releases ms h.grant + departures ms h.grant) = reentries ms h.grant + 1

/-- The count of holds wraps around at the end of its word, so one more is one more at most. -/
theorem toNat_succ_le (holds : UInt32) : (holds + 1).toNat ≤ holds.toNat + 1 := by
  rw [UInt32.toNat_add]
  exact Nat.mod_le _ _

/-- **A moment moves the count as it moves the log.** -/
theorem Agrees.concat {ms : List Moment} {m : Moment} {key : String} {h h' : Holder}
    (a : Agrees ms h) (held : m.table.holder? key = some h)
    (counted : Counted h m.holdEvent? h') : Agrees (ms ++ [m]) h' := by
  generalize told : m.holdEvent? = x at counted
  cases counted with
  | still apart =>
    obtain ⟨taken, released, departed⟩ :=
      tally_of_apart ms fun y this => apart y (told.symm.trans this)
    refine ⟨?_, ?_, ?_⟩
    · rw [taken]
      exact a.most
    · intro room
      exact a.pos room.earlier
    · intro room
      rw [taken, released, departed]
      exact a.exact room.earlier
  | more =>
    obtain ⟨taken, released, departed⟩ := tally_of_reentered ms told
    refine ⟨?_, ?_, ?_⟩
    · -- One more word is one more at most, room or not.
      rw [taken]
      exact Nat.le_trans (toNat_succ_le h.holds) (Nat.succ_le_succ a.most)
    · intro room
      have up := toNat_succ (room.now told key h held rfl)
      change 1 ≤ (h.holds + 1).toNat
      omega
    · intro room
      have up := toNat_succ (room.now told key h held rfl)
      have balance := a.exact room.earlier
      rw [taken, released, departed]
      change (h.holds + 1).toNat + _ = _
      omega
  | fewer lowers mine several =>
    obtain ⟨taken, given⟩ := tally_of_lowers ms told lowers mine
    -- A hold is taken off only where there are several, so this is always one less.
    obtain ⟨down, many⟩ := toNat_pred several
    refine ⟨?_, ?_, ?_⟩
    · have most := a.most
      rw [taken]
      change (h.holds - 1).toNat ≤ _
      omega
    · intro _
      change 1 ≤ (h.holds - 1).toNat
      omega
    · intro room
      have balance := a.exact room.earlier
      rw [taken, given]
      change (h.holds - 1).toNat + _ = _
      omega

/-! ## What lies ready -/

/-- Passing a key on lays nothing ready but the new grant. -/
theorem Queued.owes_handOn_or_new (q : t.Queued) {key : String} {slot : Slot}
    (held : t.slots.get? key = some slot) {g : Nat}
    (ready : (t.handOn key slot.waiters).2.owes g = true) :
    t.owes g = true ∨ g = t.lastGrant + 1 := by
  rw [← queue_of_slot held, q.owes_handOn, Bool.or_eq_true, Bool.and_eq_true, beq_iff_eq] at ready
  exact ready.imp_right And.right

/-- What lies ready after a step lay ready before it, or it is new. -/
theorem Way.owed_or_new (s : t.Sound) {e : Event} {o : Outcome} (w : Way t e o u) {g : Nat}
    (ready : u.owes g = true) : t.owes g = true ∨ g = t.lastGrant + 1 := by
  have forget : ∀ {c : Call} {p : Grant}, c ∈ t.calls → c.permit = some p →
      (t.forget c.ticket).owes g = true → t.owes g = true := by
    intro c p hc laid still
    rw [s.owes_forget hc laid, Bool.and_eq_true] at still
    exact still.1
  cases w with
  | refuse | decline | tryClaim | claim | tryReenter | reenter | retain | discard =>
    exact .inl ready
  | aside same => exact .inl (owes_of_calls same.calls g ▸ ready)
  | block token r => exact .inl (owes_enqueue token r g ▸ ready)
  | callOff c hc bare | leave c hc bare => exact .inl (s.owes_withdraw hc bare g ▸ ready)
  | fetch c p hc laid | lapse c p hc laid => exact .inl (forget hc laid ready)
  -- A departing call takes what was laid ready for it along.
  | keep c p slot hc laid => exact .inl (forget hc laid ready)
  | giveBack c p slot hc laid held =>
    exact ((s.forget hc laid).owes_handOn_or_new held ready).imp_left (forget hc laid)
  | release r slot held | revoke key slot held => exact s.owes_handOn_or_new held ready
  | expire record slot _ _ _ held => exact s.drain.owes_handOn_or_new held ready

/-- A grant that is given up lay ready, and does so no more. -/
theorem Way.owed_of_givenUp (s : t.Sound) {e : Event} {o : Outcome} (w : Way t e o u) {g : Nat}
    (told : t.holdEvent? e o = some (.givenUp g)) : t.owes g = true ∧ u.owes g = false := by
  cases w with
  | refuse h =>
    rw [holdEvent?_of_refuses e h] at told
    cases told
  | aside =>
    rw [holdEvent?_done] at told
    cases told
  | retain r slot held =>
    rw [holdEvent?_retained held] at told
    cases told
  | keep c p slot hc ready =>
    rw [s.holdEvent?_kept hc ready] at told
    cases told
    have gone := s.owes_forget hc ready p.id
    rw [bne_self_eq_false, Bool.and_false] at gone
    exact ⟨owes_iff.2 ⟨c, hc, p, ready, rfl⟩, gone⟩
  | giveBack c p slot hc ready held mine =>
    cases told
    -- The key may go to somebody else by the same step, but under a new number.
    have old : p.id ≤ t.lastGrant := s.permit_le c hc p ready
    have gone := (s.forget hc ready).owes_handOn_old c.request.key old
    rw [queue_of_slot (t := t.forget c.ticket) held, s.owes_forget hc ready, bne_self_eq_false,
      Bool.and_false] at gone
    exact ⟨owes_iff.2 ⟨c, hc, p, ready, rfl⟩, gone⟩
  | _ => cases told

/-! ## The whole table -/

/-- **The history and the table it led to agree.** The log names no grant that was not given out; it
agrees with every holder; and a grant was given up by a departure once at most, and not at all if it
still lies ready. -/
structure Tallied (ms : List Moment) (t : Table) : Prop where
  known : ∀ y ∈ holdLog ms, y.grant ≤ t.lastGrant
  agrees : ∀ key h, t.holder? key = some h → Agrees ms h
  once : ∀ g, departures ms g + t.undelivered g ≤ 1

/-- Nothing was logged of a grant that is yet to be given out. -/
theorem Tallied.unknown {ms : List Moment} (a : Tallied ms t) {g : Nat} (new : t.lastGrant < g) :
    reentries ms g = 0 ∧ releases ms g = 0 ∧ departures ms g = 0 := by
  have none : ∀ y : HoldEvent, y.grant = g → (holdLog ms).count y = 0 := by
    rintro y rfl
    exact List.count_eq_zero.2 fun logged => Nat.not_le_of_lt new (a.known y logged)
  exact ⟨none _ rfl, none _ rfl, none _ rfl⟩

/-- Whatever is given up lay ready, so it is given up for the first time. -/
theorem Tallied.departs_once {ms : List Moment} {m : Moment} (s : m.table.Sound)
    (a : Tallied ms m.table) (g : Nat) :
    departures (ms ++ [m]) g + m.after.undelivered g ≤ 1 := by
  have way := m.way s
  have before := a.once g
  rw [undelivered] at before ⊢
  rw [departures_concat]
  by_cases told : m.holdEvent? = some (.givenUp g)
  -- What is given up lay ready before and does not any more, so the sum stays.
  · obtain ⟨lay, gone⟩ := way.owed_of_givenUp s told
    rw [lay] at before
    rw [if_pos told, gone]
    exact before
  · rw [if_neg told]
    cases ready : m.after.owes g with
    | false => exact Nat.le_trans (Nat.le_add_right _ _) before
    | true =>
      -- A grant lies ready because it did before, or because it is new, and a new one has no
      -- history.
      rcases way.owed_or_new s ready with lay | new
      · rw [lay] at before
        exact before
      · have none := (a.unknown (g := g) (new ▸ Nat.lt_succ_self _)).2.2
        rw [none]
        exact Nat.le_refl 1

/-- **A moment keeps the history and the table in agreement.** -/
theorem Tallied.concat {ms : List Moment} {m : Moment} (s : m.table.Sound)
    (a : Tallied ms m.table) : Tallied (ms ++ [m]) m.after := by
  have way := m.way s
  refine ⟨?_, ?_, ?_⟩
  · intro y logged
    have last := (way.turn s).news.2.2
    rw [holdLog_concat, List.mem_append, Option.mem_toList] at logged
    rcases logged with earlier | now
    · exact Nat.le_trans (a.known y earlier) last
    · obtain ⟨key, held⟩ := way.holdEvent_held s now
      exact Nat.le_trans (s.grant?_le held) last
  · intro key h' held
    rcases way.recounted s held with ⟨new, one⟩ | ⟨h, before, counted⟩
    · -- Nothing is logged of a grant that this moment gives out, not even by this moment.
      obtain ⟨none, none', none''⟩ := a.unknown (g := h'.grant) (new ▸ Nat.lt_succ_self _)
      obtain ⟨taken, released, departed⟩ :=
        tally_of_apart ms (m := m) (g := h'.grant) fun y told mine => by
          obtain ⟨key, held⟩ := way.holdEvent_held s told
          have bound := s.grant?_le held
          omega
      have holds : h'.holds.toNat = 1 := congrArg UInt32.toNat one
      refine ⟨?_, ?_, ?_⟩
      · omega
      · intro _
        omega
      · intro _
        omega
    · exact (a.agrees key h before).concat before counted
  · intro g
    exact a.departs_once s g

variable {kind : LockKind} {leased : Bool} {reaper : Reaper} {horizon : Horizon}

/-- **Log and table agree after every run.** -/
theorem tallied_run (es : List Event) :
    Tallied ((opening kind leased reaper horizon).history es)
      ((opening kind leased reaper horizon).run es) := by
  refine opening_induction kind leased reaper horizon ⟨?_, ?_, ?_⟩ (fun ms m s a => a.concat s) es
  · intro y logged
    cases logged
  · intro key h held
    cases held
  · intro g
    exact Nat.zero_le 1

/-- **Few re-entries always have room**, for a count is at most one more than they are. -/
theorem hasRoom_of_few (es : List Event) {g : Nat}
    (few : reentries ((opening kind leased reaper horizon).history es) g + 1 < UInt32.size) :
    HasRoom ((opening kind leased reaper horizon).history es) g := by
  induction es using List.reverseRecOn with
  | nil =>
    intro m hm
    cases hm
  | append_singleton es e ih =>
    rw [history_concat] at few ⊢
    have grows : reentries ((opening kind leased reaper horizon).history es) g
        ≤ reentries ((opening kind leased reaper horizon).history es
          ++ [⟨(opening kind leased reaper horizon).run es, e⟩]) g := by
      rw [reentries, reentries, count_concat]
      exact Nat.le_add_right _ _
    intro m hm told key h held mine
    rcases List.mem_append.1 hm with earlier | now
    · exact ih (Nat.lt_of_le_of_lt (Nat.succ_le_succ grows) few) m earlier told key h held mine
    · -- This re-entry is one of the few, so those before it are fewer still.
      obtain rfl := List.mem_singleton.1 now
      have bound := ((tallied_run es).agrees key h held).most
      rw [(tally_of_reentered _ told).1] at few
      rw [mine] at bound
      omega

/-! ## How a grant ends -/

/-- A grant that goes on by itself had one hold left, and its end is logged. -/
theorem Ending.gives_back (may : t.reentrant = true) {key : String} {h : Holder} {e : Event}
    {o : Outcome} (ending : Ending t key h e o u) :
    (e = .revoke key h.grant ∨ ∃ record v, o = .reaped (.revoked record v)
        ∧ record.key = key ∧ record.grant = h.grant)
      ∨ ¬ 1 < h.holds
        ∧ ∃ y : HoldEvent, t.holdEvent? e o = some y ∧ y.lowers = true ∧ y.grant = h.grant := by
  cases ending with
  | revoked => exact .inl (.inl rfl)
  | expired record _ _ _ here mine => exact .inl (.inr ⟨record, _, rfl, here, mine.symm⟩)
  | released r here own last =>
    exact .inr ⟨fun several => last ⟨may, several⟩, .released h.grant, rfl, rfl, rfl⟩
  | returned c g hc ready here mine last =>
    exact .inr ⟨last, .givenUp g.id, rfl, rfl, mine.symm⟩

/-- **A grant that ended was taken away, or given back as often as it was taken.** -/
theorem taken_away_or_given_back (es : List Event) {key : String} {g : Nat}
    (ends : ended key g ∈ grantLog ((opening .reentrant leased reaper horizon).history es))
    (room : HasRoom ((opening .reentrant leased reaper horizon).history es) g) :
    let ms := (opening .reentrant leased reaper horizon).history es
    (∃ m ∈ ms, m.takesAway key g ∧ ended key g ∈ m.grantEvents)
      ∨ releases ms g + departures ms g = reentries ms g + 1 := by
  induction es using List.reverseRecOn with
  | nil => cases ends
  | append_singleton es e ih =>
    have s : ((opening .reentrant leased reaper horizon).run es).Sound := sound_run es
    rw [history_concat] at ends room ⊢
    rw [grantLog_concat, List.mem_append] at ends
    rcases ends with earlier | now
    · -- A grant that has ended is nobody's, so nothing is logged of it any more.
      obtain ⟨-, nobody⟩ := gone_of_run es earlier
      obtain ⟨taken, released, departed⟩ := tally_of_apart
        ((opening .reentrant leased reaper horizon).history es)
        (m := ⟨(opening .reentrant leased reaper horizon).run es, e⟩) (g := g) fun y told mine => by
          obtain ⟨k, held⟩ := (Moment.way ⟨_, e⟩ s).holdEvent_held s told
          exact nobody k (mine ▸ held)
      dsimp only
      rw [taken, released, departed]
      rcases ih earlier room.earlier with ⟨m, hm, away⟩ | given
      · exact .inl ⟨m, List.mem_append_left _ hm, away⟩
      · exact .inr given
    · obtain ⟨h, held, rfl, ending⟩ := (Moment.way ⟨_, e⟩ s).ending s.toQueued now
      have may : ((opening .reentrant leased reaper horizon).run es).reentrant = true :=
        decide_eq_true (kind_run es)
      rcases ending.gives_back may with away | ⟨last, y, told, lowers, mine⟩
      · exact .inl ⟨_, List.mem_append_right _ List.mem_cons_self, away, now⟩
      · -- There is one hold left, and its end is the one that the log is short of.
        have a : Agrees ((opening .reentrant leased reaper horizon).history es) h :=
          (tallied_run es).agrees key h held
        have balance := a.exact room.earlier
        have pos := a.pos room.earlier
        have few : ¬ 1 < h.holds.toNat := fun more => last (UInt32.lt_iff_toNat_lt.2 more)
        obtain ⟨taken, given⟩ := tally_of_lowers
          ((opening .reentrant leased reaper horizon).history es)
          (m := ⟨(opening .reentrant leased reaper horizon).run es, e⟩) told lowers mine
        refine .inr ?_
        rw [taken, given]
        omega

/-! ## The whole -/

/-- **Every hold is given back once.** Take any table that a run leads to, where a key can be taken
again. If there is room, a holder who asks for his key, with waiting or without, has one hold more
under the same grant. His count is one more than his re-entries at most, so a grant that was taken
again fewer than 2³² - 1 times had room each time.

Under a grant that had room each time, the holds are one more than the re-entries, less what was
given back. So as long as less was given back than was taken again, a release keeps the grant with
one hold less; the next one ends it, and the key goes to the first in its queue or is freed.
Whatever else happened in between, a grant that has ended was given back once more than it was taken
again, if it was not taken away. A hold is given back by a release or, once at most, by the
departure of the call that the grant was handed to. -/
theorem every_hold_is_given_back_once (leased : Bool) (reaper : Reaper) (horizon : Horizon)
    (es : List Event) :
    let t := (opening .reentrant leased reaper horizon).run es
    let ms := (opening .reentrant leased reaper horizon).history es
    (∀ key h, t.holder? key = some h →
        h.holds.toNat ≤ reentries ms h.grant + 1
        ∧ (h.holds.toNat + 1 < UInt32.size → ∀ r, r.key = key → r.owner = h.request.owner →
          ∃ g u, t.tryAcquire r = (.reentered g, u)
            ∧ (∀ token, t.acquire token r = (.reentered g, u))
            ∧ g.id = h.grant ∧ g.holds.toNat = h.holds.toNat + 1
            ∧ u.holder? key = some { h with holds := g.holds }))
      ∧ (∀ g, reentries ms g + 1 < UInt32.size → HasRoom ms g)
      ∧ (∀ g, departures ms g ≤ 1)
      ∧ (∀ key h, t.holder? key = some h → HasRoom ms h.grant →
        let back := releases ms h.grant + departures ms h.grant
        back ≤ reentries ms h.grant
          ∧ h.holds.toNat + back = reentries ms h.grant + 1
          ∧ ∀ r, r.key = key → r.owner = h.request.owner →
            (back < reentries ms h.grant → ∃ holds u, t.release r = (.retained holds, u)
              ∧ holds.toNat + 1 = h.holds.toNat ∧ u.holder? key = some { h with holds })
            ∧ (back = reentries ms h.grant → ∃ next u, t.release r = (.released h.grant next, u)
              ∧ Succeeds t key next u))
      ∧ ∀ key g, ended key g ∈ grantLog ms → HasRoom ms g →
        (∃ m ∈ ms, m.takesAway key g ∧ ended key g ∈ m.grantEvents)
          ∨ releases ms g + departures ms g = reentries ms g + 1 := by
  intro t ms
  have a : Tallied ms t := tallied_run es
  have again : t.kind = .reentrant := kind_run es
  refine ⟨?_, fun g => hasRoom_of_few es, ?_, ?_, ?_⟩
  · intro key h held
    refine ⟨(a.agrees key h held).most, ?_⟩
    rintro room r rfl own
    refine ⟨_, _, tryAcquire_of_holder again held own, acquire_of_holder again held own, rfl,
      toNat_succ room, ?_⟩
    rw [holder?_setHolds, if_pos rfl]
  · intro g
    exact Nat.le_trans (Nat.le_add_right _ _) (a.once g)
  · intro key h held room
    have pos := (a.agrees key h held).pos room
    have balance := (a.agrees key h held).exact room
    refine ⟨by omega, balance, ?_⟩
    intro r here own
    constructor
    -- Less was given back than was taken again, so there is a hold to keep.
    · intro less
      have several : 1 < h.holds := UInt32.lt_iff_toNat_lt.2 (show 1 < h.holds.toNat by omega)
      obtain ⟨down, many⟩ := toNat_pred several
      refine ⟨_, _, release_of_several held (decide_eq_true again) several here own, by omega, ?_⟩
      rw [holder?_setHolds, if_pos rfl]
    -- As much was: the count says one.
    · intro all
      have one : h.holds = 1 := UInt32.toNat_inj.1 (show h.holds.toNat = 1 by omega)
      exact ⟨_, _, release_of_one held one here own, succeeds_handOn t key⟩
  · intro key g ends room
    exact taken_away_or_given_back es ends room

/-- A key is handed to a call, its owner takes it twice more, and the call departs. Of the three
holds one is given back then, and a release gives back the second; the next release ends the
grant. -/
theorem third_hold_ends_the_grant :
    let a : Request := ⟨"k", 1, ⟨"app", "a"⟩, .reentrant, none, 0⟩
    let b : Request := ⟨"k", 2, ⟨"app", "b"⟩, .reentrant, none, 0⟩
    let es : List Event := [.tryAcquire a, .acquire "" b, .release a, .tryAcquire b, .tryAcquire b,
      .depart 0, .release b]
    let t := (opening .reentrant false .absent .widest).run es
    let ms := (opening .reentrant false .absent .widest).history es
    reentries ms 2 = 2 ∧ departures ms 2 = 1 ∧ releases ms 2 = 1 ∧ HasRoom ms 2
      ∧ ∃ next u, t.release b = (.released 2 next, u) ∧ Succeeds t "k" next u := by
  intro a b es t ms
  have taken : reentries ms 2 = 2 := by decide +kernel
  have departed : departures ms 2 = 1 := by decide +kernel
  have released : releases ms 2 = 1 := by decide +kernel
  have held : t.holder? "k" = some ⟨b, 2, 1, 0, none⟩ := by decide +kernel
  -- Two re-entries are far from filling the word.
  obtain ⟨-, few, -, law, -⟩ := every_hold_is_given_back_once false .absent .widest es
  have room : HasRoom ms 2 := few 2 (by rw [taken]; decide)
  have all : releases ms 2 + departures ms 2 = reentries ms 2 := by
    rw [taken, departed, released]
  exact ⟨taken, departed, released, room, ((law "k" _ held room).2.2 b rfl rfl).2 all⟩

/-! ## What the law does not say -/

/-- Every grant that ended was released once more than it was taken again. -/
def ReleasedInFull (ms : List Moment) : Prop :=
  ∀ key g, ended key g ∈ grantLog ms → releases ms g = reentries ms g + 1

/-- **A holder who asks for his key again and again** is told each time that he has it once more.
His count is a sum of words. -/
theorem reenters_on_and_on (n : Nat) {t : Table} {r : Request} {h : Holder}
    (again : t.kind = .reentrant) (held : t.holder? r.key = some h)
    (own : r.owner = h.request.owner) :
    let es := List.replicate n (.tryAcquire r)
    (t.run es).holder? r.key = some { h with holds := h.holds + UInt32.ofNat n }
      ∧ holdLog (t.history es) = List.replicate n (.reentered h.grant) := by
  induction n generalizing t h with
  | zero =>
    refine ⟨?_, rfl⟩
    rw [List.replicate_zero, run_nil, held]
    simp
  | succ n ih =>
    let u := t.setHolds r.key ⟨h, t.queue r.key⟩ (h.holds + 1)
    have step : t.step (.tryAcquire r)
        = (.admission (.reentered { h.toGrant with holds := h.holds + 1 }), u) := by
      rw [Table.step, tryAcquire_of_holder again held own]
      rfl
    -- One attempt re-enters and is told as such; the rest is the same run from a holder with one
    -- hold more.
    have told : Moment.holdEvent? ⟨t, .tryAcquire r⟩ = some (.reentered h.grant) := by
      rw [Moment.holdEvent?, Moment.outcome, step]
      rfl
    have next : u.holder? r.key = some { h with holds := h.holds + 1 } := by
      rw [holder?_setHolds, if_pos rfl]
    obtain ⟨holder, log⟩ := ih (t := u) again next own
    have sum : h.holds + 1 + UInt32.ofNat n = h.holds + UInt32.ofNat (n + 1) := by
      rw [UInt32.ofNat_add, UInt32.add_comm (UInt32.ofNat n), UInt32.add_assoc]
      rfl
    constructor
    · rw [List.replicate_succ, run_cons, step, holder, sum]
    · rw [List.replicate_succ, List.replicate_succ, history, holdLog, List.filterMap_cons_some told,
        step]
      exact congrArg _ log

/-- From the beginning: the first time makes him the holder. -/
theorem asks_on_and_on (leased : Bool) (reaper : Reaper) (horizon : Horizon) (r : Request)
    (n : Nat) :
    let start := opening .reentrant leased reaper horizon
    let es := List.replicate (n + 1) (.tryAcquire r)
    (start.run es).holder? r.key = some { start.newHolder r with holds := 1 + UInt32.ofNat n }
      ∧ holdLog (start.history es) = List.replicate n (.reentered 1) := by
  intro start es
  have first : (start.step (.tryAcquire r)).2.holder? r.key = some (start.newHolder r) :=
    (holder?_install ..).trans (if_pos rfl)
  exact reenters_on_and_on n rfl first rfl

/-- A release ends a grant whose count is not above one, be it that the count says none. -/
theorem ended_of_release {t : Table} {r : Request} {h : Holder} (held : t.holder? r.key = some h)
    (own : r.owner = h.request.owner) (few : ¬ 1 < h.holds) :
    Moment.holdEvent? ⟨t, .release r⟩ = some (.released h.grant)
      ∧ ended r.key h.grant ∈ Moment.grantEvents ⟨t, .release r⟩ := by
  have last : (t.reentrant && decide (1 < h.holds)) = false := by
    rw [decide_eq_false few, Bool.and_false]
  have released := release_of_last (slot_of_holder held) (sameOwner_of_owner_eq own) last
  have step : t.step (.release r) = (t.release r).map .release id := rfl
  rw [Moment.holdEvent?, Moment.grantEvents, Moment.outcome, step, released]
  exact ⟨rfl, List.mem_cons_self⟩

/-- **A key may be free again before all is released.** One owner asks as often as the word has
values: the last time he is told of no hold at all, and a single release frees the key. A key is
handed to a call, its owner takes it once more, and the call departs: again a single release frees
the key. And where a grant is taken away there is no release at all. -/
theorem key_is_freed_before_all_is_released :
    let a : Request := ⟨"k", 1, ⟨"app", "a"⟩, .reentrant, none, 0⟩
    let b : Request := ⟨"k", 2, ⟨"app", "b"⟩, .reentrant, none, 0⟩
    let start := opening .reentrant false .absent .widest
    let full : List Event := List.replicate 4294967295 (.tryAcquire a)
    (∃ h g, (start.run full).holder? "k" = some h ∧ h.holds.toNat = 4294967295
        ∧ ((start.run full).tryAcquire a).1 = .reentered g ∧ g.holds.toNat = 0)
      ∧ ¬ ReleasedInFull (start.history (full ++ [.tryAcquire a] ++ [.release a]))
      ∧ ¬ ReleasedInFull (start.history
        [.tryAcquire a, .acquire "" b, .release a, .tryAcquire b, .depart 0, .release b])
      ∧ ¬ ReleasedInFull (start.history [.tryAcquire a, .tryAcquire a, .revoke "k" 1]) := by
  intro a b start full
  refine ⟨?_, ?_, ?_, ?_⟩
  -- The run is too long to be computed, but its count and its log are known.
  · have held := (asks_on_and_on false .absent .widest a 4294967294).1
    have told := tryAcquire_of_holder (kind_run _) held rfl
    have most : (1 + UInt32.ofNat 4294967294).toNat = 4294967295 := by decide
    have none : (1 + UInt32.ofNat 4294967294 + 1).toNat = 0 := by decide
    exact ⟨_, _, held, most, congrArg Prod.fst told, none⟩
  · intro all
    have more : full ++ [.tryAcquire a] = List.replicate (4294967295 + 1) (.tryAcquire a) :=
      List.replicate_succ'.symm
    rw [more, history_concat] at all
    obtain ⟨held, log⟩ := asks_on_and_on false .absent .widest a 4294967295
    -- The count says zero, so there is nothing to keep.
    obtain ⟨told, ends⟩ := ended_of_release held rfl (by decide)
    have once := all "k" 1 (by rw [grantLog_concat]; exact List.mem_append_right _ ends)
    rw [releases, reentries, count_concat, count_concat, told, log, List.count_replicate_self,
      List.count_replicate] at once
    exact absurd once (by decide)
  · intro all
    have ends : ended "k" 2 ∈ grantLog (start.history
        [.tryAcquire a, .acquire "" b, .release a, .tryAcquire b, .depart 0, .release b]) := by
      decide +kernel
    exact absurd (all "k" 2 ends) (by decide +kernel)
  · intro all
    have ends : ended "k" 1 ∈ grantLog (start.history
        [.tryAcquire a, .tryAcquire a, .revoke "k" 1]) := by
      decide +kernel
    exact absurd (all "k" 1 ends) (by decide +kernel)

end Table

end KeyedLocks
