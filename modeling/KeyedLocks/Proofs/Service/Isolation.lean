/-
No traffic from one key or kind to another.

Take out of a session every step that is about another pair of kind and key, and keep those of
the clock, the end, and those on the pair itself. Nobody who takes one of the steps that are
left is told anything else, and the listing shows the same of the pair after each of them
(`traffic_elsewhere_is_not_seen`). The two sessions have little else in common: grants and tickets
have other numbers, and the delay queue holds other records in another order.

What they have in common is the side of the key in the table of the kind (`Session.side`). A
step on another pair leaves it as it was; any other step takes equal sides to equal sides and
tells the same, and what the listing shows is read off the side.
-/
import KeyedLocks.Proofs.Table.Apart

set_option autoImplicit false

namespace KeyedLocks

/-! ## What a listing shows, read off the side -/

/-- How many wait. -/
def Side.waiting (s : Side) : Nat := (s.callers.filterMap fun c => c.bind Caller.wants?).length

/-- What a listing shows of a key. -/
def Side.heldKey? (s : Side) (key : String) : Option Table.HeldKey :=
  s.holder.map fun h =>
    ⟨key, h.request.owner, h.request.identity, h.holds, s.waiting, s.scene.now - h.acquiredAt,
      h.expiresAt.map fun at_ => at_ - s.scene.now⟩

namespace Table

variable {t u : Table} {key : String} {tickets : List (Option Nat)}

/-- As many wait on the side of a key as in its queue. -/
theorem waiting_side (f : t.Ticketed key tickets) (q : t.Queued) :
    (t.side key tickets).waiting = t.waiting key := by
  have same : (fun n => (t.caller key n).bind Caller.wants?)
      = fun n => (t.waiter? n).map Waiter.request := by
    funext n
    exact t.wants?_caller key n
  rw [Side.waiting, waiting, f.queue_eq q, side, List.filterMap_map]
  change (tickets.filterMap fun n => (t.caller key n).bind Caller.wants?).length = _
  rw [same, ← List.map_filterMap, List.length_map]

/-- What a listing shows of a key can be read off its side. -/
theorem filter_snapshot (f : t.Ticketed key tickets) (q : t.Queued) :
    t.snapshot.filter (fun h => h.key = key) = ((t.side key tickets).heldKey? key).toList := by
  have shown : t.snapshot.filter (fun h => h.key = key)
      = (t.slots.entries.filter fun e => e.1 = key).map fun e => HeldKey.ofSlot t.now e.1 e.2 := by
    rw [snapshot, List.filter_map]
    rfl
  rw [shown, KeyMap.filter_entries, List.map_map, Side.heldKey?, waiting_side f q]
  -- A key has one slot at most, and the entry is made from it.
  cases held : t.slots.get? key with
  | none =>
    rw [side, holder?_of_no_slot held]
    rfl
  | some slot =>
    rw [side, holder?_of_slot held, waiting, queue_of_slot held]
    rfl

end Table

namespace Session

variable {s s' : Session} {kind : LockKind} {key : String}

/-- What a session shows of a pair of kind and key. -/
def side (s : Session) (kind : LockKind) (key : String) : Side :=
  (s.service.table kind).side key (s.tickets kind key)

/-- What is known of a session between steps: every table is in order, with the tickets of the
requests to wait for each of its keys. -/
def Regular (s : Session) : Prop := ∀ kind, (s.service.table kind).Regular (s.tickets kind)

/-- Nothing is due in any table. -/
def Still (s : Session) : Prop := ∀ kind, (s.service.table kind).isDue = false

/-- **The entry of a pair** is read off its side. -/
theorem entry_eq (r : s.Regular) (kind : LockKind) (key : String) :
    s.entry kind key = ((s.side kind key).heldKey? key).toList.map fun h => (kind, h) := by
  have own : (s.service.table kind).snapshot.filter (fun h => h.key = key)
      = ((s.side kind key).heldKey? key).toList :=
    Table.filter_snapshot ((r kind).ticketed key) (r kind).toQueued
  have each : ∀ k, ((s.service.table k).snapshot.map fun h => (k, h)).filter
      (fun e => e.1 = kind && e.2.key = key)
      = if k = kind then ((s.side kind key).heldKey? key).toList.map fun h => (kind, h)
        else [] := by
    intro k
    rw [← own, List.filter_map]
    by_cases same : k = kind
    · subst same
      rw [if_pos rfl]
      refine congrArg _ (List.filter_congr ?_)
      intro h _
      simp
    · rw [if_neg same, List.filter_eq_nil_iff.2]
      · rfl
      · intro h _
        simp [same]
  -- Every kind is listed once, so the pair is looked for in the table of its kind only.
  have once : ∀ l : List (LockKind × Table.HeldKey),
      (LockKind.all.flatMap fun k => if k = kind then l else []) = l := by
    intro l
    cases kind <;> simp [LockKind.all]
  rw [entry, Service.status, List.filter_flatMap]
  simp only [each]
  exact once _

/-! ## What a step does to the service -/

/-- The session with another table for a kind. -/
def setTable (s : Session) (kind : LockKind) (t : Table) : Session :=
  { s with service := s.service.setTable t kind }

theorem act_tryLock (s : Session) (q : Request) :
    s.act (.tryLock q) = (.response ((s.service.table q.kind).tryLock q).1,
      s.setTable q.kind ((s.service.table q.kind).tryLock q).2) := rfl

theorem act_unlock (s : Session) (q : Request) :
    s.act (.unlock q) = (.response ((s.service.table q.kind).unlock q).1,
      s.setTable q.kind ((s.service.table q.kind).unlock q).2) := rfl

theorem act_lock (s : Session) (q : Request) :
    s.act (.lock q) = (((s.service.table q.kind).lock Service.stopToken q).1.told,
      ⟨s.service.setTable ((s.service.table q.kind).lock Service.stopToken q).2 q.kind,
        s.waits ++ [⟨q.kind, q.key,
          ((s.service.table q.kind).lock Service.stopToken q).1.ticket?⟩]⟩) := rfl

/-- Whoever looks at a call by a name that has a ticket looks at the call of the ticket. -/
theorem act_poll {call : CallName} {n : Nat} (named : s.ticket? call = some n) :
    s.act (.poll call) = (((s.service.table call.kind).pollLock n).1.told,
      s.setTable call.kind ((s.service.table call.kind).pollLock n).2) := by
  simp only [act, named]
  rfl

/-- Whoever departs by a name that has a ticket departs from the call of the ticket. -/
theorem act_depart {call : CallName} {n : Nat} (named : s.ticket? call = some n) :
    s.act (.depart call)
      = (if ((s.service.table call.kind).call? n).isSome then .done else .unknown,
        s.setTable call.kind ((s.service.table call.kind).depart n).2) := by
  simp only [act, named]
  rfl

/-- Nobody is behind a name that was not given. -/
theorem act_of_no_ticket {call : CallName} (named : s.ticket? call = none) :
    s.act (.poll call) = (.unknown, s) ∧ s.act (.depart call) = (.unknown, s) := by
  simp only [act, named, and_self]

/-- The tickets after a request to wait. -/
theorem tickets_lock (s : Session) (q : Request) (kind : LockKind) :
    (s.act (.lock q)).2.tickets kind = if q.kind = kind then
        fun key => if q.key = key then
          s.tickets kind key ++ [((s.service.table q.kind).lock Service.stopToken q).1.ticket?]
        else s.tickets kind key
      else s.tickets kind := by
  funext key
  rw [act_lock, tickets, List.filter_append, List.map_append]
  by_cases kinds : q.kind = kind
  · rw [if_pos kinds]
    by_cases keys : q.key = key
    · simp [kinds, keys, tickets]
    · simp [kinds, keys, tickets]
  · simp [kinds, tickets]

/-! ## Every step keeps the tables in order -/

theorem Regular.setTable (r : s.Regular) {t : Table} (after : t.Regular (s.tickets kind)) :
    (s.setTable kind t).Regular := by
  intro k
  change ((s.service.setTable t kind).table k).Regular (s.tickets k)
  rw [Service.table_setTable]
  by_cases same : k = kind
  · rw [if_pos same, same]
    exact after
  · rw [if_neg same]
    exact r k

theorem Regular.mapTables (r : s.Regular) {f : Table → Table}
    (after : ∀ {t : Table} {ts}, t.Regular ts → (f t).Regular ts) :
    Regular { s with service := s.service.mapTables f } := by
  intro k
  change ((s.service.mapTables f).table k).Regular (s.tickets k)
  rw [Service.table_mapTables]
  exact after (r k)

/-- Whatever is done in a session, its tables stay in order. Only a request to wait adds a ticket.
-/
theorem Regular.act (r : s.Regular) (e : ServiceEvent) : (s.act e).2.Regular := by
  cases e with
  | tryLock q =>
    rw [act_tryLock, Table.tryLock_snd]
    exact r.setTable ((r q.kind).way (Table.way_tryAcquire _ q) rfl)
  | unlock q =>
    rw [act_unlock, Table.unlock_snd]
    exact r.setTable ((r q.kind).way (Table.way_release _ q) rfl)
  | lock q =>
    intro k
    rw [tickets_lock, act_lock, Service.table_setTable]
    -- The ticket belongs to one key of one kind; for all others there is nothing new.
    by_cases same : k = q.kind
    · subst same
      rw [if_pos rfl, if_pos rfl]
      exact (r q.kind).lock Service.stopToken q
    · rw [if_neg same, if_neg (Ne.symm same)]
      exact r k
  | poll call =>
    cases named : s.ticket? call with
    | none =>
      rw [(act_of_no_ticket named).1]
      exact r
    | some n =>
      rw [act_poll named, Table.pollLock_snd]
      exact r.setTable ((r call.kind).way (Table.way_poll (r call.kind).toQueued n) rfl)
  | depart call =>
    cases named : s.ticket? call with
    | none =>
      rw [(act_of_no_ticket named).2]
      exact r
    | some n =>
      rw [act_depart named]
      exact r.setTable ((r call.kind).way (Table.way_depart (r call.kind).toQueued n) rfl)
  | advance ms => exact r.mapTables fun h => h.advance ms
  | jump ms => exact r.mapTables fun h => h.tick _
  | stop => exact r.mapTables fun h => h.stop _

theorem Regular.settle (r : s.Regular) : s.settle.Regular := r.mapTables fun h => h.settle

/-- The tables stay in order when all that is due is looked after as well. -/
theorem Regular.step (r : s.Regular) (e : ServiceEvent) : (s.step e).2.Regular := (r.act e).settle

/-- After that nothing is due. -/
theorem still_settle (s : Session) : s.settle.Still := by
  intro k
  change ((s.service.mapTables Table.settle).table k).isDue = false
  rw [Service.table_mapTables]
  exact Table.isDue_settle _

/-! ## Steps on other pairs -/

/-- A table that takes a step on another pair shows the same of a key. -/
theorem side_setTable_of_way (r : s.Regular) {k : LockKind} {a : String}
    (apart : k = kind → a ≠ key) {t : Table} {e : Event} {o : Outcome}
    (w : Table.Way (s.service.table k) e o t)
    (answers : o ≠ .done) (aims : ∀ b, (s.service.table k).aim? e = some b → b = a) :
    (s.setTable k t).side kind key = s.side kind key := by
  change ((s.service.setTable t k).table kind).side key (s.tickets kind key) = s.side kind key
  rw [Service.table_setTable]
  -- In the table of another kind the side is not touched. In the same table the step is aimed at
  -- another key.
  by_cases same : kind = k
  · subst same
    rw [if_pos rfl]
    refine w.side_other (r kind).toSound ((r kind).ticketed key) answers ?_
    intro b aim
    rw [aims b aim]
    exact apart rfl
  · rw [if_neg same]
    rfl

/-- The ticket behind a name leads to a call for the key of the name, if it leads to one. -/
theorem key_of_ticket (r : s.Regular) {call : CallName} {n : Nat}
    (named : s.ticket? call = some n) (b : String)
    (aim : ((s.service.table call.kind).call? n).map (fun c => c.request.key) = some b) :
    b = call.key := by
  obtain ⟨c, found, rfl⟩ := Option.map_eq_some_iff.1 aim
  obtain ⟨hc, rfl⟩ := (r call.kind).call?_eq_some_iff.1 found
  have place : (s.tickets call.kind call.key)[call.number]? = some (some c.ticket) :=
    Option.join_eq_some_iff.1 named
  exact (((r call.kind).ticketed call.key).own c hc).1 (List.mem_of_getElem? place)

/-- **A step on another pair** leaves what a session shows of a pair as it was. -/
theorem side_act_other (r : s.Regular) {e : ServiceEvent} (other : e.concerns kind key = false) :
    (s.act e).2.side kind key = s.side kind key := by
  have apart : ∀ k a, e.about? = some (k, a) → k = kind → a ≠ key := by
    rintro k a about rfl rfl
    rw [ServiceEvent.concerns, about] at other
    simp at other
  cases e with
  | tryLock q =>
    rw [act_tryLock, Table.tryLock_snd]
    refine side_setTable_of_way r (apart _ _ rfl) (Table.way_tryAcquire _ q) ?_ ?_
    · intro h
      cases h
    · exact fun b aim => (Option.some.inj aim).symm
  | unlock q =>
    rw [act_unlock, Table.unlock_snd]
    refine side_setTable_of_way r (apart _ _ rfl) (Table.way_release _ q) ?_ ?_
    · intro h
      cases h
    · exact fun b aim => (Option.some.inj aim).symm
  | lock q =>
    have tickets : (s.act (.lock q)).2.tickets kind key = s.tickets kind key := by
      rw [tickets_lock]
      by_cases same : q.kind = kind
      · rw [if_pos same, if_neg (apart _ _ rfl same)]
      · rw [if_neg same]
    have way := Table.way_acquire (r q.kind).toQueued Service.stopToken q
    -- The new place is one of another pair, so only the table has changed.
    rw [side, tickets, act_lock, Table.lock_snd]
    refine side_setTable_of_way r (apart _ _ rfl) way ?_ ?_
    · intro h
      cases h
    · exact fun b aim => (Option.some.inj aim).symm
  | poll call =>
    cases named : s.ticket? call with
    | none => rw [(act_of_no_ticket named).1]
    | some n =>
      have way := Table.way_poll (r call.kind).toQueued n
      rw [act_poll named, Table.pollLock_snd]
      refine side_setTable_of_way r (apart _ _ rfl) way ?_ (key_of_ticket r named)
      intro h
      cases h
  | depart call =>
    cases named : s.ticket? call with
    | none => rw [(act_of_no_ticket named).2]
    | some n =>
      have way := Table.way_depart (r call.kind).toQueued n
      rw [act_depart named]
      refine side_setTable_of_way r (apart _ _ rfl) way ?_ (key_of_ticket r named)
      intro h
      cases h
  | advance | jump | stop => cases other

/-! ## Steps on the pair -/

/-- The side of a key in a table that was put there is the side in that table. -/
theorem side_setTable_self (s : Session) (kind : LockKind) (key : String) (t : Table) :
    (s.setTable kind t).side kind key = t.side key (s.tickets kind key) := by
  change ((s.service.setTable t kind).table kind).side key (s.tickets kind key) = _
  rw [Service.table_setTable, if_pos rfl]

/-- On the pair itself, what a step tells and what it leaves are read off the side alone. This is so
for each of the steps that follow. -/
theorem side_act_tryLock (r : s.Regular) (q : Request) :
    ((s.act (.tryLock q)).1, (s.act (.tryLock q)).2.side q.kind q.key)
      = ((s.side q.kind q.key).tryLock q).map .response id := by
  rw [act_tryLock, side_setTable_self, side, Table.side_tryLock (r q.kind).toSound]
  rfl

theorem side_act_unlock (r : s.Regular) (q : Request) :
    ((s.act (.unlock q)).1, (s.act (.unlock q)).2.side q.kind q.key)
      = ((s.side q.kind q.key).unlock q).map .response id := by
  rw [act_unlock, side_setTable_self, side,
    Table.side_unlock (r q.kind).toSound q ((r q.kind).ticketed q.key)]
  rfl

theorem side_act_lock (r : s.Regular) (q : Request) :
    ((s.act (.lock q)).1, (s.act (.lock q)).2.side q.kind q.key)
      = (s.side q.kind q.key).lock Service.stopToken q := by
  have tickets : (s.act (.lock q)).2.tickets q.kind q.key = s.tickets q.kind q.key
      ++ [((s.service.table q.kind).lock Service.stopToken q).1.ticket?] := by
    rw [tickets_lock, if_pos rfl, if_pos rfl]
  rw [side, tickets, act_lock, Service.table_setTable, if_pos rfl]
  exact (Table.side_lock (r q.kind).toSound Service.stopToken q ((r q.kind).ticketed q.key)).symm

section Named

variable {call : CallName}

/-- Behind a name without a ticket there is no call. -/
theorem caller?_of_no_ticket (named : s.ticket? call = none) :
    (s.side call.kind call.key).caller? call.number = none := by
  rw [side, Table.caller?_side, show (s.tickets call.kind call.key)[call.number]?.join = none
    from named]
  rfl

theorem side_act_poll (r : s.Regular) (call : CallName) :
    ((s.act (.poll call)).1, (s.act (.poll call)).2.side call.kind call.key)
      = (s.side call.kind call.key).poll call.number := by
  cases named : s.ticket? call with
  | none => rw [(act_of_no_ticket named).1, Side.poll, caller?_of_no_ticket named]
  | some n =>
    have place := Option.join_eq_some_iff.1 named
    rw [act_poll named, side_setTable_self, side,
      Table.side_poll place (r call.kind).toQueued ((r call.kind).ticketed call.key)]

theorem side_act_depart (r : s.Regular) (call : CallName) :
    ((s.act (.depart call)).1, (s.act (.depart call)).2.side call.kind call.key)
      = (s.side call.kind call.key).depart call.number := by
  cases named : s.ticket? call with
  | none => rw [(act_of_no_ticket named).2, Side.depart, caller?_of_no_ticket named]
  | some n =>
    have place := Option.join_eq_some_iff.1 named
    rw [act_depart named, side_setTable_self, side,
      Table.side_depart place (r call.kind).toSound ((r call.kind).ticketed call.key)]

end Named

/-- The side of a key is found in its own table when something happens to all of them. -/
theorem side_mapTables (s : Session) (f : Table → Table) (kind : LockKind) (key : String) :
    side { s with service := s.service.mapTables f } kind key
      = (f (s.service.table kind)).side key (s.tickets kind key) := by
  change ((s.service.mapTables f).table kind).side key (s.tickets kind key) = _
  rw [Service.table_mapTables]

/-- **A step on a pair**, of the clock or of the end tells the same in two sessions that show the
same of the pair, and afterwards they show the same. -/
theorem act_congr (r : s.Regular) (r' : s'.Regular) (same : s.side kind key = s'.side kind key)
    {e : ServiceEvent} (here : e.concerns kind key = true) :
    (s.act e).1 = (s'.act e).1
      ∧ (s.act e).2.side kind key = (s'.act e).2.side kind key := by
  have pair : ∀ k a, e.about? = some (k, a) → k = kind ∧ a = key := by
    intro k a about
    rw [ServiceEvent.concerns, about] at here
    simpa using here
  -- What is told, and the side afterwards, are the same function of the side before.
  have alone : ∀ f : Side → Told × Side,
      (∀ v : Session, v.Regular →
        ((v.act e).1, (v.act e).2.side kind key) = f (v.side kind key)) →
      (s.act e).1 = (s'.act e).1
        ∧ (s.act e).2.side kind key = (s'.act e).2.side kind key := by
    intro f eq
    have both := (eq s r).trans ((congrArg f same).trans (eq s' r').symm)
    exact Prod.mk.inj both
  cases e with
  | tryLock q =>
    obtain ⟨rfl, rfl⟩ := pair _ _ rfl
    exact alone (fun v => (v.tryLock q).map .response id) fun v h => side_act_tryLock h q
  | unlock q =>
    obtain ⟨rfl, rfl⟩ := pair _ _ rfl
    exact alone (fun v => (v.unlock q).map .response id) fun v h => side_act_unlock h q
  | lock q =>
    obtain ⟨rfl, rfl⟩ := pair _ _ rfl
    exact alone (fun v => v.lock Service.stopToken q) fun v h => side_act_lock h q
  | poll call =>
    obtain ⟨rfl, rfl⟩ := pair _ _ rfl
    exact alone (fun v => v.poll call.number) fun v h => side_act_poll h call
  | depart call =>
    obtain ⟨rfl, rfl⟩ := pair _ _ rfl
    exact alone (fun v => v.depart call.number) fun v h => side_act_depart h call
  | advance ms =>
    refine ⟨rfl, ?_⟩
    change side { s with service := s.service.mapTables _ } kind key
      = side { s' with service := s'.service.mapTables _ } kind key
    rw [side_mapTables, side_mapTables]
    exact (r kind).side_advance_congr (r' kind) same ms
  | jump ms =>
    refine alone (fun v => (.done, v.tick (ms * millisecond))) ?_
    intro v _
    change (_, side { v with service := v.service.mapTables _ } kind key) = _
    rw [side_mapTables, Table.jump, Table.side_tick]
    rfl
  | stop =>
    refine alone (fun v => (.done, v.stop Service.stopToken)) ?_
    intro v _
    change (_, side { v with service := v.service.mapTables _ } kind key) = _
    rw [side_mapTables, Table.side_stop]
    rfl

/-! ## Looking after what is due -/

/-- Equal sides stay equal when all that is due is looked after. -/
theorem side_settle_congr (r : s.Regular) (r' : s'.Regular)
    (same : s.side kind key = s'.side kind key) :
    s.settle.side kind key = s'.settle.side kind key := by
  change side { s with service := s.service.mapTables _ } kind key
    = side { s' with service := s'.service.mapTables _ } kind key
  rw [side_mapTables, side_mapTables]
  exact (r kind).side_settle_congr (r' kind) same

/-- A step on another pair leaves the side as it is, and as nothing was due before, nothing of the
pair is due after it. -/
theorem side_step_other (r : s.Regular) (still : s.Still) {e : ServiceEvent}
    (other : e.concerns kind key = false) : (s.step e).2.side kind key = s.side kind key := by
  -- Nothing was due before, so the side is at rest already.
  have rest : s.settle.side kind key = s.side kind key := by
    change side { s with service := s.service.mapTables _ } kind key = _
    rw [side_mapTables, Table.settle_of_not_due (still kind)]
    rfl
  change (s.act e).2.settle.side kind key = _
  rw [side_settle_congr (r.act e) r (side_act_other r other), rest]

/-- A step on the pair tells the same on equal sides and leaves equal sides. -/
theorem step_congr (r : s.Regular) (r' : s'.Regular) (same : s.side kind key = s'.side kind key)
    {e : ServiceEvent} (here : e.concerns kind key = true) :
    (s.step e).1 = (s'.step e).1
      ∧ (s.step e).2.side kind key = (s'.step e).2.side kind key := by
  obtain ⟨told, after⟩ := act_congr r r' same here
  exact ⟨told, side_settle_congr (r.act e) (r'.act e) after⟩

/-! ## Two sessions -/

/-- Two sessions that show the same of a pair show the same of it after every step on it, though
only one of them takes the steps on other pairs. -/
theorem filter_sights (r : s.Regular) (r' : s'.Regular) (still : s.Still)
    (same : s.side kind key = s'.side kind key) (es : List ServiceEvent) :
    (s.sights kind key es).filter (fun m => m.event.concerns kind key)
      = s'.sights kind key (es.filter fun e => e.concerns kind key) := by
  -- The second session stands still while the first takes a step on another pair. What carries
  -- the induction is that the sides stay equal.
  induction es generalizing s s' with
  | nil => rfl
  | cons e es ih =>
    have next : (s.step e).2.Still := still_settle _
    rw [sights]
    cases here : e.concerns kind key with
    | false =>
      have unseen := side_step_other r still here
      rw [List.filter_cons_of_neg (by simp [here]), List.filter_cons_of_neg (by simp [here])]
      exact ih (r.step e) r' next (unseen.trans same)
    | true =>
      obtain ⟨told, after⟩ := step_congr r r' same here
      have entries : (s.step e).2.entry kind key = (s'.step e).2.entry kind key := by
        rw [entry_eq (r.step e), entry_eq (r'.step e), after]
      rw [List.filter_cons_of_pos (by simp [here]), List.filter_cons_of_pos (by simp [here]),
        sights, told, entries]
      exact congrArg _ (ih (r.step e) (r'.step e) next after)

/-- A session before anything happened is in order. -/
theorem regular_start (horizon : Horizon) : (start horizon).Regular := by
  have fresh : ∀ (kind : LockKind) (leased : Bool) (reaper : Reaper),
      (Table.opening kind leased reaper horizon).Regular ((start horizon).tickets kind) := by
    intro kind leased reaper
    have sound : (Table.opening kind leased reaper horizon).Sound := Table.sound_run []
    refine ⟨sound, Table.recorded_run [], fun key => ⟨.nil, ?_, ?_⟩⟩
    -- There are no tickets and no calls yet.
    · intro n hn
      cases hn
    · intro c hc
      cases hc
  intro kind
  cases kind with
  | simple => exact fresh .simple false .absent
  | reentrant => exact fresh .reentrant false .absent
  | timeout => exact fresh .timeout true .running

/-- At the start nothing is due. -/
theorem still_start (horizon : Horizon) : (start horizon).Still := by
  intro kind
  cases kind <;> rfl

/-- **No traffic from one key or kind to another.** In every session of a service, take out the
steps that are about another pair of kind and key than a given one. Then whoever takes one of
the steps that are left is told the same as before, and after each of them the listing shows
the same of the pair. -/
theorem traffic_elsewhere_is_not_seen (horizon : Horizon) (kind : LockKind) (key : String)
    (es : List ServiceEvent) :
    ((start horizon).sights kind key es).filter (fun m => m.event.concerns kind key)
      = (start horizon).sights kind key (es.filter fun e => e.concerns kind key) :=
  filter_sights (regular_start horizon) (regular_start horizon) (still_start horizon) rfl es

end Session

end KeyedLocks
