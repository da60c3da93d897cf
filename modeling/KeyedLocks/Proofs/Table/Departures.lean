/-
The order of departures does not matter.

Several callers depart one after the other, while time stands still and nobody looks after
deadlines. Who departs with a grant that holds its key gives a hold back; if it was the last one
the key goes to the first in the queue, who may be another one that departs, and so on. Whatever
the order, the tables that it leads to differ in nothing but numbers of grants and records of
grants that have ended (`order_of_departures_does_not_matter`).

A table is looked at key by key. On the side of a key a departure is the departure from one place,
or nothing (`Regular.side_depart`), and those can be swapped (`Side.depart_comm`). The side shows
the holder and who waits or has a grant; what is in a grant it does not show. A call gets its
grant once at most, and as all departures happen in one scene the grant is the same but for its
number (`ServedIn`).
-/
import KeyedLocks.Proofs.Table.Apart
import KeyedLocks.Proofs.Table.SideDepartures

set_option autoImplicit false

namespace KeyedLocks

/-- A call without the number of its grant. -/
def Call.unnumbered (c : Call) : Call :=
  { c with permit := c.permit.map fun g => { g with id := 0 } }

namespace Table

variable {t u v : Table} {key : String} {n : Nat}

/-! ## The same but for numbers -/

/-- The call of a ticket without the number of its grant, and where it stands. -/
def standing? (t : Table) (n : Nat) : Option (Call × Footing) :=
  (t.call? n).map fun c => (c.unnumbered, t.footing c.request.key c)

/-- The records of the grant that a key is held under: the key, and the deadline. -/
def leases (t : Table) (key : String) : List (String × Nat) :=
  (t.delays.records.filter fun r => t.grant? key = some r.grant).map fun r => (r.key, r.deadline)

/-- **Two tables that differ in numbers of grants at most, and in records of grants that have
ended.** -/
structure SameButNumbers (t u : Table) : Prop where
  scene : t.scene = u.scene
  nextTicket : t.nextTicket = u.nextTicket
  holders : ∀ key, (t.holder? key).map Holder.unnumbered = (u.holder? key).map Holder.unnumbered
  queues : ∀ key, t.queue key = u.queue key
  calls : ∀ n, t.standing? n = u.standing? n
  leases : ∀ key, t.leases key = u.leases key

/-- The records of a grant that holds a key are told by the deadline of the holder. -/
theorem leases_eq (r : t.Recorded) (s : t.Scheduled) (key : String) :
    t.leases key = ((t.holder? key).bind Holder.expiresAt).toList.map fun d => (key, d) := by
  -- The record of another grant does not count, so it is left out.
  have none_left : (∀ record ∈ t.delays.records, t.grant? key ≠ some record.grant) →
      t.leases key = [] := by
    intro apart
    rw [leases, List.filter_eq_nil_iff.2, List.map_nil]
    intro record member mine
    exact apart record member (of_decide_eq_true mine)
  cases held : t.holder? key with
  | none =>
    refine none_left ?_
    intro record _ mine
    rw [grant?, held] at mine
    cases mine
  | some h =>
    have grant : t.grant? key = some h.grant := grant?_of_holder held
    rw [Option.bind_some]
    cases due : h.expiresAt with
    | none =>
      refine none_left ?_
      intro record member mine
      have number : h.grant = record.grant := Option.some.inj (grant.symm.trans mine)
      have own := (s.record_holder record member key h held number).2
      rw [due] at own
      cases own
    | some d =>
      obtain ⟨seq, only⟩ := r.filter_eq s held due
      -- Of all the records there is one with the number of the holder.
      have same : t.delays.records.filter (fun r => t.grant? key = some r.grant)
          = t.delays.records.filter fun r => r.grant = h.grant := by
        refine List.filter_congr ?_
        intro record _
        rw [grant, decide_eq_decide, Option.some.injEq]
        exact eq_comm
      rw [leases, same, only]
      rfl

/-! ## What departures do to a call -/

/-- The grant that a request would get now, without its number. -/
def offer (t : Table) (r : Request) : Grant := (t.newHolder r).unnumbered.toGrant

theorem offer_congr (scene : u.scene = t.scene) (r : Request) : u.offer r = t.offer r := by
  have leased : u.leased = t.leased := congrArg Scene.leased scene
  have now : u.now = t.now := congrArg Scene.now scene
  have horizon : u.horizon = t.horizon := congrArg Scene.horizon scene
  simp only [offer, newHolder, expiry, leased, now, horizon]
  rfl

/-- A call as it was, or with the grant that it would get now. -/
def ServedIn (t : Table) (c d : Call) : Prop :=
  d = c ∨ c.permit = none ∧ d.unnumbered = { c with permit := some (t.offer c.request) }

namespace ServedIn

variable {c d e : Call}

/-- A call that is served keeps its ticket. -/
theorem ticket_eq (served : t.ServedIn c d) : d.ticket = c.ticket := by
  rcases served with rfl | ⟨-, same⟩
  · rfl
  · have ticket := congrArg Call.ticket same
    exact ticket

theorem permit_ne_none {g : Grant} (same : d.unnumbered = { c with permit := some g }) :
    d.permit ≠ none := by
  intro bare
  have lost : d.unnumbered.permit = some g := congrArg Call.permit same
  rw [Call.unnumbered, bare] at lost
  cases lost

/-- A call is served once. -/
theorem trans (first : t.ServedIn c d) (scene : u.scene = t.scene) (second : u.ServedIn d e) :
    t.ServedIn c e := by
  rcases first with rfl | ⟨bare, same⟩
  · rcases second with rfl | ⟨bare, same⟩
    · exact .inl rfl
    · exact .inr ⟨bare, by rw [same, offer_congr scene]⟩
  -- Who was served has a grant, and who has one is not served again.
  · rcases second with rfl | ⟨bare', -⟩
    · exact .inr ⟨bare, same⟩
    · exact absurd bare' (permit_ne_none same)

/-- What has become of a call is told by whether it was served. -/
theorem unnumbered_eq (left : t.ServedIn c d) (right : t.ServedIn c e)
    (bare : d.permit = none ↔ e.permit = none) : d.unnumbered = e.unnumbered := by
  rcases left with rfl | ⟨none, same⟩
  · rcases right with rfl | ⟨none, same⟩
    · rfl
    · exact absurd (bare.1 none) (permit_ne_none same)
  · rcases right with rfl | ⟨-, same'⟩
    · exact absurd (bare.2 none) (permit_ne_none same)
    · rw [same, same']

end ServedIn

/-- **A departure serves a call or leaves it as it was.** -/
theorem served_of_depart (q : t.Queued) (n : Nat) :
    ∀ d ∈ (t.depart n).2.calls, ∃ c ∈ t.calls, t.ServedIn c d := by
  have way := way_depart q n
  generalize t.depart n = answer at way
  obtain ⟨a, u⟩ := answer
  dsimp only at way ⊢
  have remains : ∀ {d : Call} {m : Nat}, d ∈ t.calls.filter (fun c => c.ticket != m) →
      ∃ c ∈ t.calls, t.ServedIn c d :=
    fun hd => ⟨_, (List.mem_filter.1 hd).1, .inl rfl⟩
  cases way with
  | refuse => exact fun d hd => ⟨d, hd, .inl rfl⟩
  | leave c =>
    rw [calls_withdraw]
    exact fun d => remains
  | lapse | keep => exact fun d => remains
  | giveBack c g slot hc ready held =>
    rw [calls_handOn]
    intro d hd
    obtain ⟨c', member, rfl⟩ := List.mem_map.1 hd
    have old := (List.mem_filter.1 member).1
    refine ⟨c', old, ?_⟩
    cases waiting : slot.waiters with
    | nil => exact .inl rfl
    | cons w ws =>
      -- Only the first in the queue is served, and whoever is in a queue has no grant yet.
      by_cases first : w.ticket = c'.ticket
      · right
        have queued : w ∈ t.queue c.request.key := by
          rw [queue_of_slot held, waiting]
          exact List.mem_cons_self
        obtain ⟨d, hd, bare, rfl, -⟩ := q.exists_call_of_mem queued
        obtain rfl := q.call_unique hd old first
        refine ⟨bare, ?_⟩
        simp only [Call.unnumbered, Call.take, grantFor, Call.toWaiter, List.head?_cons,
          Option.map_some, Option.bind_some, if_true, Option.some_or]
        rfl
      · left
        simp [Call.take, grantFor, first]

/-! ## Departures on the side of a key -/

namespace Regular

variable {ts : String → List (Option Nat)}

/-- A departure keeps a table in order. -/
theorem depart (r : t.Regular ts) (n : Nat) : (t.depart n).2.Regular ts :=
  r.way (way_depart r.toQueued n) rfl

/-- **A departure on the side of a key** is the departure from the place of the ticket. If the
ticket is not for the key there is no such place, and nothing happens there. -/
theorem side_depart (r : t.Regular ts) (key : String) (n : Nat) :
    (t.depart n).2.side key (ts key)
      = ((t.side key (ts key)).depart ((ts key).idxOf (some n))).2 := by
  by_cases here : some n ∈ ts key
  · have place : (ts key)[(ts key).idxOf (some n)]? = some (some n) :=
      List.getElem?_idxOf here
    rw [Table.side_depart place r.toSound (r.ticketed key)]
  -- A ticket that is not among those of the key is no call for it, so nothing happens on the side.
  · have outside : (t.side key (ts key)).caller? ((ts key).idxOf (some n)) = none := by
      rw [caller?_side, List.idxOf_eq_length here, List.getElem?_eq_none (Nat.le_refl _)]
      rfl
    have nothing : ((t.side key (ts key)).depart ((ts key).idxOf (some n))).2
        = t.side key (ts key) := by
      rw [Side.depart, outside]
    rw [nothing]
    refine (way_depart r.toQueued n).side_other r.toSound (r.ticketed key) (by simp) ?_
    intro k aim same
    obtain ⟨c, found, rfl⟩ := Option.map_eq_some_iff.1 aim
    obtain ⟨hc, rfl⟩ := r.call?_eq_some_iff.1 found
    exact here (((r.ticketed key).own c hc).2 same)

end Regular

/-! ## Departures one after the other -/

/-- The callers of some calls depart, one after the other. -/
def departAll (t : Table) (ns : List Nat) : Table := t.run (ns.map .depart)

section DepartAll

variable {ts : String → List (Option Nat)}

/-- They depart one by one. -/
theorem departAll_cons (t : Table) (n : Nat) (ns : List Nat) :
    t.departAll (n :: ns) = (t.depart n).2.departAll ns := rfl

/-- Many departures keep a table in order. -/
theorem Regular.departAll (r : t.Regular ts) (ns : List Nat) : (t.departAll ns).Regular ts := by
  induction ns generalizing t with
  | nil => exact r
  | cons n ns ih => exact ih (r.depart n)

theorem Regular.side_departAll (r : t.Regular ts) (key : String) (ns : List Nat) :
    (t.departAll ns).side key (ts key)
      = ns.foldl (fun s n => (s.depart ((ts key).idxOf (some n))).2) (t.side key (ts key)) := by
  induction ns generalizing t with
  | nil => rfl
  | cons n ns ih => rw [departAll_cons, ih (r.depart n), r.side_depart, List.foldl_cons]

/-- **The side of a key** does not show the order of the departures. -/
theorem Regular.side_departAll_perm (r : t.Regular ts) {ns ms : List Nat} (perm : ns.Perm ms)
    (key : String) :
    (t.departAll ns).side key (ts key) = (t.departAll ms).side key (ts key) := by
  rw [r.side_departAll, r.side_departAll]
  exact perm.foldl_eq' (fun _ _ _ _ s => s.depart_comm _ _) _

/-- Nobody draws a ticket, and the scene is the same. -/
theorem depart_aside (q : t.Queued) (n : Nat) :
    (t.depart n).2.nextTicket = t.nextTicket ∧ (t.depart n).2.scene = t.scene := by
  have way := way_depart q n
  refine ⟨?_, way.scene (by simp)⟩
  generalize t.depart n = answer at way
  obtain ⟨a, u⟩ := answer
  dsimp only at way ⊢
  cases way with
  | leave c =>
    obtain ⟨slots, eq⟩ := t.withdraw_eq c
    rw [eq]
  | giveBack c g slot => cases slot.waiters <;> rfl
  | _ => rfl

/-- Departures change neither the next ticket nor the scene. -/
theorem departAll_aside (s : t.Sound) (ns : List Nat) :
    (t.departAll ns).nextTicket = t.nextTicket ∧ (t.departAll ns).scene = t.scene := by
  induction ns generalizing t with
  | nil => exact ⟨rfl, rfl⟩
  | cons n ns ih =>
    obtain ⟨next, scene⟩ := ih (s.way (way_depart s.toQueued n))
    obtain ⟨next', scene'⟩ := depart_aside s.toQueued n
    exact ⟨next.trans next', scene.trans scene'⟩

/-- Every call that is left after departures was there before, and is as it was or was served at
that one moment. -/
theorem served_of_departAll (s : t.Sound) (ns : List Nat) :
    ∀ d ∈ (t.departAll ns).calls, ∃ c ∈ t.calls, t.ServedIn c d := by
  induction ns generalizing t with
  | nil => exact fun d hd => ⟨d, hd, .inl rfl⟩
  | cons n ns ih =>
    intro e he
    have way := way_depart s.toQueued n
    obtain ⟨d, hd, later⟩ := ih (s.way way) e he
    obtain ⟨c, hc, now⟩ := served_of_depart s.toQueued n d hd
    exact ⟨c, hc, now.trans (way.scene (by simp)) later⟩

/-! ## What the sides of all keys tell -/

/-- The tickets of the calls for a key. -/
def ticketsFor (t : Table) (key : String) : List (Option Nat) :=
  (t.calls.filter fun c => c.request.key = key).map fun c => some c.ticket

/-- These are all the tickets of the key, in their order. -/
theorem Queued.ticketed (q : t.Queued) (key : String) : t.Ticketed key (t.ticketsFor key) where
  ascending := by
    rw [ticketsFor, List.pairwise_map]
    refine (q.ascending.sublist List.filter_sublist).imp ?_
    intro a b lt m hm n hn
    rw [← Option.some.inj hm, ← Option.some.inj hn]
    exact lt
  drawn := by
    intro n hn
    obtain ⟨c, hc, same⟩ := List.mem_map.1 hn
    rw [← Option.some.inj same]
    exact q.ticket_lt c (List.mem_filter.1 hc).1
  own := by
    intro c hc
    rw [ticketsFor, List.mem_map]
    constructor
    · rintro ⟨d, hd, same⟩
      obtain ⟨hd, here⟩ := List.mem_filter.1 hd
      rw [← q.call_unique hd hc (Option.some.inj same)]
      exact of_decide_eq_true here
    · intro here
      exact ⟨c, List.mem_filter.2 ⟨hc, decide_eq_true here⟩, rfl⟩

/-- Whoever has no permit waits. -/
theorem footing_eq_waiting_iff (t : Table) (key : String) (c : Call) :
    t.footing key c = .waiting ↔ c.permit = none := by
  cases ready : c.permit with
  | none => simp [footing, ready]
  | some g => simp [footing_ne_waiting ready]

/-- Who waits is told by the side. -/
theorem waiter?_eq (t : Table) (key : String) (n : Nat) :
    t.waiter? (some n)
      = ((t.caller key (some n)).bind Caller.wants?).map fun r => ⟨n, r⟩ := by
  rw [wants?_caller, Option.map_map]
  refine (Option.map_id'.symm.trans (Option.map_congr ?_))
  intro w waits
  obtain ⟨c, found, rfl⟩ := Option.map_eq_some_iff.1 waits
  have listed := (Option.filter_eq_some_iff.1 found).1
  have mine : c.ticket = n := by simpa using List.find?_some listed
  rw [← mine]
  rfl

section Sides

variable (ru : u.Regular ts) (rv : v.Regular ts)
  (sides : ∀ key, u.side key (ts key) = v.side key (ts key))
include ru rv sides

omit ru rv in
/-- On equal sides the same place is taken by the same caller. -/
theorem caller_of_sides {key : String} {n : Option Nat} (member : n ∈ ts key) :
    u.caller key n = v.caller key n :=
  List.map_inj_left.1 (congrArg Side.callers (sides key)) n member

/-- Equal sides have equal queues. -/
theorem queue_of_sides (key : String) : u.queue key = v.queue key := by
  rw [(ru.ticketed key).queue_eq ru.toQueued, (rv.ticketed key).queue_eq rv.toQueued]
  refine List.filterMap_congr ?_
  intro n member
  cases n with
  | none => rfl
  | some n => rw [waiter?_eq u key, waiter?_eq v key, caller_of_sides sides member]

/-- Equal sides have the same records that count. -/
theorem leases_of_sides (key : String) : u.leases key = v.leases key := by
  have deadline : ∀ w : Table, (w.holder? key).bind Holder.expiresAt
      = ((w.holder? key).map Holder.unnumbered).bind Holder.expiresAt := by
    intro w
    cases w.holder? key <;> rfl
  have holder : (u.holder? key).map Holder.unnumbered = (v.holder? key).map Holder.unnumbered :=
    congrArg Side.holder (sides key)
  rw [leases_eq ru.toRecorded ru.toScheduled, leases_eq rv.toRecorded rv.toScheduled, deadline u,
    deadline v, holder]

/-- Who has a call and where it stands is told by the side; the rest was the same at the start. -/
theorem standing?_of_sides (q : t.Queued) (left : ∀ d ∈ u.calls, ∃ c ∈ t.calls, t.ServedIn c d)
    (right : ∀ d ∈ v.calls, ∃ c ∈ t.calls, t.ServedIn c d) {n : Nat} {x : Call × Footing}
    (stands : u.standing? n = some x) : v.standing? n = some x := by
  obtain ⟨c, found, rfl⟩ := Option.map_eq_some_iff.1 stands
  obtain ⟨hc, rfl⟩ := ru.call?_eq_some_iff.1 found
  have member : some c.ticket ∈ ts c.request.key := ((ru.ticketed _).own c hc).2 rfl
  have shown := caller_of_sides sides member
  rw [caller_of_call found] at shown
  obtain ⟨d, listed, same⟩ := Option.map_eq_some_iff.1 shown.symm
  have found' : v.call? c.ticket = some d := listed
  obtain ⟨hd, ticket⟩ := rv.call?_eq_some_iff.1 found'
  have request : d.request = c.request := congrArg Caller.request same
  have footing : v.footing c.request.key d = u.footing c.request.key c :=
    congrArg Caller.footing same
  -- Both have become of one call, and if one of them was served so was the other.
  obtain ⟨c₀, hc₀, was⟩ := left c hc
  obtain ⟨d₀, hd₀, was'⟩ := right d hd
  obtain rfl := q.call_unique hc₀ hd₀ (was.ticket_eq.symm.trans (ticket.symm.trans was'.ticket_eq))
  have bare : d.permit = none ↔ c.permit = none := by
    rw [← v.footing_eq_waiting_iff c.request.key, footing, u.footing_eq_waiting_iff]
  rw [standing?, found', Option.map_some, was'.unnumbered_eq was bare, request, footing]

end Sides

/-- Departures in two orders lead to tables that show the same of every key, and so to tables that
are the same but for numbers. -/
theorem Regular.sameButNumbers (r : t.Regular ts) {ns ms : List Nat} (perm : ns.Perm ms) :
    SameButNumbers (t.departAll ns) (t.departAll ms) := by
  have sides := r.side_departAll_perm perm
  have back : ∀ key, (t.departAll ms).side key (ts key) = (t.departAll ns).side key (ts key) :=
    fun key => (sides key).symm
  have ru := r.departAll ns
  have rv := r.departAll ms
  -- What the sides do not show of a call, its grant, is the offer of this scene in both orders.
  have left := served_of_departAll r.toSound ns
  have right := served_of_departAll r.toSound ms
  obtain ⟨next, scene⟩ := departAll_aside r.toSound ns
  obtain ⟨next', scene'⟩ := departAll_aside r.toSound ms
  exact {
    scene := scene.trans scene'.symm
    nextTicket := next.trans next'.symm
    holders := fun key => congrArg Side.holder (sides key)
    queues := queue_of_sides ru rv sides
    calls := fun n => Option.ext fun x =>
      ⟨standing?_of_sides ru rv sides r.toQueued left right,
        standing?_of_sides rv ru back r.toQueued right left⟩
    leases := leases_of_sides ru rv sides }

end DepartAll

/-- **The order of departures does not matter.** Take any run, and let the callers of any calls
depart, one after the other, in two orders. Afterwards every key has the same holder with the same
holds and deadline, and the same queue; every call that remains has a grant in both tables or in
neither, and the grant holds its key in both or in neither; and the grants that hold a key have the
same records. The tables differ in numbers of grants at most, and in records of grants that have
ended. -/
theorem order_of_departures_does_not_matter (kind : LockKind) (leased : Bool) (reaper : Reaper)
    (horizon : Horizon) (es : List Event) {ns ms : List Nat} (perm : ns.Perm ms) :
    SameButNumbers (((opening kind leased reaper horizon).run es).departAll ns)
      (((opening kind leased reaper horizon).run es).departAll ms) := by
  have sound : ((opening kind leased reaper horizon).run es).Sound := sound_run es
  have regular : ((opening kind leased reaper horizon).run es).Regular _ :=
    ⟨sound, recorded_run es, sound.toQueued.ticketed⟩
  exact regular.sameButNumbers perm

/-- The first of three who wait was handed the key, and both he and the next one depart. If he is
the first to go the key is handed on twice, and otherwise once. -/
theorem departures_in_either_order :
    let a : Request := ⟨"k", 1, ⟨"app", "a"⟩, .reentrant, some ⟨5, .milliseconds⟩, 0⟩
    let b : Request := ⟨"k", 2, ⟨"app", "b"⟩, .reentrant, some ⟨9, .milliseconds⟩, 0⟩
    let c : Request := ⟨"k", 3, ⟨"app", "c"⟩, .reentrant, some ⟨9, .milliseconds⟩, 0⟩
    let d : Request := ⟨"k", 4, ⟨"app", "d"⟩, .reentrant, some ⟨9, .milliseconds⟩, 0⟩
    let es : List Event := [.tryAcquire a, .acquire "stop" b, .acquire "stop" c,
      .acquire "stop" d, .release a]
    let t := (opening .reentrant true .running .widest).run es
    [0, 1].Perm [1, 0]
      ∧ SameButNumbers (t.departAll [0, 1]) (t.departAll [1, 0])
      ∧ (t.departAll [0, 1]).holder? "k" = some ⟨d, 4, 1, 0, some 9000000⟩
      ∧ (t.departAll [1, 0]).holder? "k" = some ⟨d, 3, 1, 0, some 9000000⟩
      ∧ (t.departAll [0, 1]).leases "k" = [("k", 9000000)]
      ∧ (t.departAll [0, 1]).delays.size = 4 ∧ (t.departAll [1, 0]).delays.size = 3 := by
  intro a b c d es t
  have perm : [0, 1].Perm [1, 0] := by decide
  have same := order_of_departures_does_not_matter .reentrant true .running .widest es perm
  exact ⟨perm, same, by decide +kernel, by decide +kernel, by decide +kernel, by decide +kernel,
    by decide +kernel⟩

end Table

end KeyedLocks
