/-
What a request carries for nobody to decide by.

A request says which key it is for and who asks. All else that it carries passes through a
table without being looked at: its own number, the moment it was made, the kind of lock it
names, and, unless it takes a lock that has a deadline, its duration. Two runs whose requests
differ in nothing more go the same way (`only_key_owner_and_lease_decide`).

A table keeps whole requests, and a hand-off uses one that was put into a queue long before. So
the two runs are compared in a guise that makes every request plain, those in the queues
included (`Guise.plain`). In that guise the two runs meet at every deed (`Akin.perform_eq`).
-/
import KeyedLocks.Proofs.Table.GuiseDeeds

set_option autoImplicit false

namespace KeyedLocks

/-! ## Requests and deeds that are akin -/

/-- Two requests for one key by one owner, and with one duration if that counts. -/
structure Request.Akin (counts : Bool) (r r' : Request) : Prop where
  key : r.key = r'.key
  owner : r.owner = r'.owner
  duration : counts = true → r.duration = r'.duration

/-- Two deeds that differ at most in what their requests carry for nobody to decide by. Of the
durations only those count that a lease is made of. -/
inductive Deed.Akin (leased : Bool) : Deed → Deed → Prop
  | same (d : Deed) : Akin leased d d
  | tryAcquire {r r' : Request} (akin : r.Akin leased r') :
      Akin leased (.event (.tryAcquire r)) (.event (.tryAcquire r'))
  | acquire (token : String) {r r' : Request} (akin : r.Akin leased r') :
      Akin leased (.event (.acquire token r)) (.event (.acquire token r'))
  | release {r r' : Request} (akin : r.Akin false r') :
      Akin leased (.event (.release r)) (.event (.release r'))
  | tryLock {r r' : Request} (akin : r.Akin leased r') :
      Akin leased (.tryLock r) (.tryLock r')
  | lock (token : String) {r r' : Request} (akin : r.Akin leased r') :
      Akin leased (.lock token r) (.lock token r')
  | unlock {r r' : Request} (akin : r.Akin false r') : Akin leased (.unlock r) (.unlock r')

/-- A request without all that does not count. -/
def Request.plain (leased : Bool) (r : Request) : Request :=
  { r with
    identity := 0, kind := .simple, issuedAt := 0
    duration := if leased then r.duration else none }

/-- Everything as it is, with plain requests. -/
def Guise.plain (leased : Bool) : Guise where
  request := Request.plain leased
  identity := fun _ => 0
  hidden := none
  key_request _ := rfl
  owner_request _ := rfl
  identity_request _ := rfl

/-- What a listing shows of a held key, without the number of the request. -/
def Table.HeldKey.plain (h : Table.HeldKey) : Table.HeldKey := { h with identity := 0 }

/-- Requests that are akin are the same once they are plain. -/
theorem Request.Akin.plain_eq {leased : Bool} {r r' : Request} (akin : r.Akin leased r') :
    r.plain leased = r'.plain leased := by
  obtain ⟨key, owner, duration⟩ := akin
  cases leased with
  | false => simp [Request.plain, key, owner]
  | true => simp [Request.plain, key, owner, duration rfl]

namespace Table

variable {t u : Table} {leased : Bool}

/-! ## Giving back -/

/-- Giving a key back asks for the key and the owner only. -/
theorem release_congr (t : Table) {r r' : Request} (key : r.key = r'.key)
    (owner : r.owner = r'.owner) : t.release r = t.release r' := by
  simp only [release, Request.sameOwner, key, owner]

/-- The answer repeats the number of the request besides. -/
theorem unlock_congr (t : Table) {r r' : Request} (key : r.key = r'.key)
    (owner : r.owner = r'.owner) (identity : r.identity = r'.identity) :
    t.unlock r = t.unlock r' := by
  simp only [unlock, t.release_congr key owner, Response.succeeded, Response.failed, key, identity]

/-! ## Deeds with plain requests -/

theorem fits_plain (h : t.leased = leased) : (Guise.plain leased).Fits t := by
  rintro on r
  rw [← h, on]
  rfl

theorem shows_plain (n : Nat) : (Guise.plain leased).shows n = true := rfl

theorem calm_plain (t : Table) : (Guise.plain leased).Calm t := by
  intro n hidden
  cases hidden

/-- A deed on a table with plain requests. -/
theorem perform_plain (s : t.Sound) (h : t.leased = leased) (d : Deed) :
    ((Guise.plain leased).table t).perform ((Guise.plain leased).deed d)
      = ((Guise.plain leased).reply (t.perform d).1, (Guise.plain leased).table (t.perform d).2) :=
  Guise.perform_table (fits_plain h) s (calm_plain _) fun _ _ => rfl

/-- **Deeds that are akin** do the same to a table with plain requests. -/
theorem perform_akin {d d' : Deed} (akin : d.Akin leased d') (t : Table) :
    t.perform ((Guise.plain leased).deed d) = t.perform ((Guise.plain leased).deed d') := by
  cases akin with
  | same => rfl
  | tryAcquire akin =>
    exact congrArg (fun r => t.perform (.event (.tryAcquire r))) akin.plain_eq
  | acquire token akin =>
    exact congrArg (fun r => t.perform (.event (.acquire token r))) akin.plain_eq
  -- A release may differ in its duration even where durations count, so its plain forms may differ.
  -- It looks at neither.
  | @release r r' akin =>
    have same : t.release (r.plain leased) = t.release (r'.plain leased) :=
      t.release_congr akin.key akin.owner
    exact congrArg (Prod.map (fun x => Reply.outcome (.release x)) id) same
  | tryLock akin => exact congrArg (fun r => t.perform (.tryLock r)) akin.plain_eq
  | lock token akin => exact congrArg (fun r => t.perform (.lock token r)) akin.plain_eq
  | @unlock r r' akin =>
    have same : t.unlock (r.plain leased) = t.unlock (r'.plain leased) :=
      t.unlock_congr akin.key akin.owner rfl
    exact congrArg (Prod.map Reply.response id) same

/-! ## Runs -/

/-- What is seen of a deed and of the table after it, with plain requests. -/
def plainly (leased : Bool) (p : Reply × Table) : Reply × Table :=
  ((Guise.plain leased).reply p.1, (Guise.plain leased).table p.2)

/-- Two sound tables that are the same with plain requests stay so, deed by deed. -/
theorem trace_akin {ds ds' : List Deed} (akin : List.Forall₂ (Deed.Akin leased) ds ds')
    (s : t.Sound) (s' : u.Sound) (h : t.leased = leased) (h' : u.leased = leased)
    (same : (Guise.plain leased).table t = (Guise.plain leased).table u) :
    (t.trace ds).map (plainly leased) = (u.trace ds').map (plainly leased) := by
  induction akin generalizing t u with
  | nil => rfl
  | @cons d d' ds ds' first rest ih =>
    -- Both deeds are looked at in the guise, where they are one deed on one table.
    have met : plainly leased (t.perform d) = plainly leased (u.perform d') := by
      rw [plainly, plainly, ← perform_plain s h, ← perform_plain s' h', same, perform_akin first]
    rw [trace, trace, List.map_cons, List.map_cons, met]
    refine congrArg (plainly leased (u.perform d') :: ·) ?_
    exact ih (s.perform d) (s'.perform d') ((s.leased_perform d).trans h)
      ((s'.leased_perform d').trans h') (congrArg Prod.snd met)

/-- A listing shows of a request nothing but its owner and its number. -/
theorem snapshot_plain (t : Table) :
    ((Guise.plain leased).table t).snapshot = t.snapshot.map HeldKey.plain := by
  -- As many wait as before, since nobody is hidden.
  have queue : ∀ ws : List Waiter, ((Guise.plain leased).waiters ws).length = ws.length := by
    intro ws
    have all : ws.filter (fun w => (Guise.plain leased).shows w.ticket) = ws :=
      List.filter_eq_self.2 fun w _ => shows_plain w.ticket
    rw [Guise.waiters, Guise.pick, List.length_map, all]
  have shown : ∀ key slot, HeldKey.ofSlot t.now key ((Guise.plain leased).slot slot)
      = (HeldKey.ofSlot t.now key slot).plain := by
    intro key slot
    rw [HeldKey.ofSlot, Guise.slot, queue]
    rfl
  rw [snapshot, snapshot, List.map_map]
  refine (List.map_map ..).trans (List.map_congr_left fun e _ => ?_)
  exact shown e.1 e.2

/-- **Only key, owner and lease decide.** Take two runs of the same deeds whose requests agree on
key and owner, and, where leases count, those that take a lock on their duration; all else that
a request carries may differ, and so may the durations of all requests that give a lock back.
Then each deed comes to the same in both, but for the number of a request that an answer
repeats, and leaves the same table, with the same holders, holds, deadlines, queues and records,
but for the requests that are kept in it. A listing differs at most in the numbers of requests. -/
theorem only_key_owner_and_lease_decide (kind : LockKind) (leased : Bool) (reaper : Reaper)
    (horizon : Horizon) (ds ds' : List Deed) (akin : List.Forall₂ (Deed.Akin leased) ds ds') :
    let ps := (opening kind leased reaper horizon).trace ds
    let ps' := (opening kind leased reaper horizon).trace ds'
    ps.map (plainly leased) = ps'.map (plainly leased)
      ∧ ps.map (fun p => p.2.snapshot.map HeldKey.plain)
        = ps'.map fun p => p.2.snapshot.map HeldKey.plain := by
  intro ps ps'
  have sound : (opening kind leased reaper horizon).Sound :=
    sound_opening kind leased reaper horizon
  have same : ps.map (plainly leased) = ps'.map (plainly leased) :=
    trace_akin akin sound sound rfl rfl rfl
  have listing : (fun p : Reply × Table => p.2.snapshot.map HeldKey.plain)
      = (fun p => p.2.snapshot) ∘ plainly leased := by
    funext p
    exact (snapshot_plain p.2).symm
  refine ⟨same, ?_⟩
  rw [listing, ← List.map_map, ← List.map_map, same]

/-- A lease is waited for and taken over in two runs. The requests are told apart by their
numbers, and the one who gives the key back says another kind and duration. -/
theorem numbers_and_kinds_decide_nothing :
    let a : Request := ⟨"k", 1, ⟨"app", "a"⟩, .timeout, some ⟨5, .milliseconds⟩, 0⟩
    let a' : Request := ⟨"k", 7, ⟨"app", "a"⟩, .simple, some ⟨5, .milliseconds⟩, 99⟩
    let b : Request := ⟨"k", 2, ⟨"app", "b"⟩, .timeout, some ⟨9, .milliseconds⟩, 0⟩
    let b' : Request := ⟨"k", 2, ⟨"app", "b"⟩, .reentrant, some ⟨9, .milliseconds⟩, 3⟩
    let c : Request := ⟨"k", 8, ⟨"app", "b"⟩, .simple, none, 4⟩
    let ds : List Deed := [.tryLock a, .lock "stop" b, .advance 5, .pollLock 0, .unlock b]
    let ds' : List Deed := [.tryLock a', .lock "stop" b', .advance 5, .pollLock 0, .unlock c]
    List.Forall₂ (Deed.Akin true) ds ds'
      ∧ ((opening .timeout true .running .widest).trace ds').map (plainly true)
        = ((opening .timeout true .running .widest).trace ds).map (plainly true) := by
  intro a a' b b' c ds ds'
  have akin : List.Forall₂ (Deed.Akin true) ds ds' := by
    refine .cons (.tryLock ⟨rfl, rfl, fun _ => rfl⟩) (.cons (.lock "stop" ⟨rfl, rfl, fun _ => rfl⟩)
      (.cons (.same _) (.cons (.same _) (.cons (.unlock ⟨rfl, rfl, ?_⟩) .nil))))
    intro counts
    cases counts
  exact ⟨akin, (only_key_owner_and_lease_decide .timeout true .running .widest ds ds' akin).1.symm⟩

end Table

end KeyedLocks
