/-
The listing shows what is held.

A listing is put together from the entries of three tables, and where the entries are kept they
are in no order. That it is the same list nonetheless needs two things: every entry comes out
once, and no two entries of a table have the same bytes for a key. Sorting by bytes then leaves
one order only (`LooseTable.listed_of_perm`), which is the order of the keys themselves as bytes
order texts like their characters do.

That the list is complete and shows nothing twice rests on what is known of entries between
operations: each has a holder. What an entry tells of the callers who wait is a number of calls.
-/
import KeyedLocks.Proofs.Http.Listing
import KeyedLocks.Proofs.Service.Runs
import KeyedLocks.Proofs.Table.Tidy
import KeyedLocks.Proofs.Text.Order

set_option autoImplicit false

namespace KeyedLocks

/-! ## Entries in any order -/

namespace Table

/-- Entries are in the order of their keys. -/
theorem HeldKey.bytes_lt_iff {a b : HeldKey} : a.bytes < b.bytes ↔ a.key < b.key :=
  Text.encode_lt_iff

/-- Two entries of which neither comes before the other are of one key. -/
theorem HeldKey.key_eq_of_le {a b : HeldKey} (le : a.bytes ≤ b.bytes) (ge : b.bytes ≤ a.bytes) :
    a.key = b.key := by
  by_contra other
  rcases KeyMap.lt_or_gt_of_ne_key other with lt | gt
  · exact ge (bytes_lt_iff.2 lt)
  · exact le (bytes_lt_iff.2 gt)

end Table

namespace LooseTable

/-- What is shown of one table is in the order of the bytes. -/
theorem snapshot_ascending (l : LooseTable) : l.snapshot.Pairwise fun a b => a.bytes < b.bytes := by
  refine List.pairwise_filterMap.2 (l.entries.ascending.imp ?_)
  intro p q lt a shown b shown'
  obtain ⟨h, -, rfl⟩ := Option.map_eq_some_iff.1 shown
  obtain ⟨h', -, rfl⟩ := Option.map_eq_some_iff.1 shown'
  exact Table.HeldKey.bytes_lt_iff.2 lt

/-- **The listing does not depend on the order** in which the entries are found. -/
theorem listed_of_perm (l : LooseTable) {found : List (String × Entry)}
    (perm : found.Perm l.entries.entries) : l.listed found = l.snapshot := by
  have same : (l.listed found).Perm l.snapshot := (List.mergeSort_perm _ _).trans (perm.filterMap _)
  have sorted : (l.listed found).Pairwise fun a b => decide (a.bytes ≤ b.bytes) = true := by
    refine List.pairwise_mergeSort (fun a b c ab bc => ?_) (fun a b => ?_) _
    · rw [decide_eq_true_eq] at ab bc ⊢
      exact List.le_trans ab bc
    · rw [Bool.or_eq_true, decide_eq_true_eq, decide_eq_true_eq]
      exact List.le_total _ _
  have ascending := l.snapshot_ascending
  have distinct : (l.snapshot.map Table.HeldKey.key).Nodup := by
    refine List.pairwise_map.2 (ascending.imp fun lt same => ?_)
    exact String.lt_irrefl _ (same ▸ Table.HeldKey.bytes_lt_iff.1 lt)
  -- Two entries that may stand either way have one key, and then they are one entry.
  refine same.eq_of_pairwise (fun a b ha hb le ge => ?_) (sorted.imp of_decide_eq_true)
    (ascending.imp List.le_of_lt)
  exact List.inj_on_of_nodup_map distinct (same.mem_iff.1 ha) hb (Table.HeldKey.key_eq_of_le le ge)

end LooseTable

/-! ## What an entry tells -/

/-- An entry of a listing tells of a holder who he is, how many times over he holds the key, how
many calls wait for it, since when he holds it, and how much time is left. Time that is over
counts as none. -/
structure Table.Lists (t : Table) (h : Holder) (e : Table.HeldKey) : Prop where
  held : t.holder? e.key = some h
  owner : e.owner = h.request.owner
  identity : e.identity = h.request.identity
  holds : e.holds = h.holds
  waiting : e.waiting = t.waiting e.key
  calls : e.waiting = t.calls.countP fun c => c.permit.isNone && c.request.key = e.key
  since : h.acquiredAt + e.heldFor = t.now
  left : e.expiresIn = h.expiresAt.map fun at_ => at_ - t.now

namespace Table

variable {t : Table}

/-- Who waits for a key are the calls for it that nothing was handed to. -/
theorem Queued.waiting_eq (q : t.Queued) (key : String) :
    t.waiting key = t.calls.countP fun c => c.permit.isNone && c.request.key = key := by
  rw [waiting, q.queue_eq, waitList, List.filter_map, List.length_map, List.filter_filter,
    List.countP_eq_length_filter]
  refine congrArg List.length (List.filter_congr fun c _ => ?_)
  rw [Bool.and_comm]
  rfl

/-- Every entry that is shown tells of a holder. -/
theorem Queued.lists_of_mem (q : t.Queued) (past : ∀ key h, t.holder? key = some h →
    h.acquiredAt ≤ t.now) {e : HeldKey} (shown : e ∈ t.snapshot) : ∃ h, t.Lists h e := by
  obtain ⟨⟨key, slot⟩, kept, rfl⟩ := List.mem_map.1 shown
  have found := KeyMap.get?_eq_some_iff.2 kept
  have held := holder?_of_slot found
  have waiting : slot.waiters.length = t.waiting key := by rw [waiting, queue_of_slot found]
  exact ⟨slot.holder, held, rfl, rfl, rfl, waiting, waiting.trans (q.waiting_eq key),
    Nat.add_sub_cancel' (past key slot.holder held), rfl⟩

end Table

/-! ## Runs -/

namespace Service

/-- The entries that the table of a kind has after the steps of a run. -/
def looseTable (horizon : Horizon) (es : List ServiceStep) (kind : LockKind) : LooseTable :=
  (LooseTable.opening kind (decide (kind = .timeout)) (Http.Server.firstReaper kind) horizon).run
    (es.filterMap (ServiceStep.event? kind))

/-- They are the entries of the table of the kind after the run. -/
theorem looseTable_eq (horizon : Horizon) (es : List ServiceStep) (kind : LockKind) :
    looseTable horizon es kind = (((start horizon).run es).table kind).loose := by
  rw [table_run_start]
  exact (Table.run_loose (Table.sound_opening _ _ _ _) _).1

theorem sound_table (horizon : Horizon) (es : List ServiceStep) (kind : LockKind) :
    (((start horizon).run es).table kind).Sound := by
  rw [table_run_start]
  exact Table.sound_run _

/-- The listing that is put together from the entries found in tables, kind after kind. -/
def assembled (tables : LockKind → LooseTable) (found : LockKind → List (String × Entry)) :
    List (LockKind × Table.HeldKey) :=
  LockKind.all.flatMap fun k => ((tables k).listed (found k)).map fun e => (k, e)

/-- Whether an entry comes before another one: kinds are in their order, and the keys of a kind in
the order of their bytes. -/
def Precedes (a b : LockKind × Table.HeldKey) : Prop :=
  a.1.index < b.1.index ∨ a.1 = b.1 ∧ a.2.bytes < b.2.bytes

variable {s : Service}

/-- The listing shows what each table shows. -/
theorem mem_status_iff {p : LockKind × Table.HeldKey} :
    p ∈ s.status ↔ p.2 ∈ (s.table p.1).snapshot := by
  simp only [status, List.mem_flatMap, List.mem_map]
  constructor
  · rintro ⟨kind, -, e, shown, rfl⟩
    exact shown
  · intro shown
    exact ⟨p.1, p.1.mem_all, p.2, shown, rfl⟩

/-- The listing of all tables is in order: the kinds one after the other, and each in the order of
the bytes. -/
theorem status_ascending (s : Service) : s.status.Pairwise Precedes := by
  refine List.pairwise_flatMap.2 ⟨fun kind _ => ?_, ?_⟩
  · rw [List.pairwise_map, ← Table.snapshot_loose]
    exact (s.table kind).loose.snapshot_ascending.imp fun lt => .inr ⟨rfl, lt⟩
  -- Whatever kind comes earlier comes earlier with all its entries.
  · have kinds : LockKind.all.Pairwise fun k k' => k.index < k'.index := by decide
    refine kinds.imp fun lt a ha b hb => .inl ?_
    obtain ⟨_, -, rfl⟩ := List.mem_map.1 ha
    obtain ⟨_, -, rfl⟩ := List.mem_map.1 hb
    exact lt

/-- A key is in the listing once if it is held, and not at all if it is not. -/
theorem count_status (s : Service) (kind : LockKind) (key : String) :
    (s.status.countP fun p => p.1 = kind && p.2.key = key)
      = ((s.table kind).isLocked key).toNat := by
  have each (k : LockKind) :
      (((s.table k).snapshot.map fun e => (k, e)).countP fun p => p.1 = kind && p.2.key = key)
        = if k = kind then ((s.table kind).isLocked key).toNat else 0 := by
    rw [List.countP_map]
    by_cases same : k = kind
    · subst same
      rw [if_pos rfl, ← Table.count_snapshot, List.count_eq_countP, List.countP_map]
      refine List.countP_congr fun e _ => ?_
      simp
    · rw [if_neg same, List.countP_eq_zero]
      intro e _
      simp [same]
  -- Of the three tables one is that of the kind, and the others add nothing.
  rw [status, List.countP_flatMap]
  simp only [Function.comp_def, each]
  cases kind <;> simp [LockKind.all]

/-- **The listing shows what is held.** Whatever has happened to a service: for each kind and key
that is held its listing has one entry, and none for any other. The entry tells of the one who
holds the key at this moment, of how many calls wait for it, and of times as they are now. Entries
are in the order of their kinds and then of the bytes of their keys, all different, and they are
the same in whatever order they are found where they are kept. There are as many as keys are
tracked in the three tables, and this is the number that is told to who asks for the health of
the service, as far as the word can tell it. -/
theorem listing_shows_what_is_held (horizon : Horizon) (es : List ServiceStep) :
    let s := (start horizon).run es
    let tables := looseTable horizon es
    (∀ kind, tables kind = (s.table kind).loose)
      ∧ (∀ kind key, (s.status.countP fun p => p.1 = kind && p.2.key = key)
          = ((tables kind).isLocked key).toNat)
      ∧ (∀ p ∈ s.status, ∃ h, (s.table p.1).Lists h p.2)
      ∧ s.status.Pairwise Precedes
      ∧ (∀ found : LockKind → List (String × Entry),
          (∀ kind, (found kind).Perm (tables kind).entries.entries) →
            assembled tables found = s.status)
      ∧ s.status.length = (tables .simple).trackedKeys + (tables .reentrant).trackedKeys
          + (tables .timeout).trackedKeys
      ∧ (∀ m : Http.Message, m.method = "GET" → m.path = "/health" →
          Http.handle s m = (.answered (Http.jsonAnswer (Wire.healthValue s.health)), s))
      ∧ s.health.heldLocks = UInt64.ofNat s.status.length
      ∧ (s.status.length < 2 ^ 64 → s.health.heldLocks.toNat = s.status.length) := by
  intro s tables
  have same : tables = fun kind => (s.table kind).loose := funext (looseTable_eq horizon es)
  rw [same]
  refine ⟨fun kind => rfl, fun kind key => ?_, fun p shown => ?_, s.status_ascending,
    fun found perm => ?_, ?_, fun m get path => ?_, rfl, fun fits => ?_⟩
  · rw [Table.isLocked_loose]
    exact s.count_status kind key
  -- That nothing is held since a later moment needs the run, all else only the table.
  · refine (sound_table horizon es p.1).toQueued.lists_of_mem (fun key h held => ?_)
      (mem_status_iff.1 shown)
    rw [table_run_start] at held ⊢
    exact Table.acquiredAt_le_now _ held
  · refine congrArg LockKind.all.flatMap (funext fun kind => ?_)
    rw [LooseTable.listed_of_perm _ (perm kind), Table.snapshot_loose]
  · rw [Table.trackedKeys_loose, Table.trackedKeys_loose, Table.trackedKeys_loose]
    exact s.length_status
  · have other : ¬ m.method = "OPTIONS" := by
      rw [get]
      decide
    have route : Http.Route.ofPath? m.path = some .health := by
      rw [path]
      decide
    rw [Http.handle, if_neg other, route]
    exact if_pos get
  · exact UInt64.toNat_ofNat_of_lt' fits

end Service

end KeyedLocks
