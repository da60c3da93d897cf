/-
A finite map with texts as keys, kept in the order of its keys.

The keys are in the order of their code points, which is the order of their UTF-8
bytes, and listings show them in that order. Because the order is part of the
type, a map has one representation only: two maps with the same value at every key
are equal (`KeyMap.ext_get?`).
-/
set_option autoImplicit false

namespace KeyedLocks

/-- A map from texts to values, as its entries in ascending order of their keys. -/
structure KeyMap (α : Type) where
  entries : List (String × α)
  ascending : entries.Pairwise fun a b => a.1 < b.1

namespace KeyMap

variable {α : Type}

/-! ## Operations -/

/-- The map without entries. -/
def empty : KeyMap α := ⟨[], .nil⟩

instance : Inhabited (KeyMap α) := ⟨empty⟩

/-- The number of keys. -/
def size (m : KeyMap α) : Nat := m.entries.length

/-- The value at a key. -/
def get? (m : KeyMap α) (k : String) : Option α :=
  (m.entries.find? fun e => e.1 == k).map Prod.snd

/-- The entries in front of a key. -/
def below (m : KeyMap α) (k : String) : List (String × α) := m.entries.filter fun e => e.1 < k

/-- The entries behind a key. -/
def above (m : KeyMap α) (k : String) : List (String × α) := m.entries.filter fun e => k < e.1

theorem mem_below {m : KeyMap α} {k : String} {e : String × α} :
    e ∈ m.below k ↔ e ∈ m.entries ∧ e.1 < k := by
  simp [below]

theorem mem_above {m : KeyMap α} {k : String} {e : String × α} :
    e ∈ m.above k ↔ e ∈ m.entries ∧ k < e.1 := by
  simp [above]

/-- The map with a value put at a key, in the place of the one that was there. -/
def insert (m : KeyMap α) (k : String) (v : α) : KeyMap α where
  entries := m.below k ++ (k, v) :: m.above k
  ascending := by
    refine List.pairwise_append.2 ⟨m.ascending.filter _, ?_, ?_⟩
    · exact List.pairwise_cons.2 ⟨fun e he => (mem_above.1 he).2, m.ascending.filter _⟩
    · intro a ha b hb
      have left := (mem_below.1 ha).2
      rcases List.mem_cons.1 hb with rfl | hb
      · exact left
      · exact String.lt_trans left (mem_above.1 hb).2

/-- The map without a key. -/
def erase (m : KeyMap α) (k : String) : KeyMap α where
  entries := m.entries.filter fun e => e.1 != k
  ascending := m.ascending.filter _

/-! ## What is in a map -/

/-- A key has one entry at most. -/
theorem value_unique {m : KeyMap α} {k : String} {v w : α} (hv : (k, v) ∈ m.entries)
    (hw : (k, w) ∈ m.entries) : v = w := by
  have order := m.ascending
  generalize m.entries = es at hv hw order
  induction es with
  | nil => cases hv
  | cons e es ih =>
    rw [List.pairwise_cons] at order
    rcases List.mem_cons.1 hv with ev | hv'
    · rcases List.mem_cons.1 hw with ew | hw'
      · exact (Prod.mk.inj (ev.trans ew.symm)).2
      · subst ev
        exact absurd (order.1 _ hw') (String.lt_irrefl k)
    · rcases List.mem_cons.1 hw with ew | hw'
      · subst ew
        exact absurd (order.1 _ hv') (String.lt_irrefl k)
      · exact ih hv' hw' order.2

/-- **Looking up is finding the entry.** -/
theorem get?_eq_some_iff {m : KeyMap α} {k : String} {v : α} :
    m.get? k = some v ↔ (k, v) ∈ m.entries := by
  constructor
  · intro h
    obtain ⟨⟨k', v'⟩, found, rfl⟩ := Option.map_eq_some_iff.1 h
    have same : k' = k := by simpa using List.find?_some found
    subst same
    exact List.mem_of_find?_eq_some found
  · intro h
    cases found : m.entries.find? fun e => e.1 == k with
    | none =>
      rw [List.find?_eq_none] at found
      exact absurd (found _ h) (by simp)
    | some e =>
      have same : e.1 = k := by simpa using List.find?_some found
      have member := List.mem_of_find?_eq_some found
      obtain ⟨k', v'⟩ := e
      subst same
      simp [get?, found, value_unique member h]

theorem get?_eq_none_iff {m : KeyMap α} {k : String} :
    m.get? k = none ↔ ∀ v, (k, v) ∉ m.entries := by
  rw [Option.eq_none_iff_forall_ne_some]
  exact forall_congr' fun v => not_congr get?_eq_some_iff

@[simp] theorem get?_empty (k : String) : (empty : KeyMap α).get? k = none := rfl

theorem lt_or_gt_of_ne_key {a b : String} (h : a ≠ b) : a < b ∨ b < a := by
  rcases Std.Trichotomous.rel_or_eq_or_rel_swap (r := (· < · : String → String → Prop))
      (a := a) (b := b) with lt | eq | gt
  · exact .inl lt
  · exact absurd eq h
  · exact .inr gt

theorem mem_entries_insert {m : KeyMap α} {k k' : String} {v v' : α} :
    (k', v') ∈ (m.insert k v).entries ↔ (k' = k ∧ v' = v) ∨ (k' ≠ k ∧ (k', v') ∈ m.entries) := by
  simp only [insert, List.mem_append, List.mem_cons, mem_below, mem_above, Prod.mk.injEq]
  constructor
  · rintro (⟨member, lt⟩ | same | ⟨member, gt⟩)
    · exact .inr ⟨fun e => String.lt_irrefl k (e ▸ lt), member⟩
    · exact .inl same
    · exact .inr ⟨fun e => String.lt_irrefl k (e ▸ gt), member⟩
  · rintro (same | ⟨other, member⟩)
    · exact .inr (.inl same)
    · rcases lt_or_gt_of_ne_key other with lt | gt
      · exact .inl ⟨member, lt⟩
      · exact .inr (.inr ⟨member, gt⟩)

theorem mem_entries_erase {m : KeyMap α} {k k' : String} {v' : α} :
    (k', v') ∈ (m.erase k).entries ↔ k' ≠ k ∧ (k', v') ∈ m.entries := by
  simp [erase, and_comm]

/-- **Putting in** changes the value at one key. -/
theorem get?_insert (m : KeyMap α) (k k' : String) (v : α) :
    (m.insert k v).get? k' = if k' = k then some v else m.get? k' := by
  refine Option.ext fun w => ?_
  rw [get?_eq_some_iff, mem_entries_insert]
  by_cases h : k' = k
  · simp [h, eq_comm]
  · simp [h, get?_eq_some_iff]

@[simp] theorem get?_insert_self (m : KeyMap α) (k : String) (v : α) :
    (m.insert k v).get? k = some v := by
  rw [get?_insert, if_pos rfl]

/-- **Taking out** leaves every other key as it was. -/
theorem get?_erase (m : KeyMap α) (k k' : String) :
    (m.erase k).get? k' = if k' = k then none else m.get? k' := by
  refine Option.ext fun w => ?_
  rw [get?_eq_some_iff, mem_entries_erase]
  by_cases h : k' = k <;> simp [h, get?_eq_some_iff]

@[simp] theorem get?_erase_self (m : KeyMap α) (k : String) : (m.erase k).get? k = none := by
  rw [get?_erase, if_pos rfl]

/-! ## Equality -/

private theorem entries_eq_of_mem_iff (as bs : List (String × α))
    (ha : as.Pairwise fun a b => a.1 < b.1) (hb : bs.Pairwise fun a b => a.1 < b.1)
    (h : ∀ e, e ∈ as ↔ e ∈ bs) : as = bs := by
  induction as generalizing bs with
  | nil =>
    cases bs with
    | nil => rfl
    | cons b bs => exact absurd ((h b).2 (by simp)) (by simp)
  | cons a as ih =>
    cases bs with
    | nil => exact absurd ((h a).1 (by simp)) (by simp)
    | cons b bs =>
      rw [List.pairwise_cons] at ha hb
      have same : a = b := by
        rcases List.mem_cons.1 ((h a).1 (by simp)) with e | behind
        · exact e
        · rcases List.mem_cons.1 ((h b).2 (by simp)) with e | behind'
          · exact e.symm
          · exact absurd (String.lt_trans (ha.1 _ behind') (hb.1 _ behind)) (String.lt_irrefl _)
      subst same
      refine congrArg (a :: ·) (ih bs ha.2 hb.2 fun e => ?_)
      constructor
      · intro he
        rcases List.mem_cons.1 ((h e).1 (List.mem_cons_of_mem _ he)) with rfl | he'
        · exact absurd (ha.1 _ he) (String.lt_irrefl _)
        · exact he'
      · intro he
        rcases List.mem_cons.1 ((h e).2 (List.mem_cons_of_mem _ he)) with rfl | he'
        · exact absurd (hb.1 _ he) (String.lt_irrefl _)
        · exact he'

/-- **A map is what is found in it.** -/
theorem ext_get? {m n : KeyMap α} (h : ∀ k, m.get? k = n.get? k) : m = n := by
  have same : m.entries = n.entries := by
    refine entries_eq_of_mem_iff _ _ m.ascending n.ascending fun ⟨k, v⟩ => ?_
    rw [← get?_eq_some_iff, ← get?_eq_some_iff, h]
  cases m
  cases n
  simp only at same
  subst same
  rfl

/-! ## Changing the values -/

section Mapping

variable {β : Type}

/-- The map with every value changed. -/
def map (f : α → β) (m : KeyMap α) : KeyMap β where
  entries := m.entries.map fun e => (e.1, f e.2)
  ascending := List.pairwise_map.2 m.ascending

@[simp] theorem get?_map (f : α → β) (m : KeyMap α) (k : String) :
    (m.map f).get? k = (m.get? k).map f := by
  simp only [get?, map, List.find?_map, Option.map_map]
  rfl

theorem map_insert (f : α → β) (m : KeyMap α) (k : String) (v : α) :
    (m.insert k v).map f = (m.map f).insert k (f v) := by
  refine ext_get? fun k' => ?_
  rw [get?_map, get?_insert, get?_insert, get?_map]
  split <;> rfl

theorem map_erase (f : α → β) (m : KeyMap α) (k : String) :
    (m.erase k).map f = (m.map f).erase k := by
  refine ext_get? fun k' => ?_
  rw [get?_map, get?_erase, get?_erase, get?_map]
  split <;> rfl

theorem map_congr {f g : α → β} {m : KeyMap α} (h : ∀ e ∈ m.entries, f e.2 = g e.2) :
    m.map f = m.map g := by
  refine ext_get? fun k => ?_
  rw [get?_map, get?_map]
  exact Option.map_congr fun v hv => h (k, v) (get?_eq_some_iff.1 hv)

end Mapping

/-- What is put in and taken out leaves a map as if it had been taken out at once. -/
theorem erase_insert (m : KeyMap α) (k : String) (v : α) : (m.insert k v).erase k = m.erase k := by
  refine ext_get? fun k' => ?_
  rw [get?_erase, get?_erase, get?_insert]
  split <;> rfl

/-- Putting in what is there already changes nothing. -/
theorem insert_of_get? {m : KeyMap α} {k : String} {v : α} (h : m.get? k = some v) :
    m.insert k v = m := by
  refine ext_get? fun k' => ?_
  rw [get?_insert]
  split
  · next same => rw [same, h]
  · rfl

/-- Taking out what is not there changes nothing. -/
theorem erase_of_get? {m : KeyMap α} {k : String} (h : m.get? k = none) : m.erase k = m := by
  refine ext_get? fun k' => ?_
  rw [get?_erase]
  split
  · next same => rw [same, h]
  · rfl

end KeyMap

end KeyedLocks
