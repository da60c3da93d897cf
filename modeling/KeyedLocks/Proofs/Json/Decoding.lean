/-
Decoders and what a reading says.

A decoder walks over a reading, but whether it accepts one is up to the tree that the reading says:
a string is a string however it was spelled (`decodeString_eq_ok_iff`), and what is passed over
needs no more than to say something (`skip_eq_ok_iff`). So every decoder has a lemma that tells what
it accepts in terms of trees, and where a reading breaks off it accepts nothing.
-/
import KeyedLocks.Json.Decode
import KeyedLocks.Proofs.Json.Spelling

set_option autoImplicit false

namespace KeyedLocks.Json

/-! ## Readings that say a given tree -/

/-- Only a whole literal stands for a string. -/
@[simp] theorem text?_eq_some_some {l : Literal} {s : String} :
    l.text? = some (some s) ↔ l = .whole s := by
  cases l with
  | whole s' => simp [Literal.text?]
  | faulty read skip => cases skip <;> simp [Literal.text?]

/-- A tree tells the reading that says it, as long as no strings are involved. -/
@[simp] theorem tree?_eq_null {v : Reading} : v.tree? = some .null ↔ v = .null := by
  cases v <;> simp [Reading.tree?]

@[simp] theorem tree?_eq_number {v : Reading} {n : Numeral} :
    v.tree? = some (.number n) ↔ v = .number n := by
  cases v <;> simp [Reading.tree?]

/-- A string is said by one reading only; a literal without one may be faulty in many ways. -/
@[simp] theorem tree?_eq_string {v : Reading} {s : String} :
    v.tree? = some (.string (some s)) ↔ v = .string (.whole s) := by
  cases v <;> simp [Reading.tree?]

theorem tree?_eq_array {v : Reading} {ts : List Tree} :
    v.tree? = some (.array ts) ↔ ∃ is, v = .array is ∧ is.trees? = some ts := by
  cases v <;> simp [Reading.tree?]

theorem tree?_eq_object {v : Reading} {ts : List (Option String × Tree)} :
    v.tree? = some (.object ts) ↔ ∃ ms, v = .object ms ∧ ms.trees? = some ts := by
  cases v <;> simp [Reading.tree?]

@[simp] theorem trees?_eq_nil {is : Items} : is.trees? = some [] ↔ is = .closed := by
  cases is <;> simp [Items.trees?, Option.bind_eq_some_iff]

/-- Items say their trees one after the other. -/
theorem trees?_eq_cons {is : Items} {t : Tree} {ts : List Tree} :
    is.trees? = some (t :: ts)
      ↔ ∃ v rest, is = .item v rest ∧ v.tree? = some t ∧ rest.trees? = some ts := by
  constructor
  · intro trees
    cases is with
    | closed | stop => simp [Items.trees?] at trees
    | item v rest =>
      exact ⟨v, rest, rfl, by simpa [Items.trees?, Option.bind_eq_some_iff] using trees⟩
  · rintro ⟨v, rest, rfl, tree, trees⟩
    simp [Items.trees?, tree, trees]

@[simp] theorem members_trees?_eq_nil {ms : Members} : ms.trees? = some [] ↔ ms = .closed := by
  cases ms <;> simp [Members.trees?, Option.bind_eq_some_iff]

/-- Members make trees one by one like items, each with its name. -/
theorem members_trees?_eq_cons {ms : Members} {name : Option String} {t : Tree}
    {ts : List (Option String × Tree)} :
    ms.trees? = some ((name, t) :: ts) ↔ ∃ key v rest, ms = .member key v rest
      ∧ key.text? = some name ∧ v.tree? = some t ∧ rest.trees? = some ts := by
  constructor
  · intro trees
    cases ms with
    | closed | stop => simp [Members.trees?] at trees
    | member key v rest =>
      obtain ⟨s, text, u, tree, more, rfl, rfl⟩ :
          ∃ s, key.text? = some s ∧ ∃ u, v.tree? = some u ∧ rest.trees? = some ts
            ∧ s = name ∧ u = t := by
        simpa [Members.trees?, Option.bind_eq_some_iff] using trees
      exact ⟨key, v, rest, rfl, text, tree, more⟩
  · rintro ⟨key, v, rest, rfl, text, tree, trees⟩
    simp [Members.trees?, text, tree, trees]

/-! ## Plain values -/

/-- A literal can be read if it is whole. -/
theorem read_eq_ok_iff {l : Literal} {s : String} : l.read = .ok s ↔ l = .whole s := by
  cases l <;> simp [Literal.read]

theorem ofFault_eq_ok_iff {α : Type} {e : Except Fault α} {a : α} :
    ofFault e = .ok a ↔ e = .ok a := by
  cases e <;> simp [ofFault]

/-- A type error is never a result, whatever the reading was. -/
theorem wrongType_ne_ok {α : Type} (wanted : String) (v : Reading) (a : α) :
    wrongType wanted v ≠ .ok a := by
  rw [wrongType]
  cases v.shape <;> simp

theorem under_eq_ok_iff {α : Type} {s : Segment} {e : Decoded α} {a : α} :
    e.under s = .ok a ↔ e = .ok a := by
  cases e <;> simp [Decoded.under]

/-- What comes out of a map was something before. -/
theorem map_eq_ok_iff {ε α β : Type} {f : α → β} {e : Except ε α} {b : β} :
    e.map f = .ok b ↔ ∃ a, e = .ok a ∧ f a = b := by
  cases e <;> simp [Except.map]

/-- A string is accepted exactly if the reading says it. -/
theorem decodeString_eq_ok_iff {v : Reading} {s : String} :
    decodeString v = .ok s ↔ v.tree? = some (.string (some s)) := by
  cases v <;> simp [decodeString, wrongType_ne_ok, ofFault_eq_ok_iff, read_eq_ok_iff]

/-- A numeral is an integer for the reader if it denotes one that fits into a 64-bit word, signed or
not. -/
theorem integer?_eq_some_iff {n : Numeral} {i : Int} :
    n.integer? = some i ↔ n.Denotes i ∧ Int64.minValue.toInt ≤ i ∧ i < UInt64.size := by
  have least : Int64.minValue.toInt = -9223372036854775808 := by decide
  have size : UInt64.size = 18446744073709551616 := rfl
  rw [least, size, Numeral.integer?]
  constructor
  · intro found
    split at found
    · next plain =>
      dsimp only at found
      split at found
      · next negative =>
        split at found
        · cases found
          exact ⟨⟨plain.1, plain.2, by omega, by simp [negative]⟩, by omega, by omega⟩
        · cases found
      · next positive =>
        split at found
        · cases found
          exact ⟨⟨plain.1, plain.2, by simp [positive], by simp [positive]⟩, by omega, by omega⟩
        · cases found
    · cases found
  -- With a minus the lower bound is looked at, and without one the upper.
  · rintro ⟨⟨fraction, exponent, zero, value⟩, low, high⟩
    rw [if_pos ⟨fraction, exponent⟩]
    dsimp only
    split
    · next negative =>
      rw [if_pos negative] at value
      have other := zero negative
      rw [if_pos (by omega), value]
    · next positive =>
      rw [if_neg positive] at value
      rw [if_pos (by omega), value]

/-- **An integer** is accepted if it is one and is in range. -/
theorem decodeInteger_eq_ok_iff {type : IntegerType}
    (low : Int64.minValue.toInt ≤ type.bounds.least)
    (high : type.bounds.greatest < UInt64.size) {v : Reading} {i : Int} :
    decodeInteger type v = .ok i
      ↔ (∃ t, v.tree? = some t ∧ t.IsInteger i) ∧ type.bounds.contains i = true := by
  constructor
  · intro decoded
    unfold decodeInteger at decoded
    split at decoded
    · next n =>
      split at decoded
      · next j found =>
        split at decoded
        · next fits =>
          cases decoded
          exact ⟨⟨.number n, rfl, n, rfl, (integer?_eq_some_iff.1 found).1⟩, fits⟩
        · cases decoded
      · exact absurd decoded (wrongType_ne_ok _ _ _)
    · exact absurd decoded (wrongType_ne_ok _ _ _)
  · rintro ⟨⟨_, tree, n, rfl, denotes⟩, fits⟩
    obtain rfl := tree?_eq_number.1 tree
    -- The bounds of the type are within those of the reader, so nothing that fits was turned away
    -- before.
    have within := fits
    simp only [Text.Bounds.contains, Bool.and_eq_true, decide_eq_true_eq] at within
    have found : n.integer? = some i := integer?_eq_some_iff.2 ⟨denotes, by omega, by omega⟩
    simp [decodeInteger, found, fits]

/-- Every number of a type is in its range. -/
theorem contains_int32 (n : Int32) : IntegerType.int32.bounds.contains n.toInt = true := by
  have low := n.le_toInt
  have high := n.toInt_lt
  have bounds : IntegerType.int32.bounds = ⟨-2147483648, 2147483647⟩ := rfl
  simp only [bounds, Text.Bounds.contains, Bool.and_eq_true, decide_eq_true_eq]
  omega

/-- The words of each type lie within its bounds. -/
theorem contains_int64 (n : Int64) : IntegerType.int64.bounds.contains n.toInt = true := by
  have low := n.le_toInt
  have high := n.toInt_lt
  have bounds : IntegerType.int64.bounds = ⟨-9223372036854775808, 9223372036854775807⟩ := rfl
  simp only [bounds, Text.Bounds.contains, Bool.and_eq_true, decide_eq_true_eq]
  omega

theorem contains_word32 (n : UInt32) : IntegerType.word32.bounds.contains n.toNat = true := by
  have high := n.toNat_lt
  have bounds : IntegerType.word32.bounds = ⟨0, 4294967295⟩ := rfl
  simp only [bounds, Text.Bounds.contains, Bool.and_eq_true, decide_eq_true_eq]
  omega

theorem contains_word64 (n : UInt64) : IntegerType.word64.bounds.contains n.toNat = true := by
  have high := n.toNat_lt
  have bounds : IntegerType.word64.bounds = ⟨0, 18446744073709551615⟩ := rfl
  simp only [bounds, Text.Bounds.contains, Bool.and_eq_true, decide_eq_true_eq]
  omega

/-- **An integer of a type** is accepted as the number of that type that it is. -/
theorem map_decodeInteger_eq_ok_iff {ν β : Type} {type : IntegerType} {toInt : ν → Int}
    {ofInt : Int → ν} (low : Int64.minValue.toInt ≤ type.bounds.least)
    (high : type.bounds.greatest < UInt64.size)
    (fits : ∀ n, type.bounds.contains (toInt n) = true) (back : ∀ n, ofInt (toInt n) = n)
    (forth : ∀ i, type.bounds.contains i = true → toInt (ofInt i) = i) {f : ν → β} {v : Reading}
    {b : β} : (decodeInteger type v).map (fun i => f (ofInt i)) = .ok b
      ↔ ∃ n, (∃ t, v.tree? = some t ∧ t.IsInteger (toInt n)) ∧ f n = b := by
  rw [map_eq_ok_iff]
  constructor
  · rintro ⟨i, decoded, same⟩
    obtain ⟨integer, fit⟩ := (decodeInteger_eq_ok_iff low high).1 decoded
    exact ⟨ofInt i, by rwa [forth i fit], same⟩
  · rintro ⟨n, integer, same⟩
    exact ⟨toInt n, (decodeInteger_eq_ok_iff low high).2 ⟨integer, fits n⟩, by rw [back, same]⟩

/-! ## Choices -/

/-- A name is accepted exactly if it is listed. -/
theorem variantOf_eq_ok_iff {α : Type} {variants : List (String × α)} {name : String} {a : α} :
    variantOf variants name = .ok a ↔ variants.lookup name = some a := by
  rw [variantOf]
  cases variants.lookup name <;> simp

theorem close_eq_ok_iff {ms : Members} : ms.close = .ok () ↔ ms = .closed := by
  cases ms <;> simp [Members.close]

/-- **A choice** is accepted if it is the name of a variant. -/
theorem decodeChoice_eq_ok_iff {α : Type} {variants : List (String × α)} {v : Reading} {a : α} :
    decodeChoice variants v = .ok a
      ↔ ∃ name, variants.lookup name = some a ∧ ∃ t, v.tree? = some t ∧ t.IsChoice name := by
  constructor
  · intro decoded
    unfold decodeChoice at decoded
    split at decoded
    -- The name may stand alone or as the only member of an object, with null under it.
    · next l =>
      split at decoded
      · next name read =>
        obtain rfl := read_eq_ok_iff.1 read
        exact ⟨name, variantOf_eq_ok_iff.1 decoded, _, rfl, .inl rfl⟩
      · cases decoded
    · next key v rest =>
      split at decoded
      · cases decoded
      · next name read =>
        obtain rfl := read_eq_ok_iff.1 read
        split at decoded
        · cases decoded
        · next b found =>
          split at decoded
          · obtain ⟨_, closed, rfl⟩ := map_eq_ok_iff.1 (ofFault_eq_ok_iff.1 decoded)
            obtain rfl := close_eq_ok_iff.1 closed
            exact ⟨name, variantOf_eq_ok_iff.1 found, _, rfl, .inr rfl⟩
          · exact absurd (under_eq_ok_iff.1 decoded) (wrongType_ne_ok _ _ _)
    all_goals cases decoded
  · rintro ⟨name, found, t, tree, rfl | rfl⟩
    · obtain rfl := tree?_eq_string.1 tree
      exact variantOf_eq_ok_iff.2 found
    · obtain ⟨ms, rfl, trees⟩ := tree?_eq_object.1 tree
      obtain ⟨key, w, rest, rfl, text, null, closed⟩ := members_trees?_eq_cons.1 trees
      obtain rfl := text?_eq_some_some.1 text
      obtain rfl := tree?_eq_null.1 null
      obtain rfl := members_trees?_eq_nil.1 closed
      rw [decodeChoice, Literal.read]
      simp [variantOf_eq_ok_iff.2 found, Members.close, Except.map, ofFault]

/-! ## Passing over -/

theorem literal_skip_eq_ok_iff (l : Literal) : l.skip = .ok () ↔ l.text?.isSome = true := by
  cases l with
  | whole s => simp [Literal.skip, Literal.text?]
  | faulty read skip => cases skip <;> simp [Literal.skip, Literal.text?]

mutual

/-- **What is passed over** says something, and nothing more is asked of it. -/
theorem skip_eq_ok_iff (v : Reading) : v.skip = .ok () ↔ v.tree?.isSome = true := by
  cases v with
  | string l => simp [Reading.skip, Reading.tree?, literal_skip_eq_ok_iff l]
  | array is => simp [Reading.skip, Reading.tree?, items_skip_eq_ok_iff is]
  | object ms => simp [Reading.skip, Reading.tree?, members_skip_eq_ok_iff ms]
  | _ => simp [Reading.skip, Reading.tree?]

/-- Items are passed over if each of them is. -/
theorem items_skip_eq_ok_iff (is : Items) : is.skip = .ok () ↔ is.trees?.isSome = true := by
  cases is with
  | closed | stop => simp [Items.skip, Items.trees?]
  | item v rest =>
    have both : (Items.item v rest).skip = .ok () ↔ v.skip = .ok () ∧ rest.skip = .ok () := by
      rw [Items.skip]
      cases v.skip <;> simp
    rw [both, skip_eq_ok_iff v, items_skip_eq_ok_iff rest, Items.trees?]
    cases v.tree? <;> simp

/-- Members are passed over if each name and each value is. -/
theorem members_skip_eq_ok_iff (ms : Members) : ms.skip = .ok () ↔ ms.trees?.isSome = true := by
  cases ms with
  | closed | stop => simp [Members.skip, Members.trees?]
  | member key v rest =>
    have each : (Members.member key v rest).skip = .ok ()
        ↔ key.skip = .ok () ∧ v.skip = .ok () ∧ rest.skip = .ok () := by
      rw [Members.skip]
      cases key.skip <;> cases v.skip <;> simp
    rw [each, literal_skip_eq_ok_iff key, skip_eq_ok_iff v, members_skip_eq_ok_iff rest,
      Members.trees?]
    cases key.text? <;> cases v.tree? <;> simp

end

/-! ## Reading in full -/

mutual

/-- **What is read in full** says something proper that is not too deep. -/
theorem check_eq_ok_iff (v : Reading) (depth : Nat) :
    v.check depth = .ok () ↔ ∃ t, v.tree? = some t ∧ t.Proper ∧ t.depth ≤ depth := by
  cases v with
  | null | bool | cutNumber | cutWord | broken =>
    simp [Reading.check, Reading.tree?, Tree.Proper, Tree.depth]
  | number n => simp [Reading.check, Reading.tree?, Tree.Proper, Tree.depth]
  -- A literal that is not whole is spelled right at most, and then it stands for no string.
  | string l =>
    cases l with
    | whole s =>
      simp [Reading.check, Reading.tree?, Literal.read, Literal.text?, Tree.Proper, Tree.depth,
        Except.map]
    | faulty read skip =>
      cases skip <;>
        simp [Reading.check, Reading.tree?, Literal.read, Literal.text?, Tree.Proper, Except.map]
  | array is =>
    cases depth with
    -- Any bracket is one level too deep here.
    | zero => simp [Reading.check, Reading.tree?, Tree.depth]
    | succ depth =>
      simp [Reading.check, Reading.tree?, Tree.Proper, Tree.depth, items_check_eq_ok_iff is depth]
  | object ms =>
    cases depth with
    | zero => simp [Reading.check, Reading.tree?, Tree.depth]
    | succ depth =>
      simp [Reading.check, Reading.tree?, Tree.Proper, Tree.depth, members_check_eq_ok_iff ms depth]

/-- Items are read in full one after the other, and the deepest of them counts. -/
theorem items_check_eq_ok_iff (is : Items) (depth : Nat) :
    is.check depth = .ok ()
      ↔ ∃ ts, is.trees? = some ts ∧ ProperItems ts ∧ itemsDepth ts ≤ depth := by
  cases is with
  | closed | stop => simp [Items.check, Items.trees?, ProperItems, itemsDepth]
  | item v rest =>
    have both : (Items.item v rest).check depth = .ok ()
        ↔ v.check depth = .ok () ∧ rest.check depth = .ok () := by
      rw [Items.check]
      cases v.check depth <;> simp
    rw [both, check_eq_ok_iff v, items_check_eq_ok_iff rest, Items.trees?]
    constructor
    · rintro ⟨⟨t, tree, proper, flat⟩, ts, trees, proper', flat'⟩
      exact ⟨t :: ts, by simp [tree, trees], ⟨proper, proper'⟩, Nat.max_le.2 ⟨flat, flat'⟩⟩
    · rintro ⟨ts, trees, proper, flat⟩
      obtain ⟨t, tree, more, trees', rfl⟩ :
          ∃ t, v.tree? = some t ∧ ∃ more, rest.trees? = some more ∧ t :: more = ts := by
        simpa [Option.bind_eq_some_iff] using trees
      rw [ProperItems] at proper
      rw [itemsDepth, Nat.max_le] at flat
      exact ⟨⟨t, tree, proper.1, flat.1⟩, more, trees', proper.2, flat.2⟩

/-- Members are checked one by one, and their names must be strings. -/
theorem members_check_eq_ok_iff (ms : Members) (depth : Nat) :
    ms.check depth = .ok ()
      ↔ ∃ ts, ms.trees? = some ts ∧ ProperMembers ts ∧ membersDepth ts ≤ depth := by
  cases ms with
  | closed | stop => simp [Members.check, Members.trees?, ProperMembers, membersDepth]
  | member key v rest =>
    have each : (Members.member key v rest).check depth = .ok ()
        ↔ (∃ s, key.read = .ok s) ∧ v.check depth = .ok () ∧ rest.check depth = .ok () := by
      rw [Members.check]
      cases key.read <;> cases v.check depth <;> simp
    simp only [each, read_eq_ok_iff, check_eq_ok_iff v, members_check_eq_ok_iff rest]
    constructor
    · rintro ⟨⟨s, rfl⟩, ⟨t, tree, proper, flat⟩, ts, trees, proper', flat'⟩
      exact ⟨(some s, t) :: ts, by simp [Members.trees?, Literal.text?, tree, trees],
        ⟨rfl, proper, proper'⟩, Nat.max_le.2 ⟨flat, flat'⟩⟩
    · rintro ⟨ts, trees, proper, flat⟩
      obtain ⟨name, text, t, tree, more, trees', rfl⟩ :
          ∃ name, key.text? = some name ∧ ∃ t, v.tree? = some t ∧ ∃ more, rest.trees? = some more
            ∧ (name, t) :: more = ts := by
        simpa [Members.trees?, Option.bind_eq_some_iff] using trees
      rw [ProperMembers] at proper
      rw [membersDepth, Nat.max_le] at flat
      obtain ⟨s, rfl⟩ := Option.isSome_iff_exists.1 proper.1
      exact ⟨⟨s, text?_eq_some_some.1 text⟩, ⟨t, tree, proper.2.1, flat.1⟩, more, trees',
        proper.2.2, flat.2⟩

end

end KeyedLocks.Json
