/-
A body that was written as JSON.

A body is read with a spare character in the place of every stray piece, and whatever holds that
character is taken for broken. A body that was written has no stray piece, but it may hold any
character at all, so it must be sure that the spare one is not among them. It is, because a body
is small: the candidates are written in three bytes or more, and there are more of them than three
bytes each would leave room for (`spareChar_spec`).

A body therefore decodes as the value that it was written from (`decodeBytes_chars`).
-/
import KeyedLocks.Http.Handler
import KeyedLocks.Proofs.Json.RoundTrip
import Mathlib.Data.List.Nodup
import Mathlib.Data.List.Perm.Subperm

set_option autoImplicit false

namespace KeyedLocks.Json

/-! ## The spare character -/

/-- Whether a character is written in three bytes or more and can be a spare one. -/
def isHigh (c : Char) : Bool := 0xE000 ≤ c.toNat

/-- The candidates are characters: they lie above the surrogates. -/
theorem toNat_candidate {n : Nat} (low : 0xE000 ≤ n) (valid : n < 0x110000) :
    (Char.ofNat n).toNat = n := by
  rw [Char.ofNat, dif_pos (.inr ⟨by omega, valid⟩)]
  rfl

/-- Characters that can be spare ones take three bytes each. -/
theorem three_mul_length_high (cs : List Char) :
    3 * (cs.filter isHigh).length ≤ (Text.encode cs).length := by
  induction cs with
  | nil => exact Nat.le_refl 0
  | cons c cs ih =>
    rw [Text.encode_cons, List.length_append, List.filter_cons]
    split
    · next high =>
      have large : 0xE000 ≤ c.val.toNat := by simpa [isHigh] using high
      -- Only characters below 0x800 are written in fewer bytes, and these are far below.
      have three : 3 ≤ (String.utf8EncodeChar c).length := by
        rw [String.utf8EncodeChar.eq_1, if_neg (by omega), if_neg (by omega)]
        split <;> simp
      rw [List.length_cons]
      omega
    · omega

/-- Of more candidates than there are such characters, one is not among them. -/
theorem exists_unused (cs : List Char) (room : (cs.filter isHigh).length + 0xE000 < 0x110000) :
    ∃ i ≤ (cs.filter isHigh).length, Char.ofNat (0xE000 + i) ∉ cs := by
  by_contra none
  push Not at none
  have all : ∀ i < (cs.filter isHigh).length + 1, Char.ofNat (0xE000 + i) ∈ cs.filter isHigh := by
    intro i small
    have value := toNat_candidate (n := 0xE000 + i) (by omega) (by omega)
    refine List.mem_filter.2 ⟨none i (by omega), ?_⟩
    simp only [isHigh, value, decide_eq_true_eq]
    omega
  -- If all of one candidate more than there are high characters were used, they would be that many
  -- high characters, all different.
  have distinct : ((List.range ((cs.filter isHigh).length + 1)).map fun i =>
      Char.ofNat (0xE000 + i)).Nodup := by
    refine List.Nodup.map_on ?_ List.nodup_range
    intro i hi j hj same
    rw [List.mem_range] at hi hj
    have values := congrArg Char.toNat same
    rw [toNat_candidate (by omega) (by omega), toNat_candidate (by omega) (by omega)] at values
    omega
  have inside : (List.range ((cs.filter isHigh).length + 1)).map (fun i => Char.ofNat (0xE000 + i))
      ⊆ cs.filter isHigh := by
    intro c hc
    obtain ⟨i, hi, rfl⟩ := List.mem_map.1 hc
    exact all i (List.mem_range.1 hi)
  have fits := (distinct.subperm inside).length_le
  rw [List.length_map, List.length_range] at fits
  omega

/-- The first unused candidate is no further than any other. -/
theorem firstUnused_spec (cs : List Char) {tries n b : Nat} (enough : b ≤ tries)
    (free : Char.ofNat (n + b) ∉ cs) :
    ∃ i ≤ b, firstUnused cs tries n = Char.ofNat (n + i) ∧ Char.ofNat (n + i) ∉ cs := by
  induction tries generalizing n b with
  | zero =>
    obtain rfl : b = 0 := by omega
    exact ⟨0, Nat.le_refl 0, rfl, free⟩
  | succ tries ih =>
    by_cases used : Char.ofNat n ∈ cs
    · cases b with
      | zero => exact absurd used free
      | succ b =>
        -- The next try starts one further on, and the free candidate is one closer.
        have next : n + (b + 1) = n + 1 + b := by omega
        rw [next] at free
        obtain ⟨i, le, found, unused⟩ := ih (by omega) free
        have same : n + (i + 1) = n + 1 + i := by omega
        refine ⟨i + 1, by omega, ?_, ?_⟩
        · rw [firstUnused, if_pos (by simpa using used), found, same]
        · rw [same]
          exact unused
    · refine ⟨0, Nat.zero_le b, ?_, used⟩
      rw [firstUnused, if_neg (by simpa using used)]
      rfl

/-- **The spare character of a small body** is not in it, and it stands for itself. -/
theorem spareChar_spec {cs : List Char} (small : (Text.encode cs).length ≤ Http.bodyLimit) :
    spareChar cs ∉ cs ∧ 0xE000 ≤ (spareChar cs).toNat := by
  have size := three_mul_length_high cs
  have limit : Http.bodyLimit = 2097152 := rfl
  obtain ⟨b, le, free⟩ := exists_unused cs (by omega)
  have tries : b ≤ cs.length := Nat.le_trans le (List.length_filter_le _ _)
  obtain ⟨i, near, found, unused⟩ := firstUnused_spec cs tries free
  have value := toNat_candidate (n := 0xE000 + i) (by omega) (by omega)
  rw [spareChar, found]
  exact ⟨unused, by omega⟩

/-! ## Marking what was written -/

/-- A high character is written as itself. -/
theorem escapeChar_of_high {c : Char} (high : 0xE000 ≤ c.toNat) : escapeChar c = [c] := by
  unfold escapeChar
  split <;> first | exact absurd high (by decide) | skip
  rw [if_neg (by omega)]

/-- A string that was written is not marked if the spare character is not in its literal. -/
theorem mark_of_absent {stray : Char} (high : 0xE000 ≤ stray.toNat) {s : String}
    (absent : stray ∉ stringChars s) : (Literal.whole s).mark stray = .whole s := by
  refine Literal.mark_whole fun inside => absent ?_
  have body : stray ∈ s.toList.flatMap escapeChar :=
    List.mem_flatMap.2 ⟨stray, inside, by rw [escapeChar_of_high high]; exact List.mem_cons_self⟩
  simp [stringChars, body]

/-- A low character is not the spare one. -/
theorem ne_of_high {stray c : Char} (high : 0xE000 ≤ stray.toNat) (low : c.toNat < 0xE000) :
    stray ≠ c := by
  rintro rfl
  omega

mutual

/-- A value that was written is not marked if the spare character is not in it. -/
theorem mark_reading {stray : Char} (high : 0xE000 ≤ stray.toNat) (v : Value)
    (absent : stray ∉ v.chars) : v.reading.mark stray = v.reading := by
  cases v with
  | null | bool | number => simp only [Value.reading, Reading.mark]
  | string s =>
    rw [Value.chars] at absent
    simp only [Value.reading, Reading.mark, mark_of_absent high absent]
  | array items =>
    rw [Value.chars, List.mem_cons, not_or] at absent
    -- The brackets are low characters, so what is left to look through is what stands between them.
    have more : stray ∉ moreItemChars items := by
      cases items with
      | nil => simpa [moreItemChars] using absent.2
      | cons v vs =>
        rw [moreItemChars_cons, List.mem_cons, not_or]
        exact ⟨ne_of_high high (by decide), absent.2⟩
    simp only [Value.reading, Reading.mark, mark_readingItems high items more]
  | object members =>
    rw [Value.chars, List.mem_cons, not_or] at absent
    have more : stray ∉ moreMemberChars members := by
      cases members with
      | nil => simpa [moreMemberChars] using absent.2
      | cons m ms =>
        rw [moreMemberChars_cons, List.mem_cons, not_or]
        exact ⟨ne_of_high high (by decide), absent.2⟩
    simp only [Value.reading, Reading.mark, mark_readingMembers high members more]

theorem mark_readingItems {stray : Char} (high : 0xE000 ≤ stray.toNat) (vs : List Value)
    (absent : stray ∉ moreItemChars vs) : (readingItems vs).mark stray = readingItems vs := by
  cases vs with
  | nil => simp only [readingItems, Items.mark]
  | cons v vs =>
    simp only [moreItemChars, List.mem_append, List.mem_cons, not_or] at absent
    simp only [readingItems, Items.mark, mark_reading high v absent.1.2,
      mark_readingItems high vs absent.2]

theorem mark_readingMembers {stray : Char} (high : 0xE000 ≤ stray.toNat)
    (ms : List (String × Value)) (absent : stray ∉ moreMemberChars ms) :
    (readingMembers ms).mark stray = readingMembers ms := by
  cases ms with
  | nil => simp only [readingMembers, Members.mark]
  | cons m ms =>
    obtain ⟨k, v⟩ := m
    simp only [moreMemberChars, List.mem_append, List.mem_cons, not_or] at absent
    simp only [readingMembers, Members.mark, mark_of_absent high absent.1.1.2,
      mark_reading high v absent.1.2.2, mark_readingMembers high ms absent.2]

end

/-! ## Bodies -/

/-- **A body that was written decodes** as the value that it was written from. -/
theorem decodeBytes_chars {α : Type} (f : Reading → Decoded α) {v : Value} (integral : v.Integral)
    (small : (Text.encode v.chars).length ≤ Http.bodyLimit) :
    decodeBytes f (Text.encode v.chars) = f v.reading := by
  obtain ⟨absent, high⟩ := spareChar_spec small
  have text : (v.chars.map some).filterMap id = v.chars := by
    rw [List.filterMap_map]
    exact List.filterMap_some
  have same : (v.chars.map some).map (fun p => p.getD (spareChar v.chars)) = v.chars := by
    rw [List.map_map]
    exact List.map_id v.chars
  rw [decodeBytes, Text.pieces_encode, text, same, decodeText_chars _ integral,
    mark_reading high v absent]

end KeyedLocks.Json
