/-
What is written as bytes reads back.

A character is written in one to four bytes, and which it is can be told from the first. What
the first byte says of the second keeps out exactly the forms that are never written, so the
bytes of a text are cut into its characters again and no stray piece is left (`pieces_encode`).
-/
import KeyedLocks.Text.Utf8

set_option autoImplicit false

namespace KeyedLocks.Text

/-! ## Bytes as numbers -/

/-- A number below 256 fits into a byte. -/
theorem toNat_byte {n : Nat} (h : n < 256) : (UInt8.ofNat n).toNat = n := by
  rw [UInt8.toNat_ofNat']
  exact Nat.mod_eq_of_lt h

/-- What a first byte says, in terms of its number. -/
theorem Lead.of?_byte {n : Nat} (h : n < 256) :
    Lead.of? (UInt8.ofNat n)
      = if 0xC2 ≤ n ∧ n ≤ 0xDF then some ⟨n - 0xC0, 1, 0x80, 0xBF⟩
        else if n = 0xE0 then some ⟨0, 2, 0xA0, 0xBF⟩
        else if n = 0xED then some ⟨0xD, 2, 0x80, 0x9F⟩
        else if 0xE1 ≤ n ∧ n ≤ 0xEF then some ⟨n - 0xE0, 2, 0x80, 0xBF⟩
        else if n = 0xF0 then some ⟨0, 3, 0x90, 0xBF⟩
        else if 0xF1 ≤ n ∧ n ≤ 0xF3 then some ⟨n - 0xF0, 3, 0x80, 0xBF⟩
        else if n = 0xF4 then some ⟨4, 3, 0x80, 0x8F⟩
        else none := by
  simp only [Lead.of?, UInt8.le_iff_toNat_le, ← UInt8.toNat_inj, toNat_byte h, Bool.and_eq_true,
    decide_eq_true_eq]
  rfl

/-- A byte that is in its range is taken. -/
theorem takeFollowing_byte {k n acc : Nat} {low high : UInt8} (rest : List UInt8) (h : n < 256)
    (above : low.toNat ≤ n) (below : n ≤ high.toNat) :
    takeFollowing (k + 1) low high acc (UInt8.ofNat n :: rest)
      = takeFollowing k 0x80 0xBF (acc * 64 + (n - 0x80)) rest := by
  have inside : (low ≤ UInt8.ofNat n && UInt8.ofNat n ≤ high) = true := by
    simp only [UInt8.le_iff_toNat_le, toNat_byte h, Bool.and_eq_true, decide_eq_true_eq]
    exact ⟨above, below⟩
  rw [takeFollowing, if_pos inside, toNat_byte h]

/-- The last byte of a character. -/
theorem takeFollowing_last {n acc : Nat} {low high : UInt8} (rest : List UInt8) (h : n < 256)
    (above : low.toNat ≤ n) (below : n ≤ high.toNat) :
    takeFollowing 1 low high acc (UInt8.ofNat n :: rest)
      = (some (Char.ofNat (acc * 64 + (n - 0x80))), rest) := by
  rw [takeFollowing_byte rest h above below]
  rfl

/-- After a first byte that leads, the bytes that follow are taken. -/
theorem firstPiece_of_lead {n : Nat} {lead : Lead} (rest : List UInt8) (h : n < 256)
    (high : 0x80 ≤ n) (leads : Lead.of? (UInt8.ofNat n) = some lead) :
    firstPiece (UInt8.ofNat n) rest
      = takeFollowing lead.following lead.low lead.high lead.bits rest := by
  have several : ¬ UInt8.ofNat n < 0x80 := by
    rw [UInt8.lt_iff_toNat_lt, toNat_byte h]
    exact Nat.not_lt.2 high
  rw [firstPiece, if_neg several, leads]

/-! ## One character, by the number of its bytes -/

section Sizes

variable {v : Nat} (rest : List UInt8)

theorem firstPiece_one (h : v ≤ 0x7F) :
    firstPiece (UInt8.ofNat v) rest = (some (Char.ofNat v), rest) := by
  have single : UInt8.ofNat v < 0x80 := by
    rw [UInt8.lt_iff_toNat_lt, toNat_byte (by omega)]
    exact Nat.lt_succ_of_le h
  rw [firstPiece, if_pos single, toNat_byte (by omega)]

/-- In two bytes there are five bits and six. -/
theorem firstPiece_two (low : 0x7F < v) (high : v ≤ 0x7FF) :
    firstPiece (UInt8.ofNat (v / 64 % 32 + 192)) (UInt8.ofNat (v % 64 + 128) :: rest)
      = (some (Char.ofNat v), rest) := by
  have leads := Lead.of?_byte (n := v / 64 % 32 + 192) (by omega)
  rw [if_pos (by omega)] at leads
  rw [firstPiece_of_lead _ (by omega) (by omega) leads,
    takeFollowing_last rest (by omega) (by simp) (by simp; omega)]
  have value : (v / 64 % 32 + 192 - 0xC0) * 64 + (v % 64 + 128 - 0x80) = v := by omega
  rw [value]

/-- In three bytes there are four bits and twice six. The surrogates are left out here, for they are
never written. -/
theorem firstPiece_three (low : 0x7FF < v) (high : v ≤ 0xFFFF) (valid : v < 0xD800 ∨ 0xDFFF < v) :
    firstPiece (UInt8.ofNat (v / 4096 % 16 + 224))
        (UInt8.ofNat (v / 64 % 64 + 128) :: UInt8.ofNat (v % 64 + 128) :: rest)
      = (some (Char.ofNat v), rest) := by
  have leads := Lead.of?_byte (n := v / 4096 % 16 + 224) (by omega)
  -- The second byte is in the range that the first one names: below it would be an overlong
  -- form, above it a surrogate.
  have second : ∀ bits : Nat, ∀ least most : UInt8, bits * 4096 ≤ v → v < bits * 4096 + 4096 →
      least.toNat ≤ v / 64 % 64 + 128 → v / 64 % 64 + 128 ≤ most.toNat →
      Lead.of? (UInt8.ofNat (v / 4096 % 16 + 224)) = some ⟨bits, 2, least, most⟩ →
      firstPiece (UInt8.ofNat (v / 4096 % 16 + 224))
        (UInt8.ofNat (v / 64 % 64 + 128) :: UInt8.ofNat (v % 64 + 128) :: rest)
          = (some (Char.ofNat v), rest) := by
    intro bits least most from_ to_ above below lead
    rw [firstPiece_of_lead _ (by omega) (by omega) lead,
      takeFollowing_byte _ (by omega) above below,
      takeFollowing_last rest (by omega) (by simp) (by simp; omega)]
    have value : (bits * 64 + (v / 64 % 64 + 128 - 0x80)) * 64 + (v % 64 + 128 - 0x80) = v := by
      omega
    rw [value]
  rw [if_neg (by omega)] at leads
  by_cases first : v / 4096 = 0
  · rw [if_pos (by omega)] at leads
    exact second 0 _ _ (by simp) (by omega) (by simp; omega) (by simp; omega) leads
  rw [if_neg (by omega)] at leads
  by_cases surrogate : v / 4096 = 13
  · rw [if_pos (by omega)] at leads
    exact second 13 _ _ (by omega) (by omega) (by simp) (by simp; omega) leads
  rw [if_neg (by omega), if_pos (by omega)] at leads
  exact second _ _ _ (by omega) (by omega) (by simp) (by simp; omega) leads

/-- In four bytes there are three bits and three times six. -/
theorem firstPiece_four (low : 0xFFFF < v) (high : v < 0x110000) :
    firstPiece (UInt8.ofNat (v / 262144 % 8 + 240)) (UInt8.ofNat (v / 4096 % 64 + 128)
        :: UInt8.ofNat (v / 64 % 64 + 128) :: UInt8.ofNat (v % 64 + 128) :: rest)
      = (some (Char.ofNat v), rest) := by
  have leads := Lead.of?_byte (n := v / 262144 % 8 + 240) (by omega)
  -- What the first byte asks of the second depends on the first, and it is met each time; the rest
  -- is the same.
  have second : ∀ bits : Nat, ∀ least most : UInt8, bits * 262144 ≤ v →
      v < bits * 262144 + 262144 → least.toNat ≤ v / 4096 % 64 + 128 →
      v / 4096 % 64 + 128 ≤ most.toNat →
      Lead.of? (UInt8.ofNat (v / 262144 % 8 + 240)) = some ⟨bits, 3, least, most⟩ →
      firstPiece (UInt8.ofNat (v / 262144 % 8 + 240)) (UInt8.ofNat (v / 4096 % 64 + 128)
        :: UInt8.ofNat (v / 64 % 64 + 128) :: UInt8.ofNat (v % 64 + 128) :: rest)
          = (some (Char.ofNat v), rest) := by
    intro bits least most from_ to_ above below lead
    rw [firstPiece_of_lead _ (by omega) (by omega) lead,
      takeFollowing_byte _ (by omega) above below,
      takeFollowing_byte _ (by omega) (by simp) (by simp; omega),
      takeFollowing_last rest (by omega) (by simp) (by simp; omega)]
    have value : ((bits * 64 + (v / 4096 % 64 + 128 - 0x80)) * 64 + (v / 64 % 64 + 128 - 0x80)) * 64
        + (v % 64 + 128 - 0x80) = v := by
      omega
    rw [value]
  rw [if_neg (by omega), if_neg (by omega), if_neg (by omega), if_neg (by omega)] at leads
  by_cases first : v / 262144 = 0
  · rw [if_pos (by omega)] at leads
    exact second 0 _ _ (by omega) (by omega) (by simp; omega) (by simp; omega) leads
  rw [if_neg (by omega)] at leads
  by_cases last : v / 262144 = 4
  · rw [if_neg (by omega), if_pos (by omega)] at leads
    exact second 4 _ _ (by omega) (by omega) (by simp) (by simp; omega) leads
  rw [if_pos (by omega)] at leads
  exact second _ _ _ (by omega) (by omega) (by simp) (by simp; omega) leads

end Sizes

/-! ## Whole texts -/

/-- **One character** is read back from its bytes, whatever stands behind them. -/
theorem pieces_encodeChar (c : Char) (rest : List UInt8) :
    pieces (String.utf8EncodeChar c ++ rest) = some c :: pieces rest := by
  have valid : c.val.toNat < 0xD800 ∨ 0xDFFF < c.val.toNat ∧ c.val.toNat < 0x110000 := c.valid
  have same : Char.ofNat c.val.toNat = c := Char.ofNat_toNat c
  rw [String.utf8EncodeChar.eq_1]
  -- How many bytes are written depends on the value, and each number has its lemma.
  split
  · next h =>
    rw [List.cons_append, List.nil_append, pieces, firstPiece_one rest h, same]
  · next one =>
    split
    · next h =>
      have first := firstPiece_two rest (by omega) h
      rw [List.cons_append, List.cons_append, List.nil_append, pieces, first, same]
    · next two =>
      split
      · next h =>
        have first := firstPiece_three rest (by omega) h (by omega)
        rw [List.cons_append, List.cons_append, List.cons_append, List.nil_append, pieces, first,
          same]
      · next three =>
        have first := firstPiece_four rest (v := c.val.toNat) (by omega) (by omega)
        rw [List.cons_append, List.cons_append, List.cons_append, List.cons_append,
          List.nil_append, pieces, first, same]

/-- **The bytes of a text are cut into its characters again.** -/
theorem pieces_encode (cs : List Char) : pieces (encode cs) = cs.map some := by
  induction cs with
  | nil => exact pieces_nil
  | cons c cs ih => rw [encode_cons, pieces_encodeChar, ih, List.map_cons]

/-- So nothing has to be replaced in it. -/
theorem lossy_encode (cs : List Char) : lossy (encode cs) = cs := by
  rw [lossy, pieces_encode, List.map_map]
  exact List.map_id cs

end KeyedLocks.Text
