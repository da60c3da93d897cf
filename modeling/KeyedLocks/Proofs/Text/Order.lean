/-
Texts are in the order of their bytes.

A character of more bytes has a greater first byte, and of two characters of as many bytes the
greater one has the greater byte where they first differ. So whatever stands behind them, two
different characters are in the order of what they are written as (`encodeChar_lt`), and texts
can be compared by their characters or by their bytes: it comes to the same (`encode_lt_iff`).
-/
import KeyedLocks.Proofs.Text.Utf8

set_option autoImplicit false

namespace KeyedLocks.Text

/-- Bytes that follow each other are compared by the first that differ. -/
theorem cons_byte_lt_iff {n m : Nat} (hn : n < 256) (hm : m < 256) (xs ys : List UInt8) :
    UInt8.ofNat n :: xs < UInt8.ofNat m :: ys ↔ n < m ∨ n = m ∧ xs < ys := by
  rw [List.cons_lt_cons_iff, UInt8.lt_iff_toNat_lt, ← UInt8.toNat_inj, toNat_byte hn, toNat_byte hm]

/-- **Two characters** are in the order of their bytes, whatever stands behind them. -/
theorem encodeChar_lt {c d : Char} (lt : c < d) (xs ys : List UInt8) :
    String.utf8EncodeChar c ++ xs < String.utf8EncodeChar d ++ ys := by
  have lt : c.val.toNat < d.val.toNat := lt
  have last : d.val.toNat < 0x110000 := by
    have valid : d.val.toNat < 0xD800 ∨ 0xDFFF < d.val.toNat ∧ d.val.toNat < 0x110000 := d.valid
    omega
  rw [String.utf8EncodeChar.eq_1, String.utf8EncodeChar.eq_1]
  generalize c.val.toNat = v at lt ⊢
  generalize d.val.toNat = w at lt last ⊢
  -- Every byte but the first has six bits, so the quotients are taken by 64 each time.
  have twice (n : Nat) : n / 4096 = n / 64 / 64 := by omega
  have thrice (n : Nat) : n / 262144 = n / 64 / 64 / 64 := by omega
  repeat' split
  all_goals
    simp (disch := omega) only [List.cons_append, List.nil_append, cons_byte_lt_iff, twice, thrice]
    omega

/-- Texts in order are written in order. -/
theorem encode_lt_encode {cs ds : List Char} (lt : cs < ds) : encode cs < encode ds := by
  induction cs generalizing ds with
  | nil =>
    cases ds with
    | nil => cases lt
    | cons d ds =>
      cases bytes : encode (d :: ds) with
      | cons b bs => exact List.nil_lt_cons b bs
      -- Bytes read back as the characters, so no character is written as none.
      | nil =>
        have none_left := congrArg pieces bytes
        rw [pieces_encode, pieces_nil] at none_left
        cases none_left
  | cons c cs ih =>
    cases ds with
    | nil => cases lt
    | cons d ds =>
      rw [encode_cons, encode_cons]
      rcases List.cons_lt_cons_iff.1 lt with first | ⟨rfl, rest⟩
      · exact encodeChar_lt first _ _
      · exact List.append_left_lt (ih rest)

/-- **Texts are in the order of their bytes.** -/
theorem encode_lt_iff {s t : String} : encode s.toList < encode t.toList ↔ s < t := by
  refine ⟨fun lt => ?_, fun lt => encode_lt_encode (String.lt_iff.1 lt)⟩
  -- Texts can be compared, and in the two other cases the bytes are not in this order.
  rcases Std.Trichotomous.rel_or_eq_or_rel_swap (r := (· < · : String → String → Prop))
      (a := s) (b := t) with before | rfl | behind
  · exact before
  · exact absurd lt (List.lt_irrefl _)
  · exact absurd lt (List.lt_asymm (encode_lt_encode (String.lt_iff.1 behind)))

end KeyedLocks.Text
