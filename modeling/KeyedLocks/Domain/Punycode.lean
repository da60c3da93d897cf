/-
Labels in the letters, digits and dashes of ASCII.

A label with characters beyond ASCII is written as its ASCII characters, a dash if
there are any, and then where the others belong. Those are taken in ascending order,
and for each the number of places that the insertion point moves on is written: going
through all places of the text so far, once for every code point. Such a number is a
row of digits to base thirty-six, the lowest first, in which a digit below a threshold
is the last one. The thresholds follow the size of the numbers before.

Main statement: a number that is written reads back, whatever follows it, as long as
it stays clear of the greatest word of 32 bits.
-/
set_option autoImplicit false

namespace KeyedLocks.Domain

namespace Punycode

/-! ## Digits -/

/-- The digit of a value below thirty-six: the letters come before the digits. -/
def digit (n : Nat) : Char :=
  if n < 26 then Char.ofNat (97 + n) else Char.ofNat (22 + n)

/-- The value of a digit, in either case. -/
def value? (c : Char) : Option Nat :=
  if 'a' ≤ c ∧ c ≤ 'z' then some (c.toNat - 97)
  else if 'A' ≤ c ∧ c ≤ 'Z' then some (c.toNat - 65)
  else if '0' ≤ c ∧ c ≤ '9' then some (c.toNat - 22)
  else none

/-- **A digit reads back.** -/
theorem value?_digit : ∀ n < 36, value? (digit n) = some n := by decide

/-! ## Thresholds -/

/-- The threshold at a position, where positions are counted in steps of thirty-six. -/
def threshold (bias position : Nat) : Nat :=
  if position ≤ bias then 1 else if bias + 26 ≤ position then 26 else position - bias

theorem one_le_threshold (bias position : Nat) : 1 ≤ threshold bias position := by
  unfold threshold
  split
  · omega
  · split <;> omega

theorem threshold_le (bias position : Nat) : threshold bias position ≤ 26 := by
  unfold threshold
  split
  · omega
  · split <;> omega

/-- A number cut down to the size that a bias is read from, and the positions that this
took. -/
def shrink (position n : Nat) : Nat × Nat :=
  if 455 < n then shrink (position + 36) (n / 35) else (position, n)
termination_by n

/-- The bias behind a number, with so many characters in the text. The first number of a
label says more about the place of its alphabet than about the next number. -/
def adapt (n length : Nat) (isFirst : Bool) : Nat :=
  let n := if isFirst then n / 700 else n / 2
  let (position, n) := shrink 0 (n + n / length)
  position + 36 * n / (n + 38)

/-! ## Writing -/

/-- The digits of a number from a position on. -/
def writeNumber (bias position n : Nat) : List Char :=
  let t := threshold bias position
  if n < t then [digit n]
  else digit (t + (n - t) % (36 - t)) :: writeNumber bias (position + 36) ((n - t) / (36 - t))
termination_by n
decreasing_by
  have low := one_le_threshold bias position
  exact Nat.lt_of_le_of_lt (Nat.div_le_self _ _) (by omega)

/-- How far the writing of a label has come: what is written of the numbers, the number
that has gathered since the last one, the bias, and how many characters of the label
are in their places. -/
structure Writing where
  written : List Char
  gathered : Nat
  bias : Nat
  placed : Nat

/-- One place of the label is passed on the way for a code point. -/
def Writing.pass (codePoint ascii : Nat) (w : Writing) (c : Char) : Writing :=
  if c.toNat < codePoint then { w with gathered := w.gathered + 1 }
  else if c.toNat = codePoint then
    { written := w.written ++ writeNumber w.bias 36 w.gathered
      gathered := 0
      bias := adapt w.gathered (w.placed + 1) (w.placed == ascii)
      placed := w.placed + 1 }
  else w

/-- The code points of a label from `start` on are put in their places, in ascending
order. -/
def Writing.placeAll (label : List Char) (ascii start : Nat) (w : Writing) : List Nat → Writing
  | [] => w
  | codePoint :: later =>
    -- Going once through all places counts for each code point that is passed over.
    let w := { w with gathered := w.gathered + (codePoint - start) * (w.placed + 1) }
    let w := label.foldl (Writing.pass codePoint ascii) w
    Writing.placeAll label ascii (codePoint + 1) { w with gathered := w.gathered + 1 } later

/-- Puts a number into ascending numbers, unless it is there. -/
def insertOnce (n : Nat) : List Nat → List Nat
  | [] => [n]
  | m :: rest =>
    if n < m then n :: m :: rest
    else if n = m then m :: rest
    else m :: insertOnce n rest

/-- Whether a character is one of ASCII. -/
def isAscii (c : Char) : Bool := c.toNat < 0x80

/-- A label in ASCII. -/
def encode (label : List Char) : List Char :=
  let plain := label.filter isAscii
  let others := (label.filter fun c => !isAscii c).map Char.toNat
  let nothing : Writing := ⟨[], 0, 72, plain.length⟩
  plain ++ (if plain.isEmpty then [] else ['-'])
    ++ (nothing.placeAll label plain.length 0x80 (others.foldr insertOnce [])).written

/-! ## Reading -/

/-- Reads a number from a position on and adds it to `sum`, each digit with its weight.
Neither the sum nor a weight may leave the words of 32 bits. -/
def readNumber (bias position weight sum : Nat) : List Char → Option (Nat × List Char)
  | [] => none
  | c :: rest =>
    match value? c with
    | none => none
    | some d =>
      let t := threshold bias position
      let sum := sum + d * weight
      -- A word of 32 bits is all there is, and the weights below must fit one as well.
      if UInt32.size ≤ sum then none
      else if d < t then some (sum, rest)
      else if UInt32.size ≤ weight * (36 - t) then none
      else readNumber bias (position + 36) (weight * (36 - t)) sum rest

/-- Reading a number takes at least one character. -/
theorem length_of_readNumber {bias position weight sum : Nat} {cs : List Char}
    {r : Nat × List Char} (h : readNumber bias position weight sum cs = some r) :
    r.2.length < cs.length := by
  induction cs generalizing position weight sum with
  | nil => simp [readNumber] at h
  | cons c rest ih =>
    simp only [readNumber] at h
    split at h
    · cases h
    · split at h
      · cases h
      · split at h
        · cases h
          simp
        · split at h
          · cases h
          · exact Nat.lt_succ_of_lt (ih h)

/-- The character of a code point, if it is one. -/
def charOf? (n : Nat) : Option Char := if n.isValidChar then some (Char.ofNat n) else none

/-- The numbers of a label are read one after the other, each for a character that is
inserted into the text. -/
def readAll (bias codePoint place : Nat) (text cs : List Char) : Option (List Char) :=
  match cs with
  | [] => some text
  | c :: rest =>
    match _taken : readNumber bias 36 1 place (c :: rest) with
    | none => none
    | some (sum, left) =>
      let length := text.length + 1
      let codePoint := codePoint + sum / length
      match charOf? codePoint with
      | none => none
      | some d =>
        readAll (adapt (sum - place) length (place == 0)) codePoint (sum % length + 1)
          (text.insertIdx (sum % length) d) left
termination_by cs.length
decreasing_by exact length_of_readNumber _taken

/-- The ASCII characters of a label in ASCII, and its numbers. The last dash stands
between them, unless nothing stands in front of it. -/
def splitPlain (cs : List Char) : List Char × List Char :=
  let numbers := (cs.reverse.takeWhile (· != '-')).reverse
  match cs.reverse.dropWhile (· != '-') with
  | _ :: c :: plain => ((c :: plain).reverse, numbers)
  | _ => ([], cs)

/-- The label that is written in ASCII. -/
def decode (cs : List Char) : Option (List Char) :=
  let (plain, numbers) := splitPlain cs
  if plain.all isAscii then readAll 72 0x80 0 plain numbers else none

/-! ## Numbers read back -/

/-- **A number that is written reads back.** The bound keeps every weight on the way
inside a word; the induction follows the digits. -/
theorem readNumber_writeNumber (bias position weight sum n : Nat) (rest : List Char)
    (bound : sum + 35 * (n * weight) < UInt32.size) :
    readNumber bias position weight sum (writeNumber bias position n ++ rest)
      = some (sum + n * weight, rest) := by
  induction n using Nat.strongRecOn generalizing position weight sum with
  | _ n ih =>
    obtain ⟨t, at_t⟩ : ∃ t, threshold bias position = t := ⟨_, rfl⟩
    have low : 1 ≤ t := at_t ▸ one_le_threshold bias position
    have high : t ≤ 26 := at_t ▸ threshold_le bias position
    rw [writeNumber]
    by_cases last : n < t
    · have fits : sum + n * weight < UInt32.size := by omega
      simp [at_t, last, readNumber, value?_digit n (by omega), Nat.not_le.mpr fits]
    · -- The first digit, and what is left of the number behind it.
      obtain ⟨d, first⟩ : ∃ d, t + (n - t) % (36 - t) = d := ⟨_, rfl⟩
      obtain ⟨more, left⟩ : ∃ more, (n - t) / (36 - t) = more := ⟨_, rfl⟩
      have below : (n - t) % (36 - t) < 36 - t := Nat.mod_lt _ (by omega)
      have whole : more * (36 - t) + (n - t) % (36 - t) = n - t := left ▸ Nat.div_add_mod' _ _
      have fewer : more < n :=
        left ▸ Nat.lt_of_le_of_lt (Nat.div_le_self (n - t) (36 - t)) (by omega)
      have parts : n * weight = d * weight + more * (weight * (36 - t)) := by
        have sum : n = d + more * (36 - t) := by omega
        calc n * weight = (d + more * (36 - t)) * weight := by rw [← sum]
          _ = d * weight + more * (weight * (36 - t)) := by
            rw [Nat.add_mul, Nat.mul_assoc, Nat.mul_comm (36 - t) weight]
      have atLeast : weight ≤ n * weight := Nat.le_mul_of_pos_left _ (by omega)
      have wider : weight * (36 - t) ≤ weight * 35 := Nat.mul_le_mul_left _ (by omega)
      have step := ih more fewer (position + 36) (weight * (36 - t)) (sum + d * weight)
        (by omega)
      simp only [at_t, last, if_false, first, left, List.cons_append, readNumber,
        value?_digit d (by omega)]
      rw [if_neg (by omega), if_neg (by omega), if_neg (by omega), step]
      simp only [Option.some.injEq, Prod.mk.injEq, and_true]
      omega

end Punycode

end KeyedLocks.Domain
