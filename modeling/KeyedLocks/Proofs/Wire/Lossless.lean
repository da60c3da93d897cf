/-
The wire loses nothing.

For each of the four records that go over the wire, the text of a record reads back as that
record (`Lossless.reads_back`). A reader passes over members that it does not know, so that alone
would leave room for more in a text than its record. `Lossless.nothing_else` says that there is
no more: as JSON the text is the one value that the record is written as, members in their order,
and nothing stands before it or behind it.
-/
import KeyedLocks.Wire.Listing
import KeyedLocks.Proofs.Wire.RoundTrip

set_option autoImplicit false

namespace KeyedLocks.Json

/-! ## The value of a reading -/

mutual

/-- What is read without a fault stands for the value that was written. -/
theorem value?_reading (v : Value) : v.reading.value? = some v := by
  cases v with
  | array items => simp [Value.reading, Reading.value?, values?_readingItems items]
  | object members => simp [Value.reading, Reading.value?, values?_readingMembers members]
  | _ => simp [Value.reading, Reading.value?, Literal.read, Except.toOption]

/-- A value that was read without a fault can be read off again, item by item -/
theorem values?_readingItems (vs : List Value) : (readingItems vs).values? = some vs := by
  cases vs with
  | nil => simp [readingItems, Items.values?]
  | cons v vs =>
    simp [readingItems, Items.values?, value?_reading v, values?_readingItems vs]

/-- Members are written and read back member by member. -/
theorem values?_readingMembers (ms : List (String × Value)) :
    (readingMembers ms).values? = some ms := by
  cases ms with
  | nil => simp [readingMembers, Members.values?]
  | cons m ms =>
    obtain ⟨k, v⟩ := m
    simp [readingMembers, Members.values?, Literal.read, value?_reading v,
      values?_readingMembers ms]

end

/-- **A text that was written is JSON**, and what it says is the value that it was written from. -/
theorem parseValue_chars {v : Value} (integral : v.Integral) : parseValue v.chars = some v := by
  rw [parseValue, readText_chars integral]
  exact value?_reading v

/-! ## Lists -/

/-- A list reads back if each of its items does, wherever it stands. -/
theorem decodeItems_reading {α : Type} {write : α → Value} {read : Reading → Decoded α}
    (back : ∀ a, read (write a).reading = .ok a) (as : List α) (position : Nat) :
    decodeItems read position (readingItems (as.map write)) = .ok as := by
  induction as generalizing position with
  | nil => simp [readingItems, decodeItems]
  | cons a as ih =>
    rw [List.map_cons, readingItems, decodeItems, back, ih]
    rfl

end KeyedLocks.Json

namespace KeyedLocks.Wire

open KeyedLocks.Json

/-! ## Numbers of a listing -/

/-- Counts of holds are read back. -/
theorem decodeInteger_word32 (n : UInt32) :
    decodeInteger .word32 (.number (.ofNat n.toNat)) = .ok n.toNat := by
  rw [ofNat_eq_ofInt]
  exact decodeInteger_ofInt (by decide) (by decide) (contains_word32 n)

/-- Counts of 64 bits are read back. -/
theorem decodeInteger_count (n : UInt64) :
    decodeInteger .count (.number (.ofNat n.toNat)) = .ok n.toNat := by
  rw [ofNat_eq_ofInt]
  exact decodeInteger_ofInt (by decide) (by decide) (contains_word64 n)

/-! ## Listings -/

theorem integral_entryValue (e : ListingEntry) : (entryValue e).Integral := by
  obtain ⟨kind, key, owner, holds, waiting, heldFor, expiresIn⟩ := e
  cases expiresIn <;>
    simp only [entryValue, kindValue, Value.nat, List.cons_append, List.nil_append, List.append_nil,
      Value.Integral, IntegralMembers, and_true, true_and]
  · exact ⟨⟨_, ofNat_eq_ofInt _⟩, ⟨_, ofNat_eq_ofInt _⟩, ⟨_, ofNat_eq_ofInt _⟩⟩
  · exact ⟨⟨_, ofNat_eq_ofInt _⟩, ⟨_, ofNat_eq_ofInt _⟩, ⟨_, ofNat_eq_ofInt _⟩,
      ⟨_, ofNat_eq_ofInt _⟩⟩

/-- **An entry reads back**, with a time left or without. -/
theorem decodeEntry_reading (e : ListingEntry) : decodeEntry (entryValue e).reading = .ok e := by
  obtain ⟨kind, key, ⟨application, thread⟩, holds, waiting, heldFor, expiresIn⟩ := e
  have kinds : ∀ d, entryForm.put "kind" (.string (.whole kind.name)) d
      = .ok { d with kind := some kind } := by
    intro d
    change (decodeKind _).map _ = _
    rw [decodeKind_name]
    rfl
  have keys : ∀ d, entryForm.put "key" (.string (.whole key)) d
      = .ok { d with key := some key } := fun _ => rfl
  have applications : ∀ d, entryForm.put "application" (.string (.whole application)) d
      = .ok { d with application := some application } := fun _ => rfl
  have threads : ∀ d, entryForm.put "thread" (.string (.whole thread)) d
      = .ok { d with thread := some thread } := fun _ => rfl
  have held : ∀ d, entryForm.put "holds" (.number (.ofNat holds.toNat)) d
      = .ok { d with holds := some holds } := by
    intro d
    change (decodeInteger .word32 _).map _ = _
    rw [decodeInteger_word32]
    exact congrArg (fun n => Except.ok { d with holds := some n }) holds.ofNat_toNat
  have queued : ∀ d, entryForm.put "waiting" (.number (.ofNat waiting.toNat)) d
      = .ok { d with waiting := some waiting } := by
    intro d
    change (decodeInteger .count _).map _ = _
    rw [decodeInteger_count]
    exact congrArg (fun n => Except.ok { d with waiting := some n }) waiting.ofNat_toNat
  have since : ∀ d, entryForm.put "held_for_ms" (.number (.ofNat heldFor.toNat)) d
      = .ok { d with heldFor := some heldFor } := by
    intro d
    change (decodeInteger .word64 _).map _ = _
    rw [decodeInteger_word64]
    exact congrArg (fun n => Except.ok { d with heldFor := some n }) heldFor.ofNat_toNat
  have left : ∀ (ms : UInt64) d, entryForm.put "expires_in_ms" (.number (.ofNat ms.toNat)) d
      = .ok { d with expiresIn := some ms } := by
    intro ms d
    change ((decodeInteger .word64 _).map some).map _ = _
    rw [decodeInteger_word64]
    exact congrArg (fun n => Except.ok { d with expiresIn := some n }) ms.ofNat_toNat
  -- What every entry has comes first.
  have front : ∀ rest, entryForm.readMembers [] entryForm.empty
      (.member (.whole "kind") (.string (.whole kind.name))
        (.member (.whole "key") (.string (.whole key))
          (.member (.whole "application") (.string (.whole application))
            (.member (.whole "thread") (.string (.whole thread))
              (.member (.whole "holds") (.number (.ofNat holds.toNat))
                (.member (.whole "waiting") (.number (.ofNat waiting.toNat))
                  (.member (.whole "held_for_ms") (.number (.ofNat heldFor.toNat)) rest)))))))
      = entryForm.readMembers
          ["held_for_ms", "waiting", "holds", "thread", "application", "key", "kind"]
          { kind := some kind, key := some key, application := some application
            thread := some thread, holds := some holds, waiting := some waiting
            heldFor := some heldFor } rest := by
    intro rest
    rw [RecordForm.readMembers_of_field _ (by decide) (by decide) (kinds _),
      RecordForm.readMembers_of_field _ (by decide) (by decide) (keys _),
      RecordForm.readMembers_of_field _ (by decide) (by decide) (applications _),
      RecordForm.readMembers_of_field _ (by decide) (by decide) (threads _),
      RecordForm.readMembers_of_field _ (by decide) (by decide) (held _),
      RecordForm.readMembers_of_field _ (by decide) (by decide) (queued _),
      RecordForm.readMembers_of_field _ (by decide) (by decide) (since _)]
    rfl
  cases expiresIn with
  | none =>
    simp only [entryValue, kindValue, Value.nat, List.append_nil, Value.reading, readingMembers]
    rw [decodeEntry, RecordForm.decode, RecordForm.decodeMembers, front]
    rfl
  | some ms =>
    simp only [entryValue, kindValue, Value.nat, List.cons_append, List.nil_append, Value.reading,
      readingMembers]
    rw [decodeEntry, RecordForm.decode, RecordForm.decodeMembers, front,
      RecordForm.readMembers_of_field _ (by decide) (by decide) (left ms _)]
    rfl

theorem integral_listingValue (l : Listing) : (listingValue l).Integral := by
  have each : ∀ es : List ListingEntry, IntegralItems (es.map entryValue) := by
    intro es
    induction es with
    | nil => simp [IntegralItems]
    | cons e es ih =>
      rw [List.map_cons, IntegralItems]
      exact ⟨integral_entryValue e, ih⟩
  simp only [listingValue, Value.Integral, IntegralMembers, and_true]
  exact each l.locks

/-- **A listing reads back**, however long it is. -/
theorem decodeListing_reading (l : Listing) : decodeListing (listingValue l).reading = .ok l := by
  have locks : ∀ d, listingForm.put "locks" (.array (readingItems (l.locks.map entryValue))) d
      = .ok (some l.locks) := by
    intro d
    change (decodeItems decodeEntry 0 _).map some = _
    rw [decodeItems_reading decodeEntry_reading]
    rfl
  simp only [listingValue, Value.reading, readingMembers]
  rw [decodeListing, RecordForm.decode, RecordForm.decodeMembers,
    RecordForm.readMembers_of_field _ (by decide) (by decide) (locks _)]
  rfl

/-! ## Health -/

theorem integral_healthValue (h : Health) : (healthValue h).Integral := by
  simp only [healthValue, Value.Integral, IntegralMembers, Value.nat, and_true, true_and]
  exact ⟨⟨_, ofNat_eq_ofInt _⟩, ⟨_, ofNat_eq_ofInt _⟩⟩

/-- **A health record reads back.** -/
theorem decodeHealth_reading (h : Health) : decodeHealth (healthValue h).reading = .ok h := by
  have status : ∀ d, healthForm.put "status" (.string (.whole h.status)) d
      = .ok { d with status := some h.status } := fun _ => rfl
  have held : ∀ d, healthForm.put "held_locks" (.number (.ofNat h.heldLocks.toNat)) d
      = .ok { d with heldLocks := some h.heldLocks } := by
    intro d
    change (decodeInteger .count _).map _ = _
    rw [decodeInteger_count]
    exact congrArg (fun n => Except.ok { d with heldLocks := some n }) h.heldLocks.ofNat_toNat
  have expiries : ∀ d,
      healthForm.put "pending_expiries" (.number (.ofNat h.pendingExpiries.toNat)) d
        = .ok { d with pendingExpiries := some h.pendingExpiries } := by
    intro d
    change (decodeInteger .count _).map _ = _
    rw [decodeInteger_count]
    exact congrArg (fun n => Except.ok { d with pendingExpiries := some n })
      h.pendingExpiries.ofNat_toNat
  simp only [healthValue, Value.reading, readingMembers, Value.nat]
  rw [decodeHealth, RecordForm.decode, RecordForm.decodeMembers,
    RecordForm.readMembers_of_field _ (by decide) (by decide) (status _),
    RecordForm.readMembers_of_field _ (by decide) (by decide) (held _),
    RecordForm.readMembers_of_field _ (by decide) (by decide) (expiries _)]
  rfl

/-! ## The wire -/

/-- A record goes over the wire without loss: its text reads back as the record, and as JSON it is
the value that the record is written as, with nothing before it, behind it or in between. -/
structure Lossless {α : Type} (write : α → Value) (read : Reading → Decoded α) : Prop where
  reads_back : ∀ a, decodeText read (write a).compact.toList = .ok a
  nothing_else : ∀ a, parseValue (write a).compact.toList = some (write a)

/-- Both halves follow if the value has whole numbers only and its reading is decoded as the record.
-/
theorem lossless_of_reading {α : Type} {write : α → Value} {read : Reading → Decoded α}
    (integral : ∀ a, (write a).Integral) (back : ∀ a, read (write a).reading = .ok a) :
    Lossless write read where
  reads_back a := by
    rw [Value.compact, String.toList_ofList, decodeText_chars read (integral a)]
    exact back a
  nothing_else a := by
    rw [Value.compact, String.toList_ofList]
    exact parseValue_chars (integral a)

/-- **The wire loses nothing.** Every request, every response, every listing and every health
record is read from its text as exactly what it was, whatever its strings hold and however large
its numbers are, and the text holds nothing else. -/
theorem nothing_is_lost_on_the_wire :
    Lossless requestValue decodeRequest ∧ Lossless responseValue decodeResponse
      ∧ Lossless listingValue decodeListing ∧ Lossless healthValue decodeHealth :=
  ⟨lossless_of_reading integral_requestValue decodeRequest_reading,
    lossless_of_reading integral_responseValue decodeResponse_reading,
    lossless_of_reading integral_listingValue decodeListing_reading,
    lossless_of_reading integral_healthValue decodeHealth_reading⟩

end KeyedLocks.Wire
