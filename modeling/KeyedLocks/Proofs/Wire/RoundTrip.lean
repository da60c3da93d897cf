/-
Requests and responses read back.

A record is read from what was written of it, field by field in the order of the text, whatever
its strings and numbers are. Numbers are written in full and every number of a record fits the
words that it is read into.
-/
import KeyedLocks.Wire.Request
import KeyedLocks.Wire.Response
import KeyedLocks.Proofs.Json.RoundTrip
import KeyedLocks.Proofs.Json.Decoding

set_option autoImplicit false

namespace KeyedLocks.Json.RecordForm

variable {δ α : Type} {form : RecordForm δ α} {seen : List String} {d d' : δ} {name : String}
  {v : Reading}

/-! ## One member after the other -/

/-- A member that is a field is taken into the draft. -/
theorem readMembers_of_field (rest : Members) (known : name ∈ form.fields) (fresh : name ∉ seen)
    (taken : form.put name v d = .ok d') :
    form.readMembers seen d (.member (.whole name) v rest)
      = form.readMembers (name :: seen) d' rest := by
  simp only [readMembers, Literal.read, known, fresh, take, taken, Decoded.under, if_true, if_false]

/-- A member that is none goes its own way. -/
theorem readMembers_of_other (rest : Members) (unknown : name ∉ form.fields)
    (passed : form.other name v d = .ok d') :
    form.readMembers seen d (.member (.whole name) v rest) = form.readMembers seen d' rest := by
  simp only [readMembers, Literal.read, unknown, passed, if_false]

end KeyedLocks.Json.RecordForm

namespace KeyedLocks.Wire

open KeyedLocks.Json

/-! ## Numbers -/

/-- A natural number is written as the integer that it is. -/
theorem ofNat_eq_ofInt (n : Nat) : Numeral.ofNat n = .ofInt n := by
  simp [Numeral.ofNat, Numeral.ofInt]

/-- A whole number that fits its type is read. -/
theorem decodeInteger_ofInt {type : IntegerType} {i : Int}
    (low : Int64.minValue.toInt ≤ type.bounds.least)
    (high : type.bounds.greatest < UInt64.size) (fits : type.bounds.contains i = true) :
    decodeInteger type (.number (.ofInt i)) = .ok i := by
  have within := fits
  simp only [Text.Bounds.contains, Bool.and_eq_true, decide_eq_true_eq] at within
  rw [decodeInteger, Numeral.integer?_ofInt i (by omega) (by omega)]
  exact if_pos fits

/-- Numbers of each type are read back from what is written of them. -/
theorem decodeInteger_int32 (i : Int32) :
    decodeInteger .int32 (.number (.ofInt i.toInt)) = .ok i.toInt :=
  decodeInteger_ofInt (by decide) (by decide) (contains_int32 i)

theorem decodeInteger_int64 (i : Int64) :
    decodeInteger .int64 (.number (.ofInt i.toInt)) = .ok i.toInt :=
  decodeInteger_ofInt (by decide) (by decide) (contains_int64 i)

theorem decodeInteger_word64 (n : UInt64) :
    decodeInteger .word64 (.number (.ofNat n.toNat)) = .ok n.toNat := by
  rw [ofNat_eq_ofInt]
  exact decodeInteger_ofInt (by decide) (by decide) (contains_word64 n)

/-! ## Responses -/

/-- Every number in a response is a whole number. -/
theorem integral_responseValue (a : Response) : (responseValue a).Integral := by
  simp only [responseValue, Value.Integral, IntegralMembers, Value.int, causeValue,
    operationValue, and_true, true_and]
  exact ⟨_, rfl⟩

/-- **A response reads back.** -/
theorem decodeResponse_reading (a : Response) :
    decodeResponse (responseValue a).reading = .ok a := by
  have key : ∀ d, responseForm.put "key" (.string (.whole a.key)) d
      = .ok { d with key := some a.key } := fun _ => rfl
  have identity : ∀ d, responseForm.put "identity" (.number (.ofInt a.identity.toInt)) d
      = .ok { d with identity := some a.identity } := by
    intro d
    change (decodeInteger .int32 _).map _ = _
    rw [decodeInteger_int32]
    exact congrArg (fun i => Except.ok { d with identity := some i }) a.identity.ofInt_toInt
  have success : ∀ d, responseForm.put "success" (.bool a.success) d
      = .ok { d with success := some a.success } := fun _ => rfl
  have cause : ∀ d, responseForm.put "cause" (.string (.whole a.cause.name)) d
      = .ok { d with cause := some a.cause } := by
    intro d
    change (decodeCause _).map _ = _
    rw [decodeCause_name]
    rfl
  have operation : ∀ d, responseForm.put "operation" (.string (.whole a.operation.name)) d
      = .ok { d with operation := some a.operation } := by
    intro d
    change (decodeOperation _).map _ = _
    rw [decodeOperation_name]
    rfl
  -- With each field settled, the members are read one after the other in the order of the text.
  simp only [responseValue, Value.reading, readingMembers, Value.int, causeValue, operationValue]
  rw [decodeResponse, RecordForm.decode, RecordForm.decodeMembers,
    RecordForm.readMembers_of_field _ (by decide) (by decide) (key _),
    RecordForm.readMembers_of_field _ (by decide) (by decide) (identity _),
    RecordForm.readMembers_of_field _ (by decide) (by decide) (success _),
    RecordForm.readMembers_of_field _ (by decide) (by decide) (cause _),
    RecordForm.readMembers_of_field _ (by decide) (by decide) (operation _)]
  rfl

/-! ## Requests -/

/-- All numbers in a request are integers. -/
theorem integral_requestValue (r : Request) : (requestValue r).Integral := by
  obtain ⟨key, identity, owner, kind, duration, issuedAt⟩ := r
  cases duration <;>
    simp only [requestValue, ownerMembers, kindValue, durationValue, unitValue, Value.int,
      Value.nat, List.cons_append, List.nil_append, Value.Integral, IntegralMembers, and_true,
      true_and]
  · exact ⟨⟨_, rfl⟩, ⟨_, ofNat_eq_ofInt _⟩⟩
  · exact ⟨⟨_, rfl⟩, ⟨_, rfl⟩, ⟨_, ofNat_eq_ofInt _⟩⟩

/-- A duration is read back as itself. -/
theorem decodeDuration_reading (d : LockDuration) :
    decodeDuration (durationValue d).reading = .ok d := by
  have magnitude : ∀ t, durationForm.put "magnitude" (.number (.ofInt d.magnitude.toInt)) t
      = .ok { t with magnitude := some d.magnitude } := by
    intro t
    change (decodeInteger .int64 _).map _ = _
    rw [decodeInteger_int64]
    exact congrArg (fun i => Except.ok { t with magnitude := some i }) d.magnitude.ofInt_toInt
  have unit : ∀ t, durationForm.put "unit" (.string (.whole d.unit.name)) t
      = .ok { t with unit := some d.unit } := by
    intro t
    change (decodeUnit _).map _ = _
    rw [decodeUnit_name]
    rfl
  -- The members come in the order in which they are written.
  simp only [durationValue, Value.reading, readingMembers, Value.int, unitValue]
  rw [decodeDuration, RecordForm.decode, RecordForm.decodeMembers,
    RecordForm.readMembers_of_field _ (by decide) (by decide) (magnitude _),
    RecordForm.readMembers_of_field _ (by decide) (by decide) (unit _)]
  rfl

/-- **A request reads back.** The names of its owner are set aside when they come and looked for
at the end. -/
theorem decodeRequest_reading (r : Request) :
    decodeRequest (requestValue r).reading = .ok r := by
  obtain ⟨key, identity, ⟨application, thread⟩, kind, duration, issuedAt⟩ := r
  have keys : ∀ d, requestForm.put "key" (.string (.whole key)) d
      = .ok { d with key := some key } := fun _ => rfl
  have identities : ∀ d, requestForm.put "identity" (.number (.ofInt identity.toInt)) d
      = .ok { d with identity := some identity } := by
    intro d
    change (decodeInteger .int32 _).map _ = _
    rw [decodeInteger_int32]
    exact congrArg (fun i => Except.ok { d with identity := some i }) identity.ofInt_toInt
  have aside : ∀ name s d, requestForm.other name (.string (.whole s)) d
      = .ok { d with aside := (name, .string (.whole s)) :: d.aside } := fun _ _ _ => rfl
  have kinds : ∀ d, requestForm.put "kind" (.string (.whole kind.name)) d
      = .ok { d with kind := some kind } := by
    intro d
    change (decodeKind _).map _ = _
    rw [decodeKind_name]
    rfl
  have durations : ∀ l d, requestForm.put "duration" (durationValue l).reading d
      = .ok { d with duration := some l } := by
    intro l d
    have object : (durationValue l).reading = .object (readingMembers
        [("magnitude", .int l.magnitude.toInt), ("unit", unitValue l.unit)]) := by
      rw [durationValue, Value.reading]
    have decoded := decodeDuration_reading l
    rw [object] at decoded ⊢
    change ((decodeDuration _).map some).map _ = _
    rw [decoded]
    rfl
  have issued : ∀ d, requestForm.put "issued_at" (.number (.ofNat issuedAt.toNat)) d
      = .ok { d with issuedAt := issuedAt } := by
    intro d
    change (decodeInteger .word64 _).map _ = _
    rw [decodeInteger_word64]
    exact congrArg (fun w => Except.ok { d with issuedAt := w }) issuedAt.ofNat_toNat
  -- What is there in every request comes first, but for the time it was made at.
  have front : ∀ rest, requestForm.readMembers [] requestForm.empty
      (.member (.whole "key") (.string (.whole key))
        (.member (.whole "identity") (.number (.ofInt identity.toInt))
          (.member (.whole "application") (.string (.whole application))
            (.member (.whole "thread") (.string (.whole thread))
              (.member (.whole "kind") (.string (.whole kind.name)) rest)))))
      = requestForm.readMembers ["kind", "identity", "key"]
          { key := some key, identity := some identity, kind := some kind
            aside := [("thread", .string (.whole thread)),
              ("application", .string (.whole application))] } rest := by
    intro rest
    rw [RecordForm.readMembers_of_field _ (by decide) (by decide) (keys _),
      RecordForm.readMembers_of_field _ (by decide) (by decide) (identities _),
      RecordForm.readMembers_of_other _ (by decide) (aside _ _ _),
      RecordForm.readMembers_of_other _ (by decide) (aside _ _ _),
      RecordForm.readMembers_of_field _ (by decide) (by decide) (kinds _)]
    rfl
  cases duration with
  | none =>
    simp only [requestValue, ownerMembers, kindValue, Value.int, Value.nat, List.cons_append,
      List.nil_append, Value.reading, readingMembers]
    rw [decodeRequest, RecordForm.decodeMembers, front,
      RecordForm.readMembers_of_field _ (by decide) (by decide) (issued _)]
    rfl
  | some l =>
    simp only [requestValue, ownerMembers, kindValue, Value.int, Value.nat, List.cons_append,
      List.nil_append, Value.reading, readingMembers]
    rw [decodeRequest, RecordForm.decodeMembers, front,
      RecordForm.readMembers_of_field _ (by decide) (by decide) (durations l _),
      RecordForm.readMembers_of_field _ (by decide) (by decide) (issued _)]
    rfl

end KeyedLocks.Wire
