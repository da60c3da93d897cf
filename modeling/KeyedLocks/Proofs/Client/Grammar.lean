/-
Answers against their grammar.

A body is accepted as a response or as an error if and only if it spells one
(`decodeText_decodeResponse_iff`, `decodeText_errorBodyForm_iff`). Each field sets a part of its
own, all of them are required, and whatever else there is is passed over; what is left to do for
arrays is done for all records alike.
-/
import KeyedLocks.Client.Grammar
import KeyedLocks.Proofs.Json.Layouts
import KeyedLocks.Proofs.Json.Parsing
import KeyedLocks.Proofs.Wire.Parts

set_option autoImplicit false

namespace KeyedLocks.Client

open KeyedLocks.Json KeyedLocks.Wire

/-! ## Truth values and choices -/

theorem isBool_unique (t : Tree) (b b' : Bool) (h : t.IsBool b) (h' : t.IsBool b') : b = b' := by
  cases h
  cases h'
  rfl

/-- Truth values are read off as they stand, and nothing else is one. -/
theorem decodeBool_eq_ok_iff {v : Reading} {b : Bool} :
    decodeBool v = .ok b ↔ v.tree? = some (.bool b) := by
  cases v <;> simp [decodeBool, wrongType_ne_ok, Reading.tree?]

/-- The name of a cause can be read back, so no two causes share one. -/
theorem cause_name_injective (a b : Cause) (same : a.name = b.name) : a = b := by
  have read := decodeCause_name a
  rw [same, decodeCause_name b] at read
  cases read
  rfl

/-- Operations are told apart by their names. -/
theorem operation_name_injective (a b : Operation) (same : a.name = b.name) : a = b := by
  have read := decodeOperation_name a
  rw [same, decodeOperation_name b] at read
  cases read
  rfl

theorem cause_unique (t : Tree) (a b : Cause) (h : t.IsChoice a.name) (h' : t.IsChoice b.name) :
    a = b :=
  cause_name_injective a b (isChoice_unique t _ _ h h')

theorem operation_unique (t : Tree) (a b : Operation) (h : t.IsChoice a.name)
    (h' : t.IsChoice b.name) : a = b :=
  operation_name_injective a b (isChoice_unique t _ _ h h')

/-- A cause is accepted exactly if it is spelled as a choice of its name. -/
theorem decodeCause_eq_ok_iff {v : Reading} {c : Cause} :
    decodeCause v = .ok c ↔ ∃ t, v.tree? = some t ∧ t.IsChoice c.name := by
  have known : c ∈ Cause.all := by cases c <;> decide
  rw [decodeCause, decodeChoice_eq_ok_iff]
  simp [lookup_eq_some_iff cause_name_injective, known]

/-- An operation is read from its name, in either form of a choice. -/
theorem decodeOperation_eq_ok_iff {v : Reading} {o : Operation} :
    decodeOperation v = .ok o ↔ ∃ t, v.tree? = some t ∧ t.IsChoice o.name := by
  have known : o ∈ Operation.all := by cases o <;> decide
  rw [decodeOperation, decodeChoice_eq_ok_iff]
  simp [lookup_eq_some_iff operation_name_injective, known]

/-! ## Responses -/

/-- Each field accepts what is spelled for it and puts it into its own place in the draft. The
fields after this one are alike. -/
theorem puts_key : responseForm.Puts "key" Tree.IsString fun s d => { d with key := some s } := by
  intro v d d'
  change (decodeString v).map _ = _ ↔ _
  simp [map_eq_ok_iff, decodeString_eq_ok_iff, Tree.IsString]

theorem puts_identity : responseForm.Puts "identity" (fun t (n : Int32) => t.IsInteger n.toInt)
    fun n d => { d with identity := some n } := by
  intro v d d'
  change (decodeInteger .int32 v).map _ = _ ↔ _
  exact map_decodeInteger_int32 (f := fun n => { d with identity := some n })

theorem puts_success : responseForm.Puts "success" Tree.IsBool
    fun b d => { d with success := some b } := by
  intro v d d'
  change (decodeBool v).map _ = _ ↔ _
  simp [map_eq_ok_iff, decodeBool_eq_ok_iff, Tree.IsBool]

theorem puts_cause : responseForm.Puts "cause" (fun t (c : Cause) => t.IsChoice c.name)
    fun c d => { d with cause := some c } := by
  intro v d d'
  change (decodeCause v).map _ = _ ↔ _
  simp only [map_eq_ok_iff, decodeCause_eq_ok_iff]

theorem puts_operation : responseForm.Puts "operation"
    (fun t (o : Operation) => t.IsChoice o.name) fun o d => { d with operation := some o } := by
  intro v d d'
  change (decodeOperation v).map _ = _ ↔ _
  simp only [map_eq_ok_iff, decodeOperation_eq_ok_iff]

theorem responseForm_fields {name : String} (known : name ∈ responseForm.fields) :
    name = "key" ∨ name = "identity" ∨ name = "success" ∨ name = "cause"
      ∨ name = "operation" := by
  simpa [responseForm] using known

/-- What fits under the names of a response. -/
def responseFits (name : String) (t : Tree) : Prop :=
  match name with
  | "key" => ∃ s, t.IsString s
  | "identity" => ∃ n : Int32, t.IsInteger n.toInt
  | "success" => ∃ b, t.IsBool b
  | "cause" => ∃ c : Cause, t.IsChoice c.name
  | _ => ∃ o : Operation, t.IsChoice o.name

/-- What a response asks of the members under its own names; of all others it asks nothing, for it
passes over them. -/
theorem asks_responseForm : responseForm.Asks responseFits fun _ => True where
  put name known v d := by
    obtain rfl | rfl | rfl | rfl | rfl := responseForm_fields known
    · exact puts_key.exists_iff v d
    · exact puts_identity.exists_iff v d
    · exact puts_success.exists_iff v d
    · exact puts_cause.exists_iff v d
    · exact puts_operation.exists_iff v d
  other name _ v d := RecordForm.exists_passed_iff v d

/-- **A field of a response** sets a part of its own and leaves the others alone. -/
theorem responseForm_put {name : String} (known : name ∈ responseForm.fields) {v : Reading}
    {d d' : ResponseDraft} (taken : responseForm.put name v d = .ok d') :
    (name ≠ "key" → d'.key = d.key) ∧ (name ≠ "identity" → d'.identity = d.identity)
      ∧ (name ≠ "success" → d'.success = d.success) ∧ (name ≠ "cause" → d'.cause = d.cause)
      ∧ (name ≠ "operation" → d'.operation = d.operation) := by
  -- Of the five parts all but the one that is set are the same as before, by computation.
  obtain rfl | rfl | rfl | rfl | rfl := responseForm_fields known
  · obtain ⟨_, -, rfl⟩ := (puts_key v d d').1 taken
    exact ⟨absurd rfl, fun _ => rfl, fun _ => rfl, fun _ => rfl, fun _ => rfl⟩
  · obtain ⟨_, -, rfl⟩ := (puts_identity v d d').1 taken
    exact ⟨fun _ => rfl, absurd rfl, fun _ => rfl, fun _ => rfl, fun _ => rfl⟩
  · obtain ⟨_, -, rfl⟩ := (puts_success v d d').1 taken
    exact ⟨fun _ => rfl, fun _ => rfl, absurd rfl, fun _ => rfl, fun _ => rfl⟩
  · obtain ⟨_, -, rfl⟩ := (puts_cause v d d').1 taken
    exact ⟨fun _ => rfl, fun _ => rfl, fun _ => rfl, absurd rfl, fun _ => rfl⟩
  · obtain ⟨_, -, rfl⟩ := (puts_operation v d d').1 taken
    exact ⟨fun _ => rfl, fun _ => rfl, fun _ => rfl, fun _ => rfl, absurd rfl⟩

/-- What the draft holds of a field in the end is what was spelled under its name, once. It is so
for each of the five. -/
theorem holds_key : responseForm.Holds "key" (Filled Tree.IsString) ResponseDraft.key :=
  puts_key.holds (by decide) (fun _ _ _ => rfl) (fun _ _ => rfl)
    fun _ known other _ _ _ taken => (responseForm_put known taken).1 other

theorem holds_identity : responseForm.Holds "identity"
    (Filled fun t (n : Int32) => t.IsInteger n.toInt) ResponseDraft.identity :=
  puts_identity.holds (by decide) (fun _ _ _ => rfl) (fun _ _ => rfl)
    fun _ known other _ _ _ taken => (responseForm_put known taken).2.1 other

theorem holds_success : responseForm.Holds "success" (Filled Tree.IsBool) ResponseDraft.success :=
  puts_success.holds (by decide) (fun _ _ _ => rfl) (fun _ _ => rfl)
    fun _ known other _ _ _ taken => (responseForm_put known taken).2.2.1 other

theorem holds_cause : responseForm.Holds "cause"
    (Filled fun t (c : Cause) => t.IsChoice c.name) ResponseDraft.cause :=
  puts_cause.holds (by decide) (fun _ _ _ => rfl) (fun _ _ => rfl)
    fun _ known other _ _ _ taken => (responseForm_put known taken).2.2.2.1 other

theorem holds_operation : responseForm.Holds "operation"
    (Filled fun t (o : Operation) => t.IsChoice o.name) ResponseDraft.operation :=
  puts_operation.holds (by decide) (fun _ _ _ => rfl) (fun _ _ => rfl)
    fun _ known other _ _ _ taken => (responseForm_put known taken).2.2.2.2 other

/-- A draft becomes a response if every place is filled: all five fields are required. -/
theorem responseForm_finish {d : ResponseDraft} {r : Response} :
    responseForm.finish d = .ok r
      ↔ d.key = some r.key ∧ d.identity = some r.identity ∧ d.success = some r.success
        ∧ d.cause = some r.cause ∧ d.operation = some r.operation := by
  obtain ⟨key, identity, success, cause, operation⟩ := d
  obtain ⟨k, i, b, c, o⟩ := r
  cases key <;> cases identity <;> cases success <;> cases cause <;> cases operation <;>
    simp [responseForm, wanted, Bind.bind, Except.bind, Pure.pure, Except.pure]

/-- An object that says a response is admitted: its names are no trouble, and every field is there
and fits. -/
theorem admits_of_saysResponse (ts : List (Option String × Tree)) (r : Response)
    (meant : SaysResponse ts r) : responseForm.Admits responseFits (fun _ => True) [] ts where
  names := meant.names
  fresh := by simp
  fields name known := by
    obtain rfl | rfl | rfl | rfl | rfl := responseForm_fields known
    · exact meant.key.fits
    -- For the rest the field is there; which number or choice it spells is left open by what fits.
    · obtain ⟨t, one, integer⟩ := meant.identity
      exact .inr ⟨t, one, _, integer⟩
    · exact meant.success.fits
    · obtain ⟨t, one, choice⟩ := meant.cause
      exact .inr ⟨t, one, _, choice⟩
    · obtain ⟨t, one, choice⟩ := meant.operation
      exact .inr ⟨t, one, _, choice⟩
  others _ _ _ _ := trivial

/-- **A response** is accepted as the one that it says. -/
theorem decodeResponse_eq_ok_iff {v : Reading} {r : Response} :
    decodeResponse v = .ok r
      ↔ ∃ t, v.tree? = some t ∧ t.IsRecord responseForm.fields SaysResponse r := by
  refine RecordForm.decode_eq_ok_iff (by decide) (RecordForm.decodeMembers_iff_means
    asks_responseForm admits_of_saysResponse fun ms ts d r read trees admitted => ?_)
  -- The draft is complete exactly if each of its places was filled, and a place is filled exactly
  -- if one member spells the field. So the two sides agree place by place.
  rw [responseForm_finish, holds_key.eq_some_iff isString_unique rfl read trees,
    holds_identity.eq_some_iff int32_unique rfl read trees,
    holds_success.eq_some_iff isBool_unique rfl read trees,
    holds_cause.eq_some_iff cause_unique rfl read trees,
    holds_operation.eq_some_iff operation_unique rfl read trees]
  constructor
  · rintro ⟨key, identity, success, cause, operation⟩
    exact ⟨admitted.names, key, identity, success, cause, operation⟩
  · intro meant
    exact ⟨meant.key, meant.identity, meant.success, meant.cause, meant.operation⟩

/-! ## Errors -/

/-- The parts of an error are set one by one. -/
theorem puts_code : errorDetailForm.Puts "code" Tree.IsString
    fun s d => { d with code := some s } := by
  intro v d d'
  change (decodeString v).map _ = _ ↔ _
  simp [map_eq_ok_iff, decodeString_eq_ok_iff, Tree.IsString]

theorem puts_message : errorDetailForm.Puts "message" Tree.IsString
    fun s d => { d with message := some s } := by
  intro v d d'
  change (decodeString v).map _ = _ ↔ _
  simp [map_eq_ok_iff, decodeString_eq_ok_iff, Tree.IsString]

theorem errorDetailForm_fields {name : String} (known : name ∈ errorDetailForm.fields) :
    name = "code" ∨ name = "message" := by
  simpa [errorDetailForm] using known

theorem asks_errorDetailForm :
    errorDetailForm.Asks (fun _ t => ∃ s, t.IsString s) fun _ => True where
  put name known v d := by
    obtain rfl | rfl := errorDetailForm_fields known
    · exact puts_code.exists_iff v d
    · exact puts_message.exists_iff v d
  other name _ v d := RecordForm.exists_passed_iff v d

theorem holds_code : errorDetailForm.Holds "code" (Filled Tree.IsString) ErrorDraft.code := by
  refine puts_code.holds (by decide) (fun _ _ _ => rfl) (fun _ _ => rfl)
    fun name known other v d d' taken => ?_
  obtain rfl := (errorDetailForm_fields known).resolve_left other
  obtain ⟨_, -, rfl⟩ := (puts_message v d d').1 taken
  rfl

theorem holds_message :
    errorDetailForm.Holds "message" (Filled Tree.IsString) ErrorDraft.message := by
  refine puts_message.holds (by decide) (fun _ _ _ => rfl) (fun _ _ => rfl)
    fun name known other v d d' taken => ?_
  obtain rfl := (errorDetailForm_fields known).resolve_right other
  obtain ⟨_, -, rfl⟩ := (puts_code v d d').1 taken
  rfl

/-- A detail needs both its parts. -/
theorem errorDetailForm_finish {d : ErrorDraft} {e : ErrorDetail} :
    errorDetailForm.finish d = .ok e ↔ d.code = some e.code ∧ d.message = some e.message := by
  obtain ⟨code, message⟩ := d
  obtain ⟨c, m⟩ := e
  cases code <;> cases message <;>
    simp [errorDetailForm, wanted, Bind.bind, Except.bind, Pure.pure, Except.pure]

/-- An object that says a detail is admitted. -/
theorem admits_of_saysDetail (ts : List (Option String × Tree)) (e : ErrorDetail)
    (meant : SaysDetail ts e) :
    errorDetailForm.Admits (fun _ t => ∃ s, t.IsString s) (fun _ => True) [] ts where
  names := meant.names
  fresh := by simp
  fields name known := by
    obtain rfl | rfl := errorDetailForm_fields known
    · exact meant.code.fits
    · exact meant.message.fits
  others _ _ _ _ := trivial

/-- **A code and a text** are accepted as those that are said. -/
theorem decode_errorDetailForm_eq_ok_iff {v : Reading} {e : ErrorDetail} :
    errorDetailForm.decode v = .ok e
      ↔ ∃ t, v.tree? = some t ∧ t.IsRecord errorDetailForm.fields SaysDetail e := by
  refine RecordForm.decode_eq_ok_iff (by decide) (RecordForm.decodeMembers_iff_means
    asks_errorDetailForm admits_of_saysDetail fun ms ts d e read trees admitted => ?_)
  rw [errorDetailForm_finish, holds_code.eq_some_iff isString_unique rfl read trees,
    holds_message.eq_some_iff isString_unique rfl read trees]
  constructor
  · rintro ⟨code, message⟩
    exact ⟨admitted.names, code, message⟩
  · intro meant
    exact ⟨meant.code, meant.message⟩

/-- No members say two details. -/
theorem saysDetail_unique (ms : List (Option String × Tree)) (e e' : ErrorDetail)
    (h : SaysDetail ms e) (h' : SaysDetail ms e') : e = e' := by
  obtain ⟨code, message⟩ := e
  obtain ⟨code', message'⟩ := e'
  have codes := h.code.unique isString_unique h'.code
  have messages := h.message.unique isString_unique h'.message
  exact congrArg₂ _ codes messages

/-- A tree is at most one record, in whichever of the two layouts it comes, if the members under its
names say only one thing. -/
theorem isRecord_unique {α : Type} {fields : List String}
    {means : List (Option String × Tree) → α → Prop}
    (unique : ∀ ms a b, means ms a → means ms b → a = b) (t : Tree) (a b : α)
    (h : t.IsRecord fields means a) (h' : t.IsRecord fields means b) : a = b := by
  -- An object and an array are told apart by the tree, so both records come in one layout.
  cases h with
  | object meant =>
    obtain meant' | - := h'
    exact unique _ a b meant meant'
  | array _ meant =>
    obtain - | ⟨-, meant'⟩ := h'
    exact unique _ a b meant meant'

/-- The only field of an error body is a record itself. -/
theorem puts_error : errorBodyForm.Puts "error"
    (Tree.IsRecord ["code", "message"] SaysDetail) fun e _ => some e := by
  intro v d d'
  change (errorDetailForm.decode v).map _ = _ ↔ _
  simp only [map_eq_ok_iff, decode_errorDetailForm_eq_ok_iff]
  rfl

theorem errorBodyForm_fields {name : String} (known : name ∈ errorBodyForm.fields) :
    name = "error" := by
  simpa [errorBodyForm] using known

/-- An error body asks for a detail under its only name and passes over the rest. -/
theorem asks_errorBodyForm : errorBodyForm.Asks
    (fun _ t => ∃ e, t.IsRecord ["code", "message"] SaysDetail e) fun _ => True where
  put name known v d := by
    obtain rfl := errorBodyForm_fields known
    exact puts_error.exists_iff v d
  other name _ v d := RecordForm.exists_passed_iff v d

theorem holds_error : errorBodyForm.Holds "error"
    (Filled (Tree.IsRecord ["code", "message"] SaysDetail)) id :=
  puts_error.holds (by decide) (fun _ _ _ => rfl) (fun _ _ => rfl) fun name known other =>
    absurd (errorBodyForm_fields known) other

/-- A body that says an error is admitted. -/
theorem admits_of_saysError (ts : List (Option String × Tree)) (e : ErrorDetail)
    (meant : SaysError ts e) : errorBodyForm.Admits
      (fun _ t => ∃ e, t.IsRecord ["code", "message"] SaysDetail e) (fun _ => True) [] ts where
  names := meant.names
  fresh := by simp
  fields name known := by
    obtain rfl := errorBodyForm_fields known
    exact meant.error.fits
  others _ _ _ _ := trivial

/-- **An error** is accepted as the one that it says. -/
theorem decode_errorBodyForm_eq_ok_iff {v : Reading} {e : ErrorDetail} :
    errorBodyForm.decode v = .ok e
      ↔ ∃ t, v.tree? = some t ∧ t.IsRecord errorBodyForm.fields SaysError e := by
  refine RecordForm.decode_eq_ok_iff (by decide) (RecordForm.decodeMembers_iff_means
    asks_errorBodyForm admits_of_saysError fun ms ts d e read trees admitted => ?_)
  have finished : errorBodyForm.finish d = .ok e ↔ id d = some e := by
    cases d <;> simp [errorBodyForm, wanted]
  -- The draft of this record is the one part that it has.
  rw [finished, holds_error.eq_some_iff (isRecord_unique saysDetail_unique) rfl read trees]
  constructor
  · intro error
    exact ⟨admitted.names, error⟩
  · intro meant
    exact meant.error

/-! ## Bodies -/

/-- What a text is accepted as is what its tree says. -/
theorem decodeText_iff {α : Type} {decode : Reading → Decoded α} {means : Tree → α → Prop}
    (accepts : ∀ v a, decode v = .ok a ↔ ∃ t, v.tree? = some t ∧ means t a) (cs : List Char)
    (a : α) :
    decodeText decode cs = .ok a ↔ ∃ t, SpellsText cs t ∧ means t a := by
  rw [decodeText_eq_ok_iff, accepts]
  constructor
  · rintro ⟨behind, t, tree, meant⟩
    exact ⟨t, (tree?_readText_iff cs t).1 ⟨behind, tree⟩, meant⟩
  · rintro ⟨t, spelled, meant⟩
    obtain ⟨behind, tree⟩ := (tree?_readText_iff cs t).2 spelled
    exact ⟨behind, t, tree, meant⟩

/-- **A body is accepted as a response** if and only if it spells that response. -/
theorem decodeText_decodeResponse_iff (cs : List Char) (r : Response) :
    decodeText decodeResponse cs = .ok r ↔ SpellsResponse cs r :=
  decodeText_iff (fun _ _ => decodeResponse_eq_ok_iff) cs r

/-- **A body is accepted as an error** if and only if it spells that error. -/
theorem decodeText_errorBodyForm_iff (cs : List Char) (e : ErrorDetail) :
    decodeText errorBodyForm.decode cs = .ok e ↔ SpellsError cs e :=
  decodeText_iff (fun _ _ => decode_errorBodyForm_eq_ok_iff) cs e

end KeyedLocks.Client
