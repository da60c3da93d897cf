/-
Durations and owners against the grammar.

A duration is accepted as the one that its tree says, whether it is an object or an array
(`decodeDuration_eq_ok_iff`), and so is an owner among the members that a request sets aside
(`decodeOwnerAside_eq_ok_iff`). Both forms have two fields that must come, so both are settled
alike: what each field sets, what the form asks, and what the draft has in the end. A tree means one
thing at most, so what a draft has is what the tree says.
-/
import KeyedLocks.Wire.Grammar
import KeyedLocks.Wire.Request
import KeyedLocks.Proofs.Json.Records

set_option autoImplicit false

namespace KeyedLocks.Wire

open KeyedLocks.Json

/-! ## Numbers and choices -/

section

variable {β : Type} {v : Reading} {b : β}

/-- A word is accepted exactly if the tree is an integer that the word holds. The same lemma stands
below for the other types, for each has its own way back from integers. -/
theorem map_decodeInteger_int32 {f : Int32 → β} :
    (decodeInteger .int32 v).map (fun i => f (Int32.ofInt i)) = .ok b
      ↔ ∃ n : Int32, (∃ t, v.tree? = some t ∧ t.IsInteger n.toInt) ∧ f n = b := by
  have bounds : IntegerType.int32.bounds = ⟨-2147483648, 2147483647⟩ := rfl
  refine map_decodeInteger_eq_ok_iff (by decide) (by decide) contains_int32 Int32.ofInt_toInt
    fun i fit => ?_
  simp only [bounds, Text.Bounds.contains, Bool.and_eq_true, decide_eq_true_eq] at fit
  exact Int32.toInt_ofInt_of_le (by omega) (by omega)

theorem map_decodeInteger_int64 {f : Int64 → β} :
    (decodeInteger .int64 v).map (fun i => f (Int64.ofInt i)) = .ok b
      ↔ ∃ n : Int64, (∃ t, v.tree? = some t ∧ t.IsInteger n.toInt) ∧ f n = b := by
  have bounds : IntegerType.int64.bounds = ⟨-9223372036854775808, 9223372036854775807⟩ := rfl
  refine map_decodeInteger_eq_ok_iff (by decide) (by decide) contains_int64 Int64.ofInt_toInt
    fun i fit => ?_
  simp only [bounds, Text.Bounds.contains, Bool.and_eq_true, decide_eq_true_eq] at fit
  exact Int64.toInt_ofInt_of_le (by omega) (by omega)

theorem map_decodeInteger_word64 {f : UInt64 → β} :
    (decodeInteger .word64 v).map (fun i => f (UInt64.ofNat i.toNat)) = .ok b
      ↔ ∃ n : UInt64, (∃ t, v.tree? = some t ∧ t.IsInteger n.toNat) ∧ f n = b := by
  have bounds : IntegerType.word64.bounds = ⟨0, 18446744073709551615⟩ := rfl
  have size : UInt64.size = 18446744073709551616 := rfl
  refine map_decodeInteger_eq_ok_iff (by decide) (by decide) contains_word64
    (fun n => n.ofNat_toNat) fun i fit => ?_
  simp only [bounds, Text.Bounds.contains, Bool.and_eq_true, decide_eq_true_eq] at fit
  rw [UInt64.toNat_ofNat_of_lt' (by omega)]
  omega

end

/-- What is found under a name in a list of names is the one listed with this name, as names are
different. -/
theorem lookup_eq_some_iff {α : Type} {f : α → String} (injective : ∀ a b, f a = f b → a = b)
    {as : List α} {name : String} {a : α} :
    (as.map fun a => (f a, a)).lookup name = some a ↔ a ∈ as ∧ f a = name := by
  induction as with
  | nil => simp
  | cons b bs ih =>
    rw [List.map_cons, List.lookup_cons]
    by_cases same : name = f b
    · subst same
      simp only [beq_self_eq_true, Option.some.injEq, List.mem_cons]
      constructor
      · rintro rfl
        exact ⟨.inl rfl, rfl⟩
      · exact fun h => (injective _ _ h.2).symm
    · rw [beq_false_of_ne same]
      refine ih.trans ⟨fun h => ⟨.tail _ h.1, h.2⟩, fun h => ⟨?_, h.2⟩⟩
      -- Only the first has the first name, so any other is found further on.
      rcases List.mem_cons.1 h.1 with rfl | old
      · exact absurd h.2.symm same
      · exact old

/-- The name of a kind can be read back. -/
theorem kind_name_injective (a b : LockKind) (same : a.name = b.name) : a = b := by
  have read := decodeKind_name a
  rw [same, decodeKind_name b] at read
  cases read
  rfl

theorem unit_name_injective (a b : TimeUnit) (same : a.name = b.name) : a = b := by
  have read := decodeUnit_name a
  rw [same, decodeUnit_name b] at read
  cases read
  rfl

/-- A kind is accepted exactly if it is spelled as a choice of its name. -/
theorem decodeKind_eq_ok_iff {v : Reading} {k : LockKind} :
    decodeKind v = .ok k ↔ ∃ t, v.tree? = some t ∧ t.IsChoice k.name := by
  rw [decodeKind, decodeChoice_eq_ok_iff]
  simp [lookup_eq_some_iff kind_name_injective, k.mem_all]

theorem decodeUnit_eq_ok_iff {v : Reading} {u : TimeUnit} :
    decodeUnit v = .ok u ↔ ∃ t, v.tree? = some t ∧ t.IsChoice u.name := by
  rw [decodeUnit, decodeChoice_eq_ok_iff]
  simp [lookup_eq_some_iff unit_name_injective, u.mem_all]

/-! ## What a tree means is settled -/

/-- A tree is one string at most, one integer at most, and one choice at most. -/
theorem isString_unique (t : Tree) (s s' : String) (h : t.IsString s) (h' : t.IsString s') :
    s = s' := by
  cases h
  cases h'
  rfl

theorem isInteger_unique (t : Tree) (i i' : Int) (h : t.IsInteger i) (h' : t.IsInteger i') :
    i = i' := by
  obtain ⟨n, rfl, denotes⟩ := h
  obtain ⟨_, same, denotes'⟩ := h'
  cases same
  exact denotes.value.trans denotes'.value.symm

theorem isChoice_unique (t : Tree) (a b : String) (h : t.IsChoice a) (h' : t.IsChoice b) :
    a = b := by
  obtain rfl | rfl := h <;> obtain same | same := h' <;> cases same <;> rfl

theorem int64_unique (t : Tree) (n n' : Int64) (h : t.IsInteger n.toInt)
    (h' : t.IsInteger n'.toInt) : n = n' :=
  Int64.toInt_inj.1 (isInteger_unique t _ _ h h')

theorem int32_unique (t : Tree) (n n' : Int32) (h : t.IsInteger n.toInt)
    (h' : t.IsInteger n'.toInt) : n = n' :=
  Int32.toInt_inj.1 (isInteger_unique t _ _ h h')

theorem word64_unique (t : Tree) (n n' : UInt64) (h : t.IsInteger n.toNat)
    (h' : t.IsInteger n'.toNat) : n = n' :=
  UInt64.toNat_inj.1 (Int.ofNat.inj (isInteger_unique t _ _ h h'))

theorem kind_unique (t : Tree) (k k' : LockKind) (h : t.IsChoice k.name)
    (h' : t.IsChoice k'.name) : k = k' :=
  kind_name_injective k k' (isChoice_unique t _ _ h h')

theorem unit_unique (t : Tree) (u u' : TimeUnit) (h : t.IsChoice u.name)
    (h' : t.IsChoice u'.name) : u = u' :=
  unit_name_injective u u' (isChoice_unique t _ _ h h')

/-! ## Durations -/

/-- The parts of a duration are set one by one. -/
theorem puts_magnitude : durationForm.Puts "magnitude" (fun t (n : Int64) => t.IsInteger n.toInt)
    fun n d => { d with magnitude := some n } := by
  intro v d d'
  change (decodeInteger .int64 v).map _ = _ ↔ _
  exact map_decodeInteger_int64 (f := fun n => { d with magnitude := some n })

theorem puts_unit : durationForm.Puts "unit" (fun t (u : TimeUnit) => t.IsChoice u.name)
    fun u d => { d with unit := some u } := by
  intro v d d'
  change (decodeUnit v).map _ = _ ↔ _
  simp only [map_eq_ok_iff, decodeUnit_eq_ok_iff]

theorem durationForm_fields {name : String} (known : name ∈ durationForm.fields) :
    name = "magnitude" ∨ name = "unit" := by
  simpa [durationForm] using known

/-- What fits under the names of a duration. -/
def durationFits (name : String) (t : Tree) : Prop :=
  match name with
  | "magnitude" => ∃ n : Int64, t.IsInteger n.toInt
  | _ => ∃ u : TimeUnit, t.IsChoice u.name

/-- A duration asks for both parts and passes over all others, however deep. -/
theorem asks_durationForm : durationForm.Asks durationFits fun _ => True where
  put name known v d := by
    obtain rfl | rfl := durationForm_fields known
    · exact puts_magnitude.exists_iff v d
    · exact puts_unit.exists_iff v d
  other name _ v d := RecordForm.exists_passed_iff v d

/-- The draft has in the end what was spelled. -/
theorem holds_magnitude :
    durationForm.Holds "magnitude" (Filled fun t (n : Int64) => t.IsInteger n.toInt)
      DurationDraft.magnitude where
  known := by decide
  put := puts_magnitude.fills fun _ n _ integer => ⟨n, rfl, integer⟩
  keep name known other v d d' taken := by
    obtain rfl := (durationForm_fields known).resolve_left other
    obtain ⟨u, -, rfl⟩ := (puts_unit v d d').1 taken
    rfl
  aside name _ v d d' passed := congrArg _ (RecordForm.eq_of_passed passed)

theorem holds_unit :
    durationForm.Holds "unit" (Filled fun t (u : TimeUnit) => t.IsChoice u.name)
      DurationDraft.unit where
  known := by decide
  put := puts_unit.fills fun _ u _ choice => ⟨u, rfl, choice⟩
  keep name known other v d d' taken := by
    obtain rfl := (durationForm_fields known).resolve_right other
    obtain ⟨n, -, rfl⟩ := (puts_magnitude v d d').1 taken
    rfl
  aside name _ v d d' passed := congrArg _ (RecordForm.eq_of_passed passed)

/-- A draft becomes a duration if both parts are there. -/
theorem durationForm_finish {d : DurationDraft} {l : LockDuration} :
    durationForm.finish d = .ok l ↔ d.magnitude = some l.magnitude ∧ d.unit = some l.unit := by
  obtain ⟨magnitude, unit⟩ := d
  obtain ⟨n, u⟩ := l
  cases magnitude <;> cases unit <;>
    simp [durationForm, wanted, Bind.bind, Except.bind, Pure.pure, Except.pure]

/-- **A duration as an object.** -/
theorem decodeMembers_durationForm {ms : Members} {l : LockDuration} :
    durationForm.decodeMembers ms = .ok l
      ↔ ∃ ts, ms.trees? = some ts ∧ SaysDuration (.object ts) l := by
  rw [RecordForm.decodeMembers_eq_ok_iff]
  constructor
  · rintro ⟨d, read, finished⟩
    obtain ⟨ts, trees, admits⟩ := (asks_durationForm.exists_readMembers_iff [] _ ms).1 ⟨d, read⟩
    obtain ⟨magnitude, unit⟩ := durationForm_finish.1 finished
    exact ⟨ts, trees, .object admits.names
      ((holds_magnitude.eq_some_iff int64_unique rfl read trees).1 magnitude)
      ((holds_unit.eq_some_iff unit_unique rfl read trees).1 unit)⟩
  · rintro ⟨ts, trees, names, magnitude, unit⟩
    -- That the reading gets to the end has to be known before what it ends with can be asked.
    have admits : durationForm.Admits durationFits (fun _ => True) [] ts := by
      refine ⟨names, by simp, fun name known => .inr ?_, fun _ _ _ _ => trivial⟩
      obtain rfl | rfl := durationForm_fields known
      · obtain ⟨t, one, integer⟩ := magnitude
        exact ⟨t, one, _, integer⟩
      · obtain ⟨t, one, choice⟩ := unit
        exact ⟨t, one, _, choice⟩
    obtain ⟨d, read⟩ := (asks_durationForm.exists_readMembers_iff [] durationForm.empty ms).2
      ⟨ts, trees, admits⟩
    exact ⟨d, read, durationForm_finish.2
      ⟨(holds_magnitude.eq_some_iff int64_unique rfl read trees).2 magnitude,
        (holds_unit.eq_some_iff unit_unique rfl read trees).2 unit⟩⟩

/-- **A duration as an array.** -/
theorem decodeDuration_array {is : Items} {l : LockDuration} :
    decodeDuration (.array is) = .ok l
      ↔ ∃ ts, is.trees? = some ts ∧ SaysDuration (.array ts) l := by
  have fields : durationForm.fields = ["magnitude", "unit"] := rfl
  rw [decodeDuration, RecordForm.decode_array_eq_ok_iff, fields]
  constructor
  · rintro ⟨d, read, finished⟩
    -- There are two fields, so the array has two items.
    obtain ⟨v, rest, d₁, rfl, taken, read⟩ := RecordForm.readItems_cons_eq_ok_iff.1 read
    obtain ⟨w, rest, d₂, rfl, taken', read⟩ := RecordForm.readItems_cons_eq_ok_iff.1 read
    cases read
    obtain ⟨n, ⟨t, tree, integer⟩, rfl⟩ := (puts_magnitude v _ _).1 taken
    obtain ⟨u, ⟨t', tree', choice⟩, rfl⟩ := (puts_unit w _ _).1 taken'
    obtain ⟨magnitude, unit⟩ := durationForm_finish.1 finished
    cases magnitude
    cases unit
    exact ⟨[t, t'], by simp [Items.trees?, tree, tree'], .array integer choice⟩
  · rintro ⟨_, trees, meant⟩
    obtain _ | ⟨integer, choice⟩ := meant
    obtain ⟨v, rest, rfl, tree, trees⟩ := trees?_eq_cons.1 trees
    obtain ⟨w, rest, rfl, tree', closed⟩ := trees?_eq_cons.1 trees
    obtain rfl := trees?_eq_nil.1 closed
    exact ⟨⟨some l.magnitude, some l.unit⟩,
      RecordForm.readItems_cons_eq_ok_iff.2 ⟨v, _, _, rfl,
        (puts_magnitude v _ _).2 ⟨_, ⟨_, tree, integer⟩, rfl⟩,
        RecordForm.readItems_cons_eq_ok_iff.2 ⟨w, _, _, rfl,
          (puts_unit w _ _).2 ⟨_, ⟨_, tree', choice⟩, rfl⟩, rfl⟩⟩,
      durationForm_finish.2 ⟨rfl, rfl⟩⟩

/-- **A duration** is accepted as the one that it says. -/
theorem decodeDuration_eq_ok_iff {v : Reading} {l : LockDuration} :
    decodeDuration v = .ok l ↔ ∃ t, v.tree? = some t ∧ SaysDuration t l := by
  constructor
  · intro decoded
    cases v with
    | object ms =>
      obtain ⟨ts, trees, meant⟩ := decodeMembers_durationForm.1 decoded
      exact ⟨.object ts, tree?_eq_object.2 ⟨ms, rfl, trees⟩, meant⟩
    | array is =>
      obtain ⟨ts, trees, meant⟩ := decodeDuration_array.1 decoded
      exact ⟨.array ts, tree?_eq_array.2 ⟨is, rfl, trees⟩, meant⟩
    -- Nothing else is a duration.
    | _ => simp [decodeDuration, RecordForm.decode, wrongType_ne_ok] at decoded
  · rintro ⟨t, tree, meant⟩
    cases t with
    | object ts =>
      obtain ⟨ms, rfl, trees⟩ := tree?_eq_object.1 tree
      exact decodeMembers_durationForm.2 ⟨ts, trees, meant⟩
    | array ts =>
      obtain ⟨is, rfl, trees⟩ := tree?_eq_array.1 tree
      exact decodeDuration_array.2 ⟨ts, trees, meant⟩
    | _ => cases meant

/-- A tree says one duration at most. -/
theorem saysDuration_unique (t : Tree) (l l' : LockDuration) (h : SaysDuration t l)
    (h' : SaysDuration t l') : l = l' := by
  obtain ⟨n, u⟩ := l
  obtain ⟨n', u'⟩ := l'
  -- An object and an array are told apart by the tree.
  cases h with
  | object names magnitude unit =>
    obtain ⟨-, magnitude', unit'⟩ := h'
    have numbers := Required.unique isInteger_unique magnitude magnitude'
    have units := Required.unique isChoice_unique unit unit'
    exact congrArg₂ _ (Int64.toInt_inj.1 numbers) (unit_name_injective _ _ units)
  | array magnitude unit =>
    obtain _ | ⟨magnitude', unit'⟩ := h'
    exact congrArg₂ _ (int64_unique _ _ _ magnitude magnitude') (unit_unique _ _ _ unit unit')

/-- **A lease** is accepted as the one that it says. -/
theorem decodeOption_decodeDuration_eq_ok_iff {v : Reading} {l : Option LockDuration} :
    decodeOption decodeDuration v = .ok l ↔ ∃ t, v.tree? = some t ∧ SaysLease t l := by
  unfold decodeOption
  split
  · constructor
    · intro decoded
      cases decoded
      exact ⟨.null, rfl, .null⟩
    · rintro ⟨t, tree, meant⟩
      cases tree
      cases meant with
      | null => rfl
      | duration meant => cases meant
  -- Null is decided by the first look, so what is left to the duration is no null.
  · next other =>
    rw [map_eq_ok_iff]
    constructor
    · rintro ⟨d, decoded, rfl⟩
      obtain ⟨t, tree, meant⟩ := decodeDuration_eq_ok_iff.1 decoded
      exact ⟨t, tree, .duration meant⟩
    · rintro ⟨t, tree, meant⟩
      cases meant with
      | null => exact absurd (tree?_eq_null.1 tree) other
      | duration meant => exact ⟨_, decodeDuration_eq_ok_iff.2 ⟨t, tree, meant⟩, rfl⟩

/-- A tree says one lease at most, or none. -/
theorem saysLease_unique (t : Tree) (l l' : Option LockDuration) (h : SaysLease t l)
    (h' : SaysLease t l') : l = l' := by
  cases h with
  | null =>
    obtain _ | ⟨meant'⟩ := h'
    · rfl
    · cases meant'
  | duration meant =>
    obtain _ | ⟨meant'⟩ := h'
    · cases meant
    · rw [saysDuration_unique t _ _ meant meant']

/-! ## Owners -/

/-- The parts of an owner are set one by one. -/
theorem puts_application : ownerForm.Puts "application" Tree.IsString
    fun s d => { d with application := some s } := by
  intro v d d'
  change (decodeString v).map _ = _ ↔ _
  simp [map_eq_ok_iff, decodeString_eq_ok_iff, Tree.IsString]

theorem puts_thread : ownerForm.Puts "thread" Tree.IsString
    fun s d => { d with thread := some s } := by
  intro v d d'
  change (decodeString v).map _ = _ ↔ _
  simp [map_eq_ok_iff, decodeString_eq_ok_iff, Tree.IsString]

theorem ownerForm_fields {name : String} (known : name ∈ ownerForm.fields) :
    name = "application" ∨ name = "thread" := by
  simpa [ownerForm] using known

/-- An owner asks for two strings and passes over the rest. -/
theorem asks_ownerForm : ownerForm.Asks (fun _ t => ∃ s, t.IsString s) fun _ => True where
  put name known v d := by
    obtain rfl | rfl := ownerForm_fields known
    · exact puts_application.exists_iff v d
    · exact puts_thread.exists_iff v d
  other name _ v d := RecordForm.exists_passed_iff v d

theorem holds_application :
    ownerForm.Holds "application" (Filled Tree.IsString) OwnerDraft.application where
  known := by decide
  put := puts_application.fills fun _ s _ string => ⟨s, rfl, string⟩
  keep name known other v d d' taken := by
    obtain rfl := (ownerForm_fields known).resolve_left other
    obtain ⟨s, -, rfl⟩ := (puts_thread v d d').1 taken
    rfl
  aside name _ v d d' passed := congrArg _ (RecordForm.eq_of_passed passed)

theorem holds_thread : ownerForm.Holds "thread" (Filled Tree.IsString) OwnerDraft.thread where
  known := by decide
  put := puts_thread.fills fun _ s _ string => ⟨s, rfl, string⟩
  keep name known other v d d' taken := by
    obtain rfl := (ownerForm_fields known).resolve_right other
    obtain ⟨s, -, rfl⟩ := (puts_application v d d').1 taken
    rfl
  aside name _ v d d' passed := congrArg _ (RecordForm.eq_of_passed passed)

/-- A draft becomes an owner if both parts are there. -/
theorem ownerForm_finish {d : OwnerDraft} {o : Owner} :
    ownerForm.finish d = .ok o
      ↔ d.application = some o.application ∧ d.thread = some o.thread := by
  obtain ⟨application, thread⟩ := d
  obtain ⟨a, b⟩ := o
  cases application <;> cases thread <;>
    simp [ownerForm, wanted, Bind.bind, Except.bind, Pure.pure, Except.pure]

/-- **An owner among members that were set aside** is accepted as the one that they say. -/
theorem decodeOwnerAside_eq_ok_iff {aside : List (String × Reading)} {o : Owner}
    {ts : List (Option String × Tree)} (trees : (Members.ofList aside).trees? = some ts)
    (names : ∀ m ∈ ts, m.1.isSome = true) :
    decodeOwnerAside aside = .ok o
      ↔ Required Tree.IsString (valuesOf ts "application") o.application
        ∧ Required Tree.IsString (valuesOf ts "thread") o.thread := by
  have passes : ∀ name v d, ownerForm.other name v d = ofFault (v.skip.map fun () => d) :=
    fun _ _ _ => rfl
  -- What was set aside is read like the members of an object of its own.
  have unfolded : decodeOwnerAside aside = .ok o
      ↔ ∃ d, ownerForm.readMembers [] ownerForm.empty (.ofList aside) = .ok d
        ∧ ownerForm.finish d = .ok o := by
    simp only [← RecordForm.readAside_eq_ok_iff passes trees]
    rw [decodeOwnerAside]
    cases ownerForm.readAside [] ownerForm.empty aside <;> simp [Bind.bind, Except.bind]
  rw [unfolded]
  constructor
  · rintro ⟨d, read, finished⟩
    obtain ⟨application, thread⟩ := ownerForm_finish.1 finished
    exact ⟨(holds_application.eq_some_iff isString_unique rfl read trees).1 application,
      (holds_thread.eq_some_iff isString_unique rfl read trees).1 thread⟩
  · rintro ⟨application, thread⟩
    have admits : ownerForm.Admits (fun _ t => ∃ s, t.IsString s) (fun _ => True) [] ts := by
      refine ⟨names, by simp, fun name known => ?_, fun _ _ _ _ => trivial⟩
      obtain rfl | rfl := ownerForm_fields known
      · exact application.fits
      · exact thread.fits
    obtain ⟨d, read⟩ := (asks_ownerForm.exists_readMembers_iff [] ownerForm.empty _).2
      ⟨ts, trees, admits⟩
    exact ⟨d, read, ownerForm_finish.2
      ⟨(holds_application.eq_some_iff isString_unique rfl read trees).2 application,
        (holds_thread.eq_some_iff isString_unique rfl read trees).2 thread⟩⟩

end KeyedLocks.Wire
