/-
Records and what an object says.

A form takes the members of an object one by one, but which objects it accepts is up to what stands
under each name. Every member is taken or passed over on its own (`Asks`), so an object is accepted
if each name of a field comes once at most, with something that fits under it
(`Asks.exists_readMembers_iff`). And what a draft has in one place comes from one field
(`Holds`), so in the end it has there what stands under the name of that field, or what it had
before (`Holds.optional_of_readMembers`). Both are inductions on the members, from one lemma that
says what becomes of the first (`readMembers_member_eq_ok_iff`).
-/
import KeyedLocks.Proofs.Json.Decoding

set_option autoImplicit false

namespace KeyedLocks.Json

/-! ## What stands under a name -/

variable {name other : String} {t : Tree} {ms : List (Option String × Tree)}

@[simp] theorem valuesOf_nil (name : String) : valuesOf [] name = [] := rfl

@[simp] theorem valuesOf_cons_self (name : String) (t : Tree) (ms : List (Option String × Tree)) :
    valuesOf ((some name, t) :: ms) name = t :: valuesOf ms name := by
  simp [valuesOf]

/-- A member of another name is not counted. -/
theorem valuesOf_cons_of_ne (different : other ≠ name) (t : Tree)
    (ms : List (Option String × Tree)) :
    valuesOf ((some other, t) :: ms) name = valuesOf ms name := by
  simp [valuesOf, different]

/-- What stands under a name is some member's value. -/
theorem mem_valuesOf : t ∈ valuesOf ms name ↔ (some name, t) ∈ ms := by
  simp [valuesOf]

/-! ## Members of a form -/

namespace RecordForm

variable {δ α : Type} {form : RecordForm δ α} {seen : List String} {d d' : δ}

/-- **The first member** is taken if it is a field that was not seen, and goes its own way if it is
none. -/
theorem readMembers_member_eq_ok_iff {key : Literal} {v : Reading} {rest : Members} :
    form.readMembers seen d (.member key v rest) = .ok d' ↔ ∃ name, key = .whole name
      ∧ ((name ∈ form.fields ∧ name ∉ seen
            ∧ ∃ d₁, form.put name v d = .ok d₁ ∧ form.readMembers (name :: seen) d₁ rest = .ok d')
        ∨ (name ∉ form.fields
            ∧ ∃ d₁, form.other name v d = .ok d₁ ∧ form.readMembers seen d₁ rest = .ok d')) := by
  cases key with
  | faulty read skip => simp [readMembers, Literal.read]
  | whole name =>
    simp only [readMembers, Literal.read, Literal.whole.injEq, exists_eq_left']
    by_cases known : name ∈ form.fields
    · by_cases twice : name ∈ seen
      · simp [known, twice]
      · simp only [known, twice, take, if_true, if_false]
        cases taken : form.put name v d <;> simp [Decoded.under]
    · simp only [known, if_false]
      cases passed : form.other name v d <;> simp

/-- What a form accepts: what fits under the name of a field, and what passes under any other.
Whether it does never depends on the draft. -/
structure Asks (form : RecordForm δ α) (fits : String → Tree → Prop) (passes : Tree → Prop) :
    Prop where
  put : ∀ name ∈ form.fields, ∀ v d,
    (∃ d', form.put name v d = .ok d') ↔ ∃ t, v.tree? = some t ∧ fits name t
  other : ∀ name ∉ form.fields, ∀ v d,
    (∃ d', form.other name v d = .ok d') ↔ ∃ t, v.tree? = some t ∧ passes t

/-- Members that are accepted: the names are strings, the name of a field comes once at most and not
if it was seen, and everything fits or passes. -/
structure Admits (form : RecordForm δ α) (fits : String → Tree → Prop) (passes : Tree → Prop)
    (seen : List String) (ms : List (Option String × Tree)) : Prop where
  names : ∀ m ∈ ms, m.1.isSome = true
  fresh : ∀ name ∈ form.fields, name ∈ seen → valuesOf ms name = []
  fields : ∀ name ∈ form.fields,
    valuesOf ms name = [] ∨ ∃ t, valuesOf ms name = [t] ∧ fits name t
  others : ∀ name t, (some name, t) ∈ ms → name ∉ form.fields → passes t

section

variable {fits : String → Tree → Prop} {passes : Tree → Prop}

/-- No members are always admitted. -/
theorem admits_nil : Admits form fits passes seen [] where
  names := by simp
  fresh := by simp
  fields := by simp
  others := by simp

/-- A field is admitted before others if it is new and fits, and if it counts as seen for those. -/
theorem admits_cons_field (known : name ∈ form.fields) :
    Admits form fits passes seen ((some name, t) :: ms)
      ↔ name ∉ seen ∧ fits name t ∧ Admits form fits passes (name :: seen) ms := by
  constructor
  · rintro ⟨names, fresh, fields, others⟩
    obtain ⟨once, fit⟩ : valuesOf ms name = [] ∧ fits name t := by
      rcases fields name known with none | ⟨u, one, fit⟩
      · simp at none
      · rw [valuesOf_cons_self, List.cons.injEq] at one
        exact ⟨one.2, one.1 ▸ fit⟩
    refine ⟨fun twice => ?_, fit, fun m hm => names m (.tail _ hm), fun n known' hn => ?_,
      fun n known' => ?_, fun n u hm => others n u (.tail _ hm)⟩
    · simpa using fresh name known twice
    · by_cases same : name = n
      · exact same ▸ once
      · have old : n ∈ seen := (List.mem_cons.1 hn).resolve_left (Ne.symm same)
        simpa [valuesOf_cons_of_ne same] using fresh n known' old
    · by_cases same : name = n
      · exact .inl (same ▸ once)
      · simpa [valuesOf_cons_of_ne same] using fields n known'
  -- The other way round, the name is seen from here on, so it does not come again.
  · rintro ⟨first, fit, names, fresh, fields, others⟩
    have once := fresh name known List.mem_cons_self
    refine ⟨by simpa using names, fun n known' hn => ?_, fun n known' => ?_,
      fun n u hm unknown => ?_⟩
    · have same : name ≠ n := by
        rintro rfl
        exact first hn
      rw [valuesOf_cons_of_ne same]
      exact fresh n known' (.tail _ hn)
    · by_cases same : name = n
      · subst same
        exact .inr ⟨t, by rw [valuesOf_cons_self, once], fit⟩
      · rw [valuesOf_cons_of_ne same]
        exact fields n known'
    · rcases List.mem_cons.1 hm with same | hm
      · cases same
        exact absurd known unknown
      · exact others n u hm unknown

/-- Any other member is admitted if it passes. -/
theorem admits_cons_other (unknown : name ∉ form.fields) :
    Admits form fits passes seen ((some name, t) :: ms)
      ↔ passes t ∧ Admits form fits passes seen ms := by
  -- No field has the name of the first member, so nothing changes for any of them.
  have apart : ∀ n ∈ form.fields, valuesOf ((some name, t) :: ms) n = valuesOf ms n := by
    intro n known
    refine valuesOf_cons_of_ne ?_ t ms
    rintro rfl
    exact unknown known
  constructor
  · rintro ⟨names, fresh, fields, others⟩
    exact ⟨others name t List.mem_cons_self unknown, fun m hm => names m (.tail _ hm),
      fun n known hn => apart n known ▸ fresh n known hn,
      fun n known => apart n known ▸ fields n known, fun n u hm => others n u (.tail _ hm)⟩
  · rintro ⟨pass, names, fresh, fields, others⟩
    refine ⟨by simpa using names, fun n known hn => (apart n known).symm ▸ fresh n known hn,
      fun n known => (apart n known).symm ▸ fields n known, fun n u hm unknown' => ?_⟩
    rcases List.mem_cons.1 hm with same | hm
    · cases same
      exact pass
    · exact others n u hm unknown'

/-- The first name is a string. -/
theorem Admits.exists_name {s : Option String}
    (admits : Admits form fits passes seen ((s, t) :: ms)) : ∃ name, s = some name :=
  Option.isSome_iff_exists.1 (admits.names _ List.mem_cons_self)

/-- **What a form accepts** is said by an object whose members it admits. -/
theorem Asks.exists_readMembers_iff (asks : Asks form fits passes) (seen : List String) (d : δ)
    (ms : Members) : (∃ d', form.readMembers seen d ms = .ok d')
      ↔ ∃ ts, ms.trees? = some ts ∧ Admits form fits passes seen ts := by
  cases ms with
  | closed => simp [readMembers, Members.trees?, admits_nil]
  | stop f => simp [readMembers, Members.trees?]
  | member key v rest =>
    have more := fun seen d => asks.exists_readMembers_iff seen d rest
    constructor
    · rintro ⟨d', read⟩
      -- The first member is a field that is new, or it is passed over. Either way the rest is the
      -- induction's.
      obtain ⟨name, rfl, ⟨known, fresh, d₁, taken, read⟩ | ⟨unknown, d₁, passed, read⟩⟩ :=
        readMembers_member_eq_ok_iff.1 read
      · obtain ⟨t, tree, fit⟩ := (asks.put name known v d).1 ⟨d₁, taken⟩
        obtain ⟨ts, trees, admits⟩ := (more (name :: seen) d₁).1 ⟨d', read⟩
        exact ⟨(some name, t) :: ts, by simp [Members.trees?, Literal.text?, tree, trees],
          (admits_cons_field known).2 ⟨fresh, fit, admits⟩⟩
      · obtain ⟨t, tree, pass⟩ := (asks.other name unknown v d).1 ⟨d₁, passed⟩
        obtain ⟨ts, trees, admits⟩ := (more seen d₁).1 ⟨d', read⟩
        exact ⟨(some name, t) :: ts, by simp [Members.trees?, Literal.text?, tree, trees],
          (admits_cons_other unknown).2 ⟨pass, admits⟩⟩
    · rintro ⟨ts, trees, admits⟩
      cases ts with
      | nil => simp at trees
      | cons m ts =>
        obtain ⟨s, t⟩ := m
        -- What the members say tells that there is a first one and what it says.
        obtain ⟨_, _, _, same, text, tree, trees'⟩ := members_trees?_eq_cons.1 trees
        cases same
        obtain ⟨name, rfl⟩ := admits.exists_name
        obtain rfl := text?_eq_some_some.1 text
        by_cases known : name ∈ form.fields
        · obtain ⟨fresh, fit, admits⟩ := (admits_cons_field known).1 admits
          obtain ⟨d₁, taken⟩ := (asks.put name known v d).2 ⟨t, tree, fit⟩
          obtain ⟨d', read⟩ := (more (name :: seen) d₁).2 ⟨ts, trees', admits⟩
          exact ⟨d', readMembers_member_eq_ok_iff.2
            ⟨name, rfl, .inl ⟨known, fresh, d₁, taken, read⟩⟩⟩
        · obtain ⟨pass, admits⟩ := (admits_cons_other known).1 admits
          obtain ⟨d₁, passed⟩ := (asks.other name known v d).2 ⟨t, tree, pass⟩
          obtain ⟨d', read⟩ := (more seen d₁).2 ⟨ts, trees', admits⟩
          exact ⟨d', readMembers_member_eq_ok_iff.2 ⟨name, rfl, .inr ⟨known, d₁, passed, read⟩⟩⟩
termination_by structural ms

end

/-! ## What a draft has in the end -/

/-- A part of a draft comes from one field: it is what stands under the name of that field, and
nothing else changes it. -/
structure Holds {β : Type} (form : RecordForm δ α) (field : String) (means : Tree → β → Prop)
    (get : δ → β) : Prop where
  known : field ∈ form.fields
  put : ∀ v d d', form.put field v d = .ok d' → ∃ t, v.tree? = some t ∧ means t (get d')
  keep : ∀ name ∈ form.fields, name ≠ field → ∀ v d d', form.put name v d = .ok d' →
    get d' = get d
  aside : ∀ name ∉ form.fields, ∀ v d d', form.other name v d = .ok d' → get d' = get d

section

variable {β : Type} {field : String} {means : Tree → β → Prop} {get : δ → β}
  {ts : List (Option String × Tree)}

/-- Members that say something say it one by one. -/
theorem exists_of_trees?_member {key : Literal} {v : Reading} {rest : Members}
    (read : key.read = .ok name) (trees : (Members.member key v rest).trees? = some ts) :
    ∃ t more, v.tree? = some t ∧ rest.trees? = some more ∧ (some name, t) :: more = ts := by
  obtain rfl := read_eq_ok_iff.1 read
  simpa [Members.trees?, Literal.text?, Option.bind_eq_some_iff] using trees

/-- A field that was taken was put; taking it only says where in the text it stands. -/
theorem put_of_take {v : Reading} (taken : form.take name v d = .ok d') :
    form.put name v d = .ok d' :=
  under_eq_ok_iff.1 taken

/-- A field that was seen does not come again. -/
theorem Holds.eq_of_seen (holds : Holds form field means get) {ms : Members}
    (seen' : field ∈ seen) (read : form.readMembers seen d ms = .ok d')
    (trees : ms.trees? = some ts) : valuesOf ts field = [] ∧ get d' = get d := by
  fun_induction form.readMembers seen d ms generalizing ts with
  | case1 =>
    cases read
    cases trees
    exact ⟨rfl, rfl⟩
  -- Of the eight ways through the members three come to an end. The others stop with an error.
  | case6 seen d key v rest name key' known fresh d₁ taken ih =>
    obtain ⟨t, more, -, trees', rfl⟩ := exists_of_trees?_member key' trees
    have other : name ≠ field := by
      rintro rfl
      exact fresh seen'
    obtain ⟨none, same⟩ := ih (.tail _ seen') read trees'
    rw [valuesOf_cons_of_ne other]
    exact ⟨none, same.trans (holds.keep name known other v d d₁ (put_of_take taken))⟩
  | case8 seen d key v rest name key' unknown d₁ passed ih =>
    obtain ⟨t, more, -, trees', rfl⟩ := exists_of_trees?_member key' trees
    have other : name ≠ field := by
      rintro rfl
      exact unknown holds.known
    obtain ⟨none, same⟩ := ih seen' read trees'
    rw [valuesOf_cons_of_ne other]
    exact ⟨none, same.trans (holds.aside name unknown v d d₁ passed)⟩
  | _ => cases read

/-- **What a draft has in the end** is what stands under the name of the field, or what it had
before. -/
theorem Holds.optional_of_readMembers (holds : Holds form field means get) {ms : Members}
    (read : form.readMembers seen d ms = .ok d') (trees : ms.trees? = some ts) :
    Optional means (get d) (valuesOf ts field) (get d') := by
  fun_induction form.readMembers seen d ms generalizing ts with
  | case1 =>
    cases read
    cases trees
    exact .absent
  | case6 seen d key v rest name key' known fresh d₁ taken ih =>
    obtain ⟨t, more, tree, trees', rfl⟩ := exists_of_trees?_member key' trees
    by_cases same : name = field
    · subst same
      -- This is the field, so it does not come again and keeps what it was set to.
      obtain ⟨none, kept⟩ := holds.eq_of_seen List.mem_cons_self read trees'
      obtain ⟨u, tree', meant⟩ := holds.put v d d₁ (put_of_take taken)
      obtain rfl : t = u := Option.some.inj (tree.symm.trans tree')
      rw [valuesOf_cons_self, none, kept]
      exact .present meant
    · rw [valuesOf_cons_of_ne same, ← holds.keep name known same v d d₁ (put_of_take taken)]
      exact ih read trees'
  | case8 seen d key v rest name key' unknown d₁ passed ih =>
    obtain ⟨t, more, -, trees', rfl⟩ := exists_of_trees?_member key' trees
    have other : name ≠ field := by
      rintro rfl
      exact unknown holds.known
    rw [valuesOf_cons_of_ne other, ← holds.aside name unknown v d d₁ passed]
    exact ih read trees'
  | _ => cases read

end

/-! ## Fields -/

/-- A field sets one part of a draft to what its value means. -/
def Puts {ν : Type} (form : RecordForm δ α) (field : String) (means : Tree → ν → Prop)
    (set : ν → δ → δ) : Prop :=
  ∀ v d d', form.put field v d = .ok d'
    ↔ ∃ n, (∃ t, v.tree? = some t ∧ means t n) ∧ set n d = d'

/-- Whether a field is accepted is up to its value and not to the draft. -/
theorem Puts.exists_iff {ν : Type} {field : String} {means : Tree → ν → Prop} {set : ν → δ → δ}
    (puts : form.Puts field means set) (v : Reading) (d : δ) :
    (∃ d', form.put field v d = .ok d') ↔ ∃ t, v.tree? = some t ∧ ∃ n, means t n := by
  constructor
  · rintro ⟨d', taken⟩
    obtain ⟨n, ⟨t, tree, meant⟩, -⟩ := (puts v d d').1 taken
    exact ⟨t, tree, n, meant⟩
  · rintro ⟨t, tree, n, meant⟩
    exact ⟨set n d, (puts v d _).2 ⟨n, ⟨t, tree, meant⟩, rfl⟩⟩

/-- What a field sets is what its value means. -/
theorem Puts.fills {ν β : Type} {field : String} {means : Tree → ν → Prop} {set : ν → δ → δ}
    (puts : form.Puts field means set) {means' : Tree → β → Prop} {get : δ → β}
    (filled : ∀ t n d, means t n → means' t (get (set n d))) (v : Reading) (d d' : δ)
    (taken : form.put field v d = .ok d') : ∃ t, v.tree? = some t ∧ means' t (get d') := by
  obtain ⟨n, ⟨t, tree, meant⟩, rfl⟩ := (puts v d d').1 taken
  exact ⟨t, tree, filled t n d meant⟩

/-- Passing over a member changes nothing and asks for no more than that it says something. -/
theorem exists_passed_iff (v : Reading) (d : δ) :
    (∃ d', ofFault (v.skip.map fun () => d) = .ok d') ↔ ∃ t, v.tree? = some t ∧ True := by
  simp only [ofFault_eq_ok_iff, map_eq_ok_iff, and_true, ← Option.isSome_iff_exists,
    ← skip_eq_ok_iff]
  constructor
  · rintro ⟨_, _, passed, -⟩
    exact passed
  · intro passed
    exact ⟨d, (), passed, rfl⟩

/-- Whatever is passed over leaves the draft as it was. -/
theorem eq_of_passed {v : Reading} (passed : ofFault (v.skip.map fun () => d) = .ok d') :
    d' = d := by
  obtain ⟨_, -, rfl⟩ := map_eq_ok_iff.1 (ofFault_eq_ok_iff.1 passed)
  rfl

/-! ## Whole records -/

/-- An object is accepted if its members are taken and the draft is complete. -/
theorem decodeMembers_eq_ok_iff {ms : Members} {a : α} :
    form.decodeMembers ms = .ok a
      ↔ ∃ d, form.readMembers [] form.empty ms = .ok d ∧ form.finish d = .ok a := by
  rw [decodeMembers]
  cases form.readMembers [] form.empty ms <;> simp

/-- An array is decoded by its items in order, if all of them are used up. -/
theorem decode_array_eq_ok_iff {is : Items} {a : α} :
    form.decode (.array is) = .ok a
      ↔ ∃ d, form.readItems 0 form.empty form.fields is = .ok (d, .closed)
        ∧ form.finish d = .ok a := by
  rw [decode]
  cases read : form.readItems 0 form.empty form.fields is with
  | error r => simp
  | ok p =>
    obtain ⟨d, rest⟩ := p
    cases finished : form.finish d with
    | error r => simp [finished]
    | ok b => cases rest <;> simp [finished, Items.close, Except.map, ofFault]

/-- **The first item** is taken as the first field. -/
theorem readItems_cons_eq_ok_iff {position : Nat} {field : String} {fields : List String}
    {items rest' : Items} : form.readItems position d (field :: fields) items = .ok (d', rest')
      ↔ ∃ v rest d₁, items = .item v rest ∧ form.put field v d = .ok d₁
        ∧ form.readItems (position + 1) d₁ fields rest = .ok (d', rest') := by
  cases items with
  | closed | stop => simp [readItems]
  | item v rest =>
    rw [readItems]
    constructor
    · intro read
      -- An item that is refused ends the reading with an error under its position.
      cases taken : form.put field v d with
      | error r =>
        rw [taken] at read
        cases read
      | ok d₁ =>
        rw [taken] at read
        exact ⟨v, rest, d₁, rfl, taken, read⟩
    · rintro ⟨_, _, d₁, same, taken, read⟩
      cases same
      rw [taken]
      exact read

end RecordForm

/-! ## Members that were set aside -/

/-- The members that are no fields. -/
def othersOf (fields : List String) (ms : List (Option String × Tree)) :
    List (Option String × Tree) :=
  ms.filter fun m => m.1.all (· ∉ fields)

/-- A field is none of the others. -/
theorem othersOf_cons_field {fields : List String} (known : name ∈ fields) :
    othersOf fields ((some name, t) :: ms) = othersOf fields ms := by
  simp [othersOf, known]

/-- Any other member is one of the others. -/
theorem othersOf_cons_other {fields : List String} (unknown : name ∉ fields) :
    othersOf fields ((some name, t) :: ms) = (some name, t) :: othersOf fields ms := by
  simp [othersOf, unknown]

/-- What stands under other names still stands there. -/
theorem valuesOf_othersOf {fields : List String} (unknown : name ∉ fields)
    (ms : List (Option String × Tree)) :
    valuesOf (othersOf fields ms) name = valuesOf ms name := by
  have same : ∀ m : Option String × Tree, (if m.1.all (· ∉ fields) then
      (if m.1 = some name then some m.2 else none) else none)
        = if m.1 = some name then some m.2 else none := by
    intro m
    by_cases named : m.1 = some name <;> simp [named, unknown]
  rw [valuesOf, othersOf, List.filterMap_filter]
  exact congrArg (List.filterMap · ms) (funext same)

/-- Members that were set aside, as members. -/
def Members.ofList : List (String × Reading) → Members
  | [] => .closed
  | (name, v) :: rest => .member (.whole name) v (ofList rest)

/-- Members that were set aside are read like any others if all of them say something. -/
theorem RecordForm.readAside_eq_ok_iff {δ α : Type} {form : RecordForm δ α}
    (passes : ∀ name v d, form.other name v d = ofFault (v.skip.map fun () => d))
    {seen : List String} {d d' : δ} {aside : List (String × Reading)}
    {ts : List (Option String × Tree)} (trees : (Members.ofList aside).trees? = some ts) :
    form.readAside seen d aside = .ok d'
      ↔ form.readMembers seen d (.ofList aside) = .ok d' := by
  induction aside generalizing seen d ts with
  | nil => rfl
  | cons m rest ih =>
    obtain ⟨name, v⟩ := m
    obtain ⟨t, more, tree, trees', -⟩ := exists_of_trees?_member rfl trees
    -- What was set aside was read without a break, so it can be passed over.
    have skipped : v.skip = .ok () := (skip_eq_ok_iff v).2 (by rw [tree]; rfl)
    rw [Members.ofList, readMembers_member_eq_ok_iff, readAside]
    by_cases known : name ∈ form.fields
    · by_cases twice : name ∈ seen
      · simp [known, twice]
      · cases taken : form.put name v d <;> simp [known, twice, taken, ih trees']
    · simp [known, passes, skipped, Except.map, ofFault, ih trees']

/-! ## What is required and what is optional -/

section

variable {β : Type} {means : Tree → β → Prop} {ts : List Tree} {b b' : β}

/-- A part of a draft that is there or not is there if something stands under its name. -/
def Filled {β : Type} (means : Tree → β → Prop) (t : Tree) (part : Option β) : Prop :=
  ∃ b, part = some b ∧ means t b

/-- **A part of a draft that is there in the end** is what its field is required to mean. -/
theorem RecordForm.Holds.eq_some_iff {δ α : Type} {form : RecordForm δ α} {seen : List String}
    {d d' : δ} {field : String} {get : δ → Option β}
    (holds : form.Holds field (Filled means) get)
    (unique : ∀ t b b', means t b → means t b' → b = b') {ms : Members}
    {trees : List (Option String × Tree)} (blank : get d = none)
    (read : form.readMembers seen d ms = .ok d') (said : ms.trees? = some trees) :
    get d' = some b ↔ Required means (valuesOf trees field) b := by
  have optional := holds.optional_of_readMembers read said
  rw [blank] at optional
  constructor
  · intro part
    rw [part] at optional
    generalize valuesOf trees field = us at optional
    obtain _ | ⟨c, same, meant⟩ := optional
    cases same
    exact ⟨_, rfl, meant⟩
  -- What the draft has means the tree as well, and the tree has one meaning.
  · rintro ⟨t, one, meant⟩
    rw [one] at optional
    generalize get d' = part at optional
    obtain _ | ⟨c, rfl, meant'⟩ := optional
    rw [unique t c b meant' meant]

/-- What is required is there and fits. -/
theorem Required.fits (required : Required means ts b) :
    ts = [] ∨ ∃ t, ts = [t] ∧ ∃ b, means t b := by
  obtain ⟨t, one, meant⟩ := required
  exact .inr ⟨t, one, b, meant⟩

/-- What is optional fits if it is there. -/
theorem Optional.fits {absent : β} (optional : Optional means absent ts b) :
    ts = [] ∨ ∃ t, ts = [t] ∧ ∃ b, means t b := by
  cases optional with
  | absent => exact .inl rfl
  | present meant => exact .inr ⟨_, rfl, b, meant⟩

/-- A required field means one thing only. -/
theorem Required.unique (unique : ∀ t b b', means t b → means t b' → b = b')
    (required : Required means ts b) (required' : Required means ts b') : b = b' := by
  obtain ⟨t, rfl, meant⟩ := required
  obtain ⟨u, same, meant'⟩ := required'
  cases same
  exact unique t b b' meant meant'

/-- An optional field means one thing only, be it that it is absent. -/
theorem Optional.unique (unique : ∀ t b b', means t b → means t b' → b = b') {absent : β}
    (optional : Optional means absent ts b) (optional' : Optional means absent ts b') : b = b' := by
  cases optional with
  | absent =>
    cases optional'
    rfl
  | present meant =>
    obtain _ | ⟨meant'⟩ := optional'
    exact unique _ b b' meant meant'

end

end KeyedLocks.Json
