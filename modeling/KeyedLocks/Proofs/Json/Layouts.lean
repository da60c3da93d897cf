/-
Both layouts of a record.

A record may be written as an object with its fields by name, or as an array of its fields in order.
The items of an array are taken as the fields one after the other, and this is what would become of
them as members under the names of the fields (`readItems_eq_ok_iff`). So which arrays are accepted
need not be asked for each record anew: it follows from which objects are (`decode_eq_ok_iff`).

Which objects are accepted follows in turn from what a form asks of members and from what becomes of
a draft in the end (`decodeMembers_iff_means`). Most forms pass over members of other names, and
then what a field sets is all there is to know about a part of a draft (`Puts.holds`).
-/
import KeyedLocks.Proofs.Json.Records

set_option autoImplicit false

namespace KeyedLocks.Json

/-- Items of an array that does not break off. -/
def Items.ofList : List Reading → Items
  | [] => .closed
  | v :: rest => .item v (ofList rest)

/-- Each item says one tree. -/
theorem length_trees?_ofList {vs : List Reading} {ts : List Tree}
    (trees : (Items.ofList vs).trees? = some ts) : ts.length = vs.length := by
  induction vs generalizing ts with
  | nil =>
    cases trees
    rfl
  | cons v vs ih =>
    rw [Items.ofList, Items.trees?] at trees
    obtain ⟨t, -, behind⟩ := Option.bind_eq_some_iff.1 trees
    obtain ⟨more, said, rfl⟩ := Option.map_eq_some_iff.1 behind
    rw [List.length_cons, List.length_cons, ih said]

/-- Items that say something do not break off. -/
theorem exists_ofList {is : Items} {ts : List Tree} (trees : is.trees? = some ts) :
    ∃ vs, is = .ofList vs := by
  induction ts generalizing is with
  | nil => exact ⟨[], trees?_eq_nil.1 trees⟩
  | cons t ts ih =>
    obtain ⟨v, rest, rfl, -, more⟩ := trees?_eq_cons.1 trees
    obtain ⟨vs, rfl⟩ := ih more
    exact ⟨v :: vs, rfl⟩

/-- **Items under names** say as members what they say as items. -/
theorem trees?_zip {names : List String} {vs : List Reading} (length : vs.length = names.length) :
    (Members.ofList (names.zip vs)).trees?
      = (Items.ofList vs).trees?.map ((names.map some).zip ·) := by
  induction names generalizing vs with
  | nil =>
    cases List.eq_nil_of_length_eq_zero length
    rfl
  | cons name names ih =>
    cases vs with
    | nil => cases length
    | cons v vs =>
      rw [List.zip_cons_cons, Members.ofList, Members.trees?, ih (Nat.succ.inj length),
        Items.ofList, Items.trees?]
      -- The name is a string in any case, so whether a member says something is up to its value
      -- alone.
      cases v.tree? with
      | none => rfl
      | some t => cases (Items.ofList vs).trees? <;> rfl

namespace RecordForm

variable {δ α : Type} {form : RecordForm δ α}

/-- **Items are taken like members** under the names of the fields. -/
theorem readItems_eq_ok_iff {seen fields : List String} {position : Nat} {d d' : δ} {items : Items}
    (known : ∀ name ∈ fields, name ∈ form.fields) (distinct : fields.Nodup)
    (fresh : ∀ name ∈ fields, name ∉ seen) :
    form.readItems position d fields items = .ok (d', .closed)
      ↔ ∃ vs, items = .ofList vs ∧ vs.length = fields.length
        ∧ form.readMembers seen d (.ofList (fields.zip vs)) = .ok d' := by
  induction fields generalizing seen position d items with
  | nil =>
    rw [readItems, Except.ok.injEq, Prod.mk.injEq]
    constructor
    · rintro ⟨rfl, rfl⟩
      exact ⟨[], rfl, rfl, rfl⟩
    · rintro ⟨vs, rfl, length, read⟩
      cases List.eq_nil_of_length_eq_zero length
      cases read
      exact ⟨rfl, rfl⟩
  | cons field fields ih =>
    obtain ⟨other, distinct⟩ := List.nodup_cons.1 distinct
    have first := known field List.mem_cons_self
    -- The name of this item is seen from now on, and none of the others is the same.
    have more : ∀ {position : Nat} {d : δ} {items : Items},
        form.readItems position d fields items = .ok (d', .closed)
          ↔ ∃ vs, items = .ofList vs ∧ vs.length = fields.length
            ∧ form.readMembers (field :: seen) d (.ofList (fields.zip vs)) = .ok d' :=
      ih (fun name hn => known name (.tail _ hn)) distinct fun name hn twice =>
        (List.mem_cons.1 twice).elim (fun same => other (same ▸ hn)) (fresh name (.tail _ hn))
    rw [readItems_cons_eq_ok_iff]
    constructor
    · rintro ⟨v, rest, d₁, rfl, taken, read⟩
      obtain ⟨vs, rfl, length, read⟩ := more.1 read
      refine ⟨v :: vs, rfl, congrArg (· + 1) length, ?_⟩
      exact readMembers_member_eq_ok_iff.2
        ⟨field, rfl, .inl ⟨first, fresh field List.mem_cons_self, d₁, taken, read⟩⟩
    · rintro ⟨vs, rfl, length, read⟩
      cases vs with
      | nil => cases length
      | cons v vs =>
        obtain ⟨_, same, ⟨-, -, d₁, taken, read⟩ | ⟨unknown, -⟩⟩ :=
          readMembers_member_eq_ok_iff.1 read
        · cases same
          exact ⟨v, .ofList vs, d₁, rfl, taken, more.2 ⟨vs, rfl, Nat.succ.inj length, read⟩⟩
        · cases same
          exact absurd first unknown

section

variable {means : List (Option String × Tree) → α → Prop}

/-- **A record** is accepted as the one that it says, be it an object or an array, if that goes for
objects. -/
theorem decode_eq_ok_iff (distinct : form.fields.Nodup)
    (members : ∀ ms a, form.decodeMembers ms = .ok a ↔ ∃ ts, ms.trees? = some ts ∧ means ts a)
    {v : Reading} {a : α} :
    form.decode v = .ok a ↔ ∃ t, v.tree? = some t ∧ t.IsRecord form.fields means a := by
  have items : ∀ {is : Items} {d : δ},
      form.readItems 0 form.empty form.fields is = .ok (d, .closed)
        ↔ ∃ vs, is = .ofList vs ∧ vs.length = form.fields.length
          ∧ form.readMembers [] form.empty (.ofList (form.fields.zip vs)) = .ok d :=
    readItems_eq_ok_iff (fun _ hn => hn) distinct fun _ _ => List.not_mem_nil
  constructor
  · intro decoded
    cases v with
    | object ms =>
      obtain ⟨ts, trees, meant⟩ := (members ms a).1 decoded
      exact ⟨.object ts, tree?_eq_object.2 ⟨ms, rfl, trees⟩, .object meant⟩
    | array is =>
      -- The items are put under the names of the fields and judged as members.
      obtain ⟨d, read, finished⟩ := decode_array_eq_ok_iff.1 decoded
      obtain ⟨vs, rfl, length, read⟩ := items.1 read
      obtain ⟨_, named, meant⟩ := (members _ a).1 (decodeMembers_eq_ok_iff.2 ⟨d, read, finished⟩)
      rw [trees?_zip length] at named
      obtain ⟨ts, trees, rfl⟩ := Option.map_eq_some_iff.1 named
      exact ⟨.array ts, tree?_eq_array.2 ⟨_, rfl, trees⟩,
        .array ((length_trees?_ofList trees).trans length) meant⟩
    | _ => simp [decode, wrongType_ne_ok] at decoded
  · rintro ⟨t, tree, record⟩
    cases record with
    | object meant =>
      obtain ⟨ms, rfl, trees⟩ := tree?_eq_object.1 tree
      exact (members ms a).2 ⟨_, trees, meant⟩
    | @array ts _ length meant =>
      obtain ⟨is, rfl, trees⟩ := tree?_eq_array.1 tree
      obtain ⟨vs, rfl⟩ := exists_ofList trees
      have same : vs.length = form.fields.length := (length_trees?_ofList trees).symm.trans length
      have named : (Members.ofList (form.fields.zip vs)).trees?
          = some ((form.fields.map some).zip ts) := by
        rw [trees?_zip same, trees]
        rfl
      obtain ⟨d, read, finished⟩ := decodeMembers_eq_ok_iff.1 ((members _ a).2 ⟨_, named, meant⟩)
      exact decode_array_eq_ok_iff.2 ⟨d, items.2 ⟨vs, rfl, same, read⟩, finished⟩

/-- What a field sets is what a draft has there in the end, if no other field touches it and members
of other names are passed over. -/
theorem Puts.holds {ν : Type} {field : String} {means : Tree → ν → Prop} {set : ν → δ → δ}
    {get : δ → Option ν} (puts : form.Puts field means set) (known : field ∈ form.fields)
    (passes : ∀ name v d, form.other name v d = ofFault (v.skip.map fun () => d))
    (got : ∀ n d, get (set n d) = some n)
    (keep : ∀ name ∈ form.fields, name ≠ field → ∀ v d d', form.put name v d = .ok d' →
      get d' = get d) : form.Holds field (Filled means) get where
  known := known
  put := puts.fills fun _ n d meant => ⟨n, got n d, meant⟩
  keep := keep
  aside name _ v d _ passed := congrArg get (eq_of_passed ((passes name v d).symm.trans passed))

/-- **An object** is accepted as the record that its members say, if a form asks for no more than
that and finishes a draft that has what they say. -/
theorem decodeMembers_iff_means {fits : String → Tree → Prop} {passes : Tree → Prop}
    (asks : form.Asks fits passes) (admits : ∀ ts a, means ts a → form.Admits fits passes [] ts)
    (finish : ∀ ms ts d a, form.readMembers [] form.empty ms = .ok d → ms.trees? = some ts →
      form.Admits fits passes [] ts → (form.finish d = .ok a ↔ means ts a)) (ms : Members) (a : α) :
    form.decodeMembers ms = .ok a ↔ ∃ ts, ms.trees? = some ts ∧ means ts a := by
  rw [decodeMembers_eq_ok_iff]
  constructor
  · rintro ⟨d, read, finished⟩
    obtain ⟨ts, trees, admitted⟩ := (asks.exists_readMembers_iff [] _ ms).1 ⟨d, read⟩
    exact ⟨ts, trees, (finish ms ts d a read trees admitted).1 finished⟩
  · rintro ⟨ts, trees, meant⟩
    have admitted := admits ts a meant
    obtain ⟨d, read⟩ := (asks.exists_readMembers_iff [] form.empty ms).2 ⟨ts, trees, admitted⟩
    exact ⟨d, read, (finish ms ts d a read trees admitted).2 meant⟩

end

end RecordForm

end KeyedLocks.Json
