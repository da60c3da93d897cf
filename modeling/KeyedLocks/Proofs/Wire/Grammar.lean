/-
Requests against their grammar.

A request is read in two rounds: its own fields as they come, then its owner among what was set
aside. What is set aside are the members of other names in the order of the text (`exists_aside`),
so what the second round finds under a name is what stands under it in the whole object, and the two
rounds accept what one would (`finish_eq_ok_iff`). A text is then accepted as a request if and only
if it spells an object that says that request.

Other members are read in full, so they may not be too deep. Inside a duration they are passed over,
so there they may.
-/
import KeyedLocks.Proofs.Json.Parsing
import KeyedLocks.Proofs.Wire.Parts

set_option autoImplicit false

namespace KeyedLocks.Wire

open KeyedLocks.Json

/-! ## Requests -/

/-- A field accepts what is spelled for it and puts it into its place in the draft. So it is with
the four that follow. -/
theorem puts_key : requestForm.Puts "key" Tree.IsString fun s d => { d with key := some s } := by
  intro v d d'
  change (decodeString v).map _ = _ ↔ _
  simp [map_eq_ok_iff, decodeString_eq_ok_iff, Tree.IsString]

theorem puts_identity : requestForm.Puts "identity" (fun t (n : Int32) => t.IsInteger n.toInt)
    fun n d => { d with identity := some n } := by
  intro v d d'
  change (decodeInteger .int32 v).map _ = _ ↔ _
  exact map_decodeInteger_int32 (f := fun n => { d with identity := some n })

theorem puts_kind : requestForm.Puts "kind" (fun t (k : LockKind) => t.IsChoice k.name)
    fun k d => { d with kind := some k } := by
  intro v d d'
  change (decodeKind v).map _ = _ ↔ _
  simp only [map_eq_ok_iff, decodeKind_eq_ok_iff]

theorem puts_duration : requestForm.Puts "duration" SaysLease
    fun l d => { d with duration := l } := by
  intro v d d'
  change (decodeOption decodeDuration v).map _ = _ ↔ _
  simp only [map_eq_ok_iff, decodeOption_decodeDuration_eq_ok_iff]

theorem puts_issuedAt : requestForm.Puts "issued_at" (fun t (n : UInt64) => t.IsInteger n.toNat)
    fun n d => { d with issuedAt := n } := by
  intro v d d'
  change (decodeInteger .word64 v).map _ = _ ↔ _
  exact map_decodeInteger_word64 (f := fun n => { d with issuedAt := n })

theorem requestForm_fields {name : String} (known : name ∈ requestForm.fields) :
    name = "key" ∨ name = "identity" ∨ name = "kind" ∨ name = "duration"
      ∨ name = "issued_at" := by
  simpa [requestForm] using known

/-- What fits under the names of a request's own fields. -/
def requestFits (name : String) (t : Tree) : Prop :=
  match name with
  | "key" => ∃ s, t.IsString s
  | "identity" => ∃ n : Int32, t.IsInteger n.toInt
  | "kind" => ∃ k : LockKind, t.IsChoice k.name
  | "duration" => ∃ l, SaysLease t l
  | _ => ∃ n : UInt64, t.IsInteger n.toNat

/-- What may stand under any other name. -/
def requestPasses (t : Tree) : Prop := t.Proper ∧ t.depth + 1 ≤ depthLimit

/-- What a request asks of its own members, and of all others: these are read in full, one level
below the object. -/
theorem asks_requestForm : requestForm.Asks requestFits requestPasses where
  put name known v d := by
    obtain rfl | rfl | rfl | rfl | rfl := requestForm_fields known
    · exact puts_key.exists_iff v d
    · exact puts_identity.exists_iff v d
    · exact puts_kind.exists_iff v d
    · exact puts_duration.exists_iff v d
    · exact puts_issuedAt.exists_iff v d
  other name _ v d := by
    change (∃ d', ofFault (Except.map _ _) = .ok d') ↔ _
    simp only [ofFault_eq_ok_iff, map_eq_ok_iff]
    constructor
    -- The limit counts the object around the member, so one level less is left for the member.
    · rintro ⟨_, _, checked, -⟩
      obtain ⟨t, tree, proper, flat⟩ := (check_eq_ok_iff v _).1 checked
      exact ⟨t, tree, proper, Nat.add_le_of_le_sub (by decide) flat⟩
    · rintro ⟨t, tree, proper, flat⟩
      exact ⟨_, (), (check_eq_ok_iff v _).2 ⟨t, tree, proper, Nat.le_sub_of_add_le flat⟩, rfl⟩

/-- **A field of a request** sets a part of its own. -/
theorem requestForm_put {name : String} (known : name ∈ requestForm.fields) {v : Reading}
    {d d' : RequestDraft} (taken : requestForm.put name v d = .ok d') :
    (name = "key" ∧ ∃ s, { d with key := some s } = d')
      ∨ (name = "identity" ∧ ∃ n, { d with identity := some n } = d')
      ∨ (name = "kind" ∧ ∃ k, { d with kind := some k } = d')
      ∨ (name = "duration" ∧ ∃ l, { d with duration := l } = d')
      ∨ (name = "issued_at" ∧ ∃ n, { d with issuedAt := n } = d') := by
  obtain rfl | rfl | rfl | rfl | rfl := requestForm_fields known
  · obtain ⟨s, -, rfl⟩ := (puts_key v d d').1 taken
    exact .inl ⟨rfl, s, rfl⟩
  · obtain ⟨n, -, rfl⟩ := (puts_identity v d d').1 taken
    exact .inr (.inl ⟨rfl, n, rfl⟩)
  · obtain ⟨k, -, rfl⟩ := (puts_kind v d d').1 taken
    exact .inr (.inr (.inl ⟨rfl, k, rfl⟩))
  · obtain ⟨l, -, rfl⟩ := (puts_duration v d d').1 taken
    exact .inr (.inr (.inr (.inl ⟨rfl, l, rfl⟩)))
  · obtain ⟨n, -, rfl⟩ := (puts_issuedAt v d d').1 taken
    exact .inr (.inr (.inr (.inr ⟨rfl, n, rfl⟩)))

/-- A member of another name is set aside. -/
theorem requestForm_other {name : String} {v : Reading} {d d' : RequestDraft}
    (passed : requestForm.other name v d = .ok d') :
    { d with aside := (name, v) :: d.aside } = d' := by
  obtain ⟨_, -, same⟩ := map_eq_ok_iff.1 (ofFault_eq_ok_iff.1 passed)
  exact same

/-- In the end the draft has in the place of a field what was spelled for it. So it is with the four
that follow. -/
theorem holds_key : requestForm.Holds "key" (Filled Tree.IsString) RequestDraft.key where
  known := by decide
  put := puts_key.fills fun _ s _ string => ⟨s, rfl, string⟩
  keep name known other v d d' taken := by
    obtain ⟨rfl, _, rfl⟩ | ⟨rfl, _, rfl⟩ | ⟨rfl, _, rfl⟩ | ⟨rfl, _, rfl⟩ | ⟨rfl, _, rfl⟩ :=
      requestForm_put known taken <;> first | rfl | exact absurd rfl other
  aside name _ v d d' passed := by rw [← requestForm_other passed]

theorem holds_identity :
    requestForm.Holds "identity" (Filled fun t (n : Int32) => t.IsInteger n.toInt)
      RequestDraft.identity where
  known := by decide
  put := puts_identity.fills fun _ n _ integer => ⟨n, rfl, integer⟩
  keep name known other v d d' taken := by
    obtain ⟨rfl, _, rfl⟩ | ⟨rfl, _, rfl⟩ | ⟨rfl, _, rfl⟩ | ⟨rfl, _, rfl⟩ | ⟨rfl, _, rfl⟩ :=
      requestForm_put known taken <;> first | rfl | exact absurd rfl other
  aside name _ v d d' passed := by rw [← requestForm_other passed]

theorem holds_kind :
    requestForm.Holds "kind" (Filled fun t (k : LockKind) => t.IsChoice k.name)
      RequestDraft.kind where
  known := by decide
  put := puts_kind.fills fun _ k _ choice => ⟨k, rfl, choice⟩
  keep name known other v d d' taken := by
    obtain ⟨rfl, _, rfl⟩ | ⟨rfl, _, rfl⟩ | ⟨rfl, _, rfl⟩ | ⟨rfl, _, rfl⟩ | ⟨rfl, _, rfl⟩ :=
      requestForm_put known taken <;> first | rfl | exact absurd rfl other
  aside name _ v d d' passed := by rw [← requestForm_other passed]

theorem holds_duration : requestForm.Holds "duration" SaysLease RequestDraft.duration where
  known := by decide
  put := puts_duration.fills fun _ _ _ meant => meant
  keep name known other v d d' taken := by
    obtain ⟨rfl, _, rfl⟩ | ⟨rfl, _, rfl⟩ | ⟨rfl, _, rfl⟩ | ⟨rfl, _, rfl⟩ | ⟨rfl, _, rfl⟩ :=
      requestForm_put known taken <;> first | rfl | exact absurd rfl other
  aside name _ v d d' passed := by rw [← requestForm_other passed]

theorem holds_issuedAt :
    requestForm.Holds "issued_at" (fun t (n : UInt64) => t.IsInteger n.toNat)
      RequestDraft.issuedAt where
  known := by decide
  put := puts_issuedAt.fills fun _ _ _ integer => integer
  keep name known other v d d' taken := by
    obtain ⟨rfl, _, rfl⟩ | ⟨rfl, _, rfl⟩ | ⟨rfl, _, rfl⟩ | ⟨rfl, _, rfl⟩ | ⟨rfl, _, rfl⟩ :=
      requestForm_put known taken <;> first | rfl | exact absurd rfl other
  aside name _ v d d' passed := by rw [← requestForm_other passed]

/-- **What is set aside** is what stands under other names, in the order of the text. -/
theorem exists_aside {seen : List String} {d d' : RequestDraft} {ms : Members}
    {ts : List (Option String × Tree)} (read : requestForm.readMembers seen d ms = .ok d')
    (trees : ms.trees? = some ts) :
    ∃ more, d'.aside = more.reverse ++ d.aside
      ∧ (Members.ofList more).trees? = some (othersOf requestForm.fields ts) := by
  fun_induction requestForm.readMembers seen d ms generalizing ts with
  | case1 =>
    cases read
    cases trees
    exact ⟨[], rfl, rfl⟩
  | case6 seen d key v rest name key' known fresh d₁ taken ih =>
    obtain ⟨t, ts, -, trees', rfl⟩ := RecordForm.exists_of_trees?_member key' trees
    obtain ⟨more, aside, others⟩ := ih read trees'
    -- No field touches what was set aside.
    have same : d₁.aside = d.aside := by
      obtain ⟨rfl, _, rfl⟩ | ⟨rfl, _, rfl⟩ | ⟨rfl, _, rfl⟩ | ⟨rfl, _, rfl⟩ | ⟨rfl, _, rfl⟩ :=
        requestForm_put known (RecordForm.put_of_take taken) <;> rfl
    exact ⟨more, by rw [aside, same], by rw [othersOf_cons_field known, others]⟩
  | case8 seen d key v rest name key' unknown d₁ passed ih =>
    obtain ⟨t, ts, tree, trees', rfl⟩ := RecordForm.exists_of_trees?_member key' trees
    obtain ⟨more, aside, others⟩ := ih read trees'
    rw [← requestForm_other passed] at aside
    refine ⟨(name, v) :: more, by simp [aside], ?_⟩
    simp [Members.ofList, Members.trees?, Literal.text?, tree, others, othersOf_cons_other unknown]
  | _ => cases read

/-- A draft becomes a request if what is required is there and if an owner is found among what was
set aside. -/
theorem requestForm_finish {d : RequestDraft} {r : Request} :
    requestForm.finish d = .ok r
      ↔ d.key = some r.key ∧ d.identity = some r.identity
        ∧ decodeOwnerAside d.aside.reverse = .ok r.owner ∧ d.kind = some r.kind
        ∧ d.duration = r.duration ∧ d.issuedAt = r.issuedAt := by
  obtain ⟨key, identity, kind, duration, issuedAt, aside⟩ := d
  obtain ⟨k, i, o, kd, l, t⟩ := r
  cases key <;> cases identity <;> cases kind <;> cases owner : decodeOwnerAside aside.reverse <;>
    simp [requestForm, wanted, Bind.bind, Except.bind, Pure.pure, Except.pure, owner]

/-- Names that mean nothing in a request are no fields of it. -/
theorem mem_requestNames {name : String} (known : name ∈ requestForm.fields) :
    name ∈ requestNames := by
  obtain rfl | rfl | rfl | rfl | rfl := requestForm_fields known <;> decide

/-- The others are the names of its owner. -/
theorem eq_of_requestNames {name : String} (known : name ∈ requestNames)
    (unknown : name ∉ requestForm.fields) : name = "application" ∨ name = "thread" := by
  simp only [requestNames, List.mem_cons, List.not_mem_nil, or_false] at known
  obtain rfl | rfl | rfl | rfl | rfl | rfl | rfl := known <;>
    first | exact .inl rfl | exact .inr rfl | exact absurd (by decide) unknown

/-- A string may stand anywhere. -/
theorem requestPasses_of_required {ts : List Tree} {s : String} {t : Tree}
    (required : Required Tree.IsString ts s) (ht : t ∈ ts) : requestPasses t := by
  obtain ⟨u, rfl, string⟩ := required
  obtain rfl := List.mem_singleton.1 ht
  cases string
  exact ⟨by simp [Tree.Proper], by simp [Tree.depth, depthLimit]⟩

/-- An object that says a request is admitted. The parts of the owner are others here, and being
strings they are not deep. -/
theorem admits_of_saysRequest {ts : List (Option String × Tree)} {r : Request}
    (meant : SaysRequest ts r) : requestForm.Admits requestFits requestPasses [] ts where
  names := meant.names
  fresh := by simp
  fields name known := by
    obtain rfl | rfl | rfl | rfl | rfl := requestForm_fields known
    · exact meant.key.fits
    · obtain ⟨t, one, integer⟩ := meant.identity
      exact .inr ⟨t, one, _, integer⟩
    · obtain ⟨t, one, choice⟩ := meant.kind
      exact .inr ⟨t, one, _, choice⟩
    · exact meant.lease.fits
    · exact meant.time.fits
  others name t ht unknown := by
    -- A member that is no field of its own may still be part of the owner.
    by_cases known : name ∈ requestNames
    · obtain rfl | rfl := eq_of_requestNames known unknown
      · exact requestPasses_of_required meant.application (mem_valuesOf.2 ht)
      · exact requestPasses_of_required meant.thread (mem_valuesOf.2 ht)
    · exact meant.others name t ht known

/-- **A draft that says a request** is finished as it. -/
theorem finish_eq_ok_iff {ms : Members} {ts : List (Option String × Tree)} {d : RequestDraft}
    {r : Request} (read : requestForm.readMembers [] requestForm.empty ms = .ok d)
    (trees : ms.trees? = some ts)
    (admits : requestForm.Admits requestFits requestPasses [] ts) :
    requestForm.finish d = .ok r ↔ SaysRequest ts r := by
  obtain ⟨more, aside, others⟩ := exists_aside read trees
  have same : d.aside.reverse = more := by
    rw [aside]
    simp [requestForm]
  -- What was set aside are members with names, like all the others.
  have names : ∀ m ∈ othersOf requestForm.fields ts, m.1.isSome = true :=
    fun m hm => admits.names m (List.mem_filter.1 hm).1
  have lease := holds_duration.optional_of_readMembers read trees
  have time := holds_issuedAt.optional_of_readMembers read trees
  rw [requestForm_finish, same, decodeOwnerAside_eq_ok_iff others names,
    valuesOf_othersOf (by decide), valuesOf_othersOf (by decide),
    holds_key.eq_some_iff isString_unique rfl read trees,
    holds_identity.eq_some_iff int32_unique rfl read trees,
    holds_kind.eq_some_iff kind_unique rfl read trees]
  constructor
  · rintro ⟨key, identity, ⟨application, thread⟩, kind, duration, issuedAt⟩
    exact {
      names := admits.names
      others := fun name t ht unknown =>
        admits.others name t ht fun known => unknown (mem_requestNames known)
      key := key
      identity := identity
      application := application
      thread := thread
      kind := kind
      lease := duration ▸ lease
      time := issuedAt ▸ time }
  · intro meant
    exact ⟨meant.key, meant.identity, ⟨meant.application, meant.thread⟩, meant.kind,
      -- For what is optional the two accounts of one member have to agree.
      lease.unique saysLease_unique meant.lease, time.unique word64_unique meant.time⟩

/-- **A request** is accepted as the one that it says. -/
theorem decodeRequest_eq_ok_iff {v : Reading} {r : Request} :
    decodeRequest v = .ok r ↔ ∃ ts, v.tree? = some (.object ts) ∧ SaysRequest ts r := by
  constructor
  · intro decoded
    cases v with
    -- A request is an object, and no array of its fields, as the owner has no place among them.
    | object ms =>
      obtain ⟨d, read, finished⟩ := RecordForm.decodeMembers_eq_ok_iff.1 decoded
      obtain ⟨ts, trees, admits⟩ := (asks_requestForm.exists_readMembers_iff [] _ ms).1 ⟨d, read⟩
      exact ⟨ts, tree?_eq_object.2 ⟨ms, rfl, trees⟩,
        (finish_eq_ok_iff read trees admits).1 finished⟩
    | _ => simp [decodeRequest, wrongType_ne_ok] at decoded
  · rintro ⟨ts, tree, meant⟩
    obtain ⟨ms, rfl, trees⟩ := tree?_eq_object.1 tree
    have admits := admits_of_saysRequest meant
    obtain ⟨d, read⟩ := (asks_requestForm.exists_readMembers_iff [] requestForm.empty ms).2
      ⟨ts, trees, admits⟩
    exact RecordForm.decodeMembers_eq_ok_iff.2
      ⟨d, read, (finish_eq_ok_iff read trees admits).2 meant⟩

/-- **A text is accepted as a request** if and only if it spells an object that says that
request. -/
theorem decodeText_decodeRequest_iff (cs : List Char) (r : Request) :
    decodeText decodeRequest cs = .ok r
      ↔ ∃ ms, SpellsText cs (.object ms) ∧ SaysRequest ms r := by
  rw [decodeText_eq_ok_iff, decodeRequest_eq_ok_iff]
  constructor
  · rintro ⟨behind, ms, tree, meant⟩
    exact ⟨ms, (tree?_readText_iff cs _).1 ⟨behind, tree⟩, meant⟩
  · rintro ⟨ms, spelled, meant⟩
    obtain ⟨behind, tree⟩ := (tree?_readText_iff cs _).2 spelled
    exact ⟨behind, ms, tree, meant⟩

/-! ## What makes no difference -/

/-- To be alike has no direction. -/
theorem AlikeDuration.symm {t t' : Tree} (alike : AlikeDuration t t') : AlikeDuration t' t := by
  cases alike with
  | same => exact .same t
  | object names names' magnitude unit => exact .object names' names magnitude.symm unit.symm

theorem Alike.symm {ms ms' : List (Option String × Tree)} (alike : Alike ms ms') :
    Alike ms' ms where
  passable := alike.passable'
  passable' := alike.passable
  values name known other := (alike.values name known other).symm
  durations := alike.durations.flip.imp fun _ _ => AlikeDuration.symm

/-- Durations that are alike say the same. -/
theorem saysDuration_of_alike {t t' : Tree} {d : LockDuration} (alike : AlikeDuration t t')
    (meant : SaysDuration t d) : SaysDuration t' d := by
  cases alike with
  | same => exact meant
  | object names names' magnitudes units =>
    obtain ⟨-, magnitude, unit⟩ := meant
    exact .object names' (magnitudes ▸ magnitude) (units ▸ unit)

/-- Leases that are alike say the same. -/
theorem saysLease_of_alike {t t' : Tree} {l : Option LockDuration} (alike : AlikeDuration t t')
    (meant : SaysLease t l) : SaysLease t' l := by
  cases meant with
  | null =>
    cases alike
    exact .null
  | duration meant => exact .duration (saysDuration_of_alike alike meant)

/-- Leases that are alike say the same, whether they are there or not. -/
theorem optional_of_alike {ts ts' : List Tree} {l : Option LockDuration}
    (alike : List.Forall₂ AlikeDuration ts ts') (lease : Optional SaysLease none ts l) :
    Optional SaysLease none ts' l := by
  cases lease with
  | absent =>
    cases alike
    exact .absent
  | present meant =>
    obtain _ | ⟨first, rest⟩ := alike
    cases rest
    exact .present (saysLease_of_alike first meant)

/-- **Members that are alike** say the same request. -/
theorem saysRequest_of_alike {ms ms' : List (Option String × Tree)} {r : Request}
    (alike : Alike ms ms') (meant : SaysRequest ms r) : SaysRequest ms' r where
  toPassable := alike.passable'
  key := alike.values "key" (by decide) (by decide) ▸ meant.key
  identity := alike.values "identity" (by decide) (by decide) ▸ meant.identity
  application := alike.values "application" (by decide) (by decide) ▸ meant.application
  thread := alike.values "thread" (by decide) (by decide) ▸ meant.thread
  kind := alike.values "kind" (by decide) (by decide) ▸ meant.kind
  lease := optional_of_alike alike.durations meant.lease
  time := alike.values "issued_at" (by decide) (by decide) ▸ meant.time

/-- **The grammar of requests.** A text is accepted as a request if and only if, but for blanks
around it, it spells an object whose members say that request. So texts that spell objects which are
alike are accepted alike: neither the order of members, nor blanks, nor the spelling of escapes, nor
members of other names make a difference. -/
theorem requests_are_what_they_spell :
    (∀ cs r, decodeText decodeRequest cs = .ok r
      ↔ ∃ ms, SpellsText cs (.object ms) ∧ SaysRequest ms r)
    ∧ ∀ cs cs' ms ms', SpellsText cs (.object ms) → SpellsText cs' (.object ms') → Alike ms ms' →
      ∀ r, decodeText decodeRequest cs = .ok r ↔ decodeText decodeRequest cs' = .ok r := by
  refine ⟨decodeText_decodeRequest_iff, fun cs cs' ms ms' spelled spelled' alike r => ?_⟩
  rw [decodeText_decodeRequest_iff, decodeText_decodeRequest_iff]
  constructor
  · rintro ⟨ns, said, meant⟩
    cases said.unique spelled
    exact ⟨ms', spelled', saysRequest_of_alike alike meant⟩
  · rintro ⟨ns, said, meant⟩
    cases said.unique spelled'
    exact ⟨ms, spelled, saysRequest_of_alike alike.symm meant⟩

/-- A request, and what its text spells. -/
def plainRequest : Request := ⟨"k", 1, ⟨"a", "t"⟩, .simple, none, 0⟩

def plainText : List Char :=
  ("\x7b\"key\":\"k\",\"identity\":1,\"application\":\"a\",\"thread\":\"t\","
    ++ "\"kind\":\"simple\"\x7d").toList

def plainMembers : List (Option String × Tree) :=
  [(some "key", .string (some "k")), (some "identity", .number ⟨false, ['1'], [], none⟩),
    (some "application", .string (some "a")), (some "thread", .string (some "t")),
    (some "kind", .string (some "simple"))]

/-- The same from the last member to the first, with blanks, with escapes and with a member that
means nothing there. -/
def strewnText : List Char :=
  (" \x7b \"kind\" : \"simple\", \"note\" : [ true, \x7b\x7d ], \"thread\":\"t\",\n"
    ++ "\"application\":\"\\u0061\", \"identity\":1, \"k\\u0065y\":\"k\" \x7d\n").toList

def strewnMembers : List (Option String × Tree) :=
  [(some "kind", .string (some "simple")), (some "note", .array [.bool true, .object []]),
    (some "thread", .string (some "t")), (some "application", .string (some "a")),
    (some "identity", .number ⟨false, ['1'], [], none⟩), (some "key", .string (some "k"))]

/-- The two differ in order, in blanks, in escapes and in a member that means nothing. -/
theorem alike_strewnMembers : Alike plainMembers strewnMembers where
  passable := by
    refine ⟨by simp [plainMembers], fun name t ht unknown => ?_⟩
    simp only [plainMembers, List.mem_cons, Prod.mk.injEq, Option.some.injEq, List.not_mem_nil,
      or_false] at ht
    obtain ⟨rfl, -⟩ | ⟨rfl, -⟩ | ⟨rfl, -⟩ | ⟨rfl, -⟩ | ⟨rfl, -⟩ := ht <;>
      exact absurd (by decide) unknown
  passable' := by
    refine ⟨by simp [strewnMembers], fun name t ht unknown => ?_⟩
    simp only [strewnMembers, List.mem_cons, Prod.mk.injEq, Option.some.injEq, List.not_mem_nil,
      or_false] at ht
    obtain ⟨rfl, -⟩ | ⟨-, rfl⟩ | ⟨rfl, -⟩ | ⟨rfl, -⟩ | ⟨rfl, -⟩ | ⟨rfl, -⟩ := ht
    case inr.inl => exact ⟨by simp [Tree.Proper, ProperItems, ProperMembers], by decide⟩
    all_goals exact absurd (by decide) unknown
  values := by simp [plainMembers, strewnMembers, requestNames, valuesOf]
  durations := .nil

/-- So the strewn text is read as the request that the plain one says. -/
theorem strewn_request_is_read :
    SpellsText plainText (.object plainMembers) ∧ SpellsText strewnText (.object strewnMembers)
      ∧ Alike plainMembers strewnMembers
      ∧ decodeText decodeRequest strewnText = .ok plainRequest := by
  have spelled : SpellsText plainText (.object plainMembers) := by decide +kernel
  have spelled' : SpellsText strewnText (.object strewnMembers) := by decide +kernel
  exact ⟨spelled, spelled', alike_strewnMembers,
    (requests_are_what_they_spell.2 _ _ _ _ spelled spelled' alike_strewnMembers _).1
      (by decide +kernel)⟩

/-- A request whose duration holds arrays inside one another, under a name that means nothing
there. -/
def deepText (depth : Nat) : List Char :=
  ("\x7b\"key\":\"k\",\"identity\":1,\"application\":\"a\",\"thread\":\"t\","
      ++ "\"kind\":\"simple\",\"duration\":\x7b\"magnitude\":1,\"unit\":\"seconds\",\"x\":").toList
    ++ (List.replicate depth '[' ++ (List.replicate depth ']' ++ ['\x7d', '\x7d']))

def deepRequest : Request := ⟨"k", 1, ⟨"a", "t"⟩, .simple, some ⟨1, .seconds⟩, 0⟩

/-- **Inside a duration the depth is not limited.** What stands there under another name is passed
over, to any depth, so a request is accepted that is deeper than what may be read in full. -/
theorem deep_duration_is_accepted :
    decodeText decodeRequest (deepText 126) = .ok deepRequest
      ∧ ∀ t, SpellsText (deepText 126) t → depthLimit < t.depth := by
  refine ⟨by decide +kernel, fun t spelled => ?_⟩
  have deep : (readText (deepText 126)).1.tree?.map Tree.depth = some 128 := by decide +kernel
  rw [((tree?_readText_iff _ _).2 spelled).2] at deep
  rw [Option.some.inj deep]
  decide

end KeyedLocks.Wire
