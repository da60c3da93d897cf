/-
The reader against the grammar.

What a text says is what the grammar says that it spells (`tree?_readText_iff`). One half is that a
reading without a break covers a spelling (`Covers`): what is read of a value, of items or of
members is spelled that way. The other half is that the reader gets to the end of what is spelled
(`Follows`): it has steps enough if it has as many as there are characters, and it stops where the
spelling does, because nothing that may come behind a value can be taken for more of it. Each half
is one induction on the steps, which carries values, items and members together.

So the grammar can be run: whether a text spells a tree is decided by reading it.
-/
import KeyedLocks.Proofs.Json.RoundTrip
import KeyedLocks.Proofs.Json.Spelling

set_option autoImplicit false

namespace KeyedLocks.Json

/-! ## Blanks -/

/-- Blanks behind blanks are blank. -/
theorem blank_append {ws ws' : List Char} (blank : Blank ws) (blank' : Blank ws') :
    Blank (ws ++ ws') := by
  intro c hc
  rcases List.mem_append.1 hc with left | right
  · exact blank c left
  · exact blank' c right

/-- What is skipped is blank. -/
theorem exists_blank (cs : List Char) : ∃ ws, Blank ws ∧ cs = ws ++ skipSpace cs :=
  ⟨cs.takeWhile isSpace, fun _ hc => List.mem_takeWhile_imp hc,
    List.takeWhile_append_dropWhile.symm⟩

/-- Blanks in front make no difference to what is left when they were skipped. -/
theorem skipSpace_append {ws : List Char} (blank : Blank ws) (cs : List Char) :
    skipSpace (ws ++ cs) = skipSpace cs :=
  List.dropWhile_append_of_pos blank

theorem skipSpace_blank {ws : List Char} (blank : Blank ws) : skipSpace ws = [] := by
  have same := skipSpace_append blank []
  rwa [List.append_nil] at same

theorem blank_of_skipSpace {cs : List Char} (empty : skipSpace cs = []) : Blank cs := by
  obtain ⟨ws, blank, same⟩ := exists_blank cs
  rw [empty, List.append_nil] at same
  rwa [same]

/-! ## What is read is spelled -/

/-- Whoever gets behind a word has read it. -/
theorem append_of_afterWord {word cs rest : List Char} (read : afterWord word cs = .ok rest) :
    cs = word ++ rest := by
  induction word generalizing cs with
  | nil =>
    cases read
    rfl
  | cons w ws ih =>
    cases cs with
    | nil => cases read
    | cons c cs =>
      rw [afterWord] at read
      split at read
      · next same => rw [same, ih read, List.cons_append]
      · cases read

/-- What says something after a word is what the word stands for. -/
theorem append_of_readWord {word cs rest : List Char} {v v' : Reading} {t : Tree}
    (read : readWord word v cs = (v', rest)) (tree : v'.tree? = some t) :
    cs = word ++ rest ∧ v' = v := by
  rw [readWord] at read
  split at read
  · next word =>
    cases read
    exact ⟨append_of_afterWord word, rfl⟩
  · cases read
    simp [Reading.tree?] at tree
  · cases read
    simp [Reading.tree?] at tree

/-- With so many steps, what is read of a value is spelled that way, and so is what is read of items
and members. A member is read after its first quotation mark. -/
structure Covers (steps : Nat) : Prop where
  value : ∀ cs v rest t, readValue steps cs = (v, rest) → v.tree? = some t →
    ∃ ws core, cs = ws ++ (core ++ rest) ∧ Blank ws ∧ Spells core t
  items : ∀ cs is rest ts, readItems steps cs = (is, rest) → is.trees? = some ts →
    ∃ ws core, cs = ws ++ (core ++ ']' :: rest) ∧ Blank ws ∧ SpellsItems core ts
  members : ∀ cs ms rest ts, readMembers steps cs = (ms, rest) → ms.trees? = some ts →
    ∃ core, '"' :: cs = core ++ '\x7d' :: rest ∧ SpellsMembers core ts

namespace Covers

variable {steps : Nat} (c : Covers steps)
include c

theorem value_succ (cs : List Char) (v : Reading) (rest : List Char) (t : Tree)
    (read : readValue (steps + 1) cs = (v, rest)) (tree : v.tree? = some t) :
    ∃ ws core, cs = ws ++ (core ++ rest) ∧ Blank ws ∧ Spells core t := by
  -- The blanks in front belong to no spelling, so only what is behind them counts.
  obtain ⟨ws, blank, same⟩ := exists_blank cs
  suffices spelled : ∃ core, skipSpace cs = core ++ rest ∧ Spells core t by
    obtain ⟨core, tail, spelled⟩ := spelled
    exact ⟨ws, core, by rw [← tail, ← same], blank, spelled⟩
  rw [readValue] at read
  split at read
  · cases read
    simp [Reading.tree?] at tree
  · next tail front =>
    obtain ⟨rfl, rfl⟩ := append_of_readWord read tree
    cases tree
    exact ⟨_, front, .null⟩
  · next tail front =>
    obtain ⟨rfl, rfl⟩ := append_of_readWord read tree
    cases tree
    exact ⟨_, front, .yes⟩
  · next tail front =>
    obtain ⟨rfl, rfl⟩ := append_of_readWord read tree
    cases tree
    exact ⟨_, front, .no⟩
  · next tail front =>
    obtain ⟨core, n, rfl, spelled, rfl⟩ := exists_of_readNumeral read tree
    exact ⟨_, front, .negative spelled⟩
  · next tail front =>
    cases literal : readLiteral tail with | mk l tail' =>
    rw [literal] at read
    cases read
    obtain ⟨s, text, rfl⟩ := Option.map_eq_some_iff.1 tree
    obtain ⟨body, rfl, spelled⟩ := exists_of_readLiteral literal text
    exact ⟨_, by rw [front]; simp, .string spelled⟩
  -- A bracket: it is closed at once, or items follow.
  · next tail front =>
    obtain ⟨ws', blank', same'⟩ := exists_blank tail
    split at read
    · cases read
      simp [Reading.tree?, Items.trees?] at tree
    · next front' =>
      cases read
      cases tree
      rw [front'] at same'
      exact ⟨_, by rw [front, same']; simp, .emptyArray blank'⟩
    · cases more : readItems steps (skipSpace tail) with | mk is tail' =>
      rw [more] at read
      cases read
      obtain ⟨ts, trees, rfl⟩ := Option.map_eq_some_iff.1 tree
      obtain ⟨ws'', core, same'', blank'', spelled⟩ := c.items _ _ _ _ more trees
      rw [same''] at same'
      exact ⟨_, by rw [front, same']; simp, .array (blank_append blank' blank'') spelled⟩
  -- A brace, likewise.
  · next tail front =>
    obtain ⟨ws', blank', same'⟩ := exists_blank tail
    split at read
    · cases read
      simp [Reading.tree?, Members.trees?] at tree
    · next front' =>
      cases read
      cases tree
      rw [front'] at same'
      exact ⟨_, by rw [front, same']; simp, .emptyObject blank'⟩
    · next tail' front' =>
      cases more : readMembers steps tail' with | mk ms tail'' =>
      rw [more] at read
      cases read
      obtain ⟨ts, trees, rfl⟩ := Option.map_eq_some_iff.1 tree
      obtain ⟨core, same'', spelled⟩ := c.members _ _ _ _ more trees
      rw [front', same''] at same'
      exact ⟨_, by rw [front, same']; simp, .object blank' spelled⟩
    · cases read
      simp [Reading.tree?, Members.trees?] at tree
  · next d tail _ _ _ _ _ _ _ front =>
    split at read
    · obtain ⟨core, n, same', spelled, rfl⟩ := exists_of_readNumeral read tree
      exact ⟨core, by rw [front, same'], .number spelled⟩
    · cases read
      simp [Reading.tree?] at tree

/-- Items are a value, blanks, and a bracket or a comma and more items. -/
theorem items_succ (cs : List Char) (is : Items) (rest : List Char) (ts : List Tree)
    (read : readItems (steps + 1) cs = (is, rest)) (trees : is.trees? = some ts) :
    ∃ ws core, cs = ws ++ (core ++ ']' :: rest) ∧ Blank ws ∧ SpellsItems core ts := by
  cases first : readValue steps cs with | mk v tail =>
  -- The cases follow what stands behind the first value and its blanks.
  obtain ⟨ws', blank', same'⟩ := exists_blank tail
  rw [readItems, first] at read
  dsimp only at read
  split at read
  · cases read
    simp [Items.trees?] at trees
  · next front =>
    cases read
    obtain ⟨t, tree, rfl⟩ : ∃ t, v.tree? = some t ∧ [t] = ts := by
      simpa [Items.trees?, Option.bind_eq_some_iff] using trees
    obtain ⟨ws, core, rfl, blank, spelled⟩ := c.value _ _ _ _ first tree
    rw [front] at same'
    exact ⟨ws, _, by rw [same']; simp, blank, .one spelled blank'⟩
  · next tail' front =>
    obtain ⟨ws'', blank'', same''⟩ := exists_blank tail'
    split at read
    · cases read
      simp [Items.trees?, Reading.tree?] at trees
    · cases read
      simp [Items.trees?, Reading.tree?] at trees
    · cases more : readItems steps (skipSpace tail') with | mk is' rest' =>
      rw [more] at read
      cases read
      obtain ⟨t, tree, ts', trees', rfl⟩ :
          ∃ t, v.tree? = some t ∧ ∃ ts', is'.trees? = some ts' ∧ t :: ts' = ts := by
        simpa [Items.trees?, Option.bind_eq_some_iff] using trees
      obtain ⟨ws, core, rfl, blank, spelled⟩ := c.value _ _ _ _ first tree
      obtain ⟨ws3, core', same3, blank3, spelled'⟩ := c.items _ _ _ _ more trees'
      rw [same3] at same''
      rw [front, same''] at same'
      exact ⟨ws, _, by rw [same']; simp, blank,
        .more spelled blank' (blank_append blank'' blank3) spelled'⟩
  · cases read
    simp [Items.trees?] at trees

/-- Members are a name, a colon and a value, and a brace or a comma and more members. -/
theorem members_succ (cs : List Char) (ms : Members) (rest : List Char)
    (ts : List (Option String × Tree)) (read : readMembers (steps + 1) cs = (ms, rest))
    (trees : ms.trees? = some ts) :
    ∃ core, '"' :: cs = core ++ '\x7d' :: rest ∧ SpellsMembers core ts := by
  cases name : readLiteral cs with | mk key tail =>
  obtain ⟨ws, blank, same⟩ := exists_blank tail
  rw [readMembers, name] at read
  dsimp only at read
  split at read
  · cases read
    simp [Members.trees?, Reading.tree?] at trees
  · next behind colon =>
    cases value : readValue steps behind with | mk v tail' =>
    obtain ⟨ws', blank', same'⟩ := exists_blank tail'
    rw [value] at read
    dsimp only at read
    -- Whatever comes behind it, the first member is spelled right.
    have member : ∀ s t, key.text? = some s → v.tree? = some t →
        ∃ core, '"' :: cs = core ++ tail' ∧ SpellsMember core (s, t) := by
      intro s t text tree
      obtain ⟨body, rfl, literal⟩ := exists_of_readLiteral name text
      obtain ⟨ws'', core, rfl, blank'', spelled⟩ := c.value _ _ _ _ value tree
      rw [colon] at same
      exact ⟨_, by rw [same]; simp, .mk literal blank blank'' spelled⟩
    split at read
    · cases read
      simp [Members.trees?] at trees
    · next front =>
      cases read
      obtain ⟨s, text, t, tree, rfl⟩ :
          ∃ s, key.text? = some s ∧ ∃ t, v.tree? = some t ∧ [(s, t)] = ts := by
        simpa [Members.trees?, Option.bind_eq_some_iff] using trees
      obtain ⟨core, whole, spelled⟩ := member s t text tree
      rw [front] at same'
      exact ⟨_, by rw [whole, same']; simp, .one spelled blank'⟩
    · next behind' front =>
      obtain ⟨ws'', blank'', same''⟩ := exists_blank behind'
      split at read
      · cases read
        simp [Members.trees?, brokenMember, Literal.text?] at trees
      · next tail'' mark =>
        cases more : readMembers steps tail'' with | mk ms' rest' =>
        rw [more] at read
        cases read
        obtain ⟨s, text, t, tree, ts', trees', rfl⟩ :
            ∃ s, key.text? = some s ∧ ∃ t, v.tree? = some t ∧ ∃ ts', ms'.trees? = some ts'
              ∧ (s, t) :: ts' = ts := by
          simpa [Members.trees?, Option.bind_eq_some_iff] using trees
        obtain ⟨core, whole, spelled⟩ := member s t text tree
        obtain ⟨core', same3, spelled'⟩ := c.members _ _ _ _ more trees'
        rw [mark, same3] at same''
        rw [front, same''] at same'
        exact ⟨_, by rw [whole, same']; simp, .more spelled blank' blank'' spelled'⟩
      · cases read
        simp [Members.trees?, brokenMember, Literal.text?] at trees
    · cases read
      simp [Members.trees?] at trees
  · cases read
    simp [Members.trees?, Reading.tree?] at trees

end Covers

/-- **What is read is spelled that way.** -/
theorem covers (steps : Nat) : Covers steps := by
  induction steps with
  | zero =>
    refine ⟨fun cs v rest t read tree => ?_, fun cs is rest ts read trees => ?_,
      fun cs ms rest ts read trees => ?_⟩
    · cases read
      cases tree
    · cases read
      cases trees
    · cases read
      cases trees
  | succ steps ih => exact ⟨ih.value_succ, ih.items_succ, ih.members_succ⟩

/-! ## What is spelled is read -/

/-- What stops a number also stops it behind blanks, for a blank is none of the characters that
would go on. -/
theorem stops_append {ws rest : List Char} (blank : Blank ws) (stops : Stops rest) :
    Stops (ws ++ rest) := by
  cases ws with
  | nil => exact stops
  | cons c cs =>
    intro d hd
    cases hd
    have space := blank c List.mem_cons_self
    have other : ∀ d : Char, isSpace d = false → c ≠ d := by
      rintro d not rfl
      rw [space] at not
      cases not
    refine ⟨?_, other _ (by decide), other _ (by decide), other _ (by decide)⟩
    cases digit : isDigit c with
    | false => rfl
    | true => rw [(starts_of_isDigit digit).1] at space; cases space

/-- A numeral without a sign starts with a digit. -/
theorem exists_digit_of_unsigned {negative : Bool} {core : List Char} {n : Numeral}
    (spelled : SpellsUnsigned negative core n) : ∃ c cs, core = c :: cs ∧ isDigit c = true := by
  obtain ⟨all, -, -⟩ := spelled
  next whole fraction exponent fs e =>
  cases whole with
  | nil => exact absurd rfl all.nonempty
  | cons d ds => exact ⟨_, _, rfl, all.digit d List.mem_cons_self⟩

/-- What is spelled starts with a character that is no blank and no closing bracket. -/
theorem exists_start_of_spells {core : List Char} {t : Tree} (spelled : Spells core t) :
    ∃ c cs, core = c :: cs ∧ Starts c := by
  cases spelled with
  | null | yes | no | negative | string | emptyArray | array | emptyObject | object =>
    exact ⟨_, _, rfl, by decide, by decide⟩
  | number plain =>
    obtain ⟨c, cs, rfl, digit⟩ := exists_digit_of_unsigned plain
    exact ⟨_, _, rfl, starts_of_isDigit digit⟩

theorem exists_start_of_items {core : List Char} {ts : List Tree} (spelled : SpellsItems core ts) :
    ∃ c cs, core = c :: cs ∧ Starts c := by
  cases spelled with
  | one item | more item =>
    obtain ⟨c, cs, rfl, starts⟩ := exists_start_of_spells item
    exact ⟨_, _, rfl, starts⟩

/-- Members start with the mark of their first name. -/
theorem exists_mark_of_members {core : List Char} {ms : List (Option String × Tree)}
    (spelled : SpellsMembers core ms) : ∃ cs, core = '"' :: cs := by
  cases spelled with
  | one member | more member =>
    cases member
    exact ⟨_, rfl⟩

/-- Blanks in front of a value take no steps. -/
theorem readValue_append (steps : Nat) {ws : List Char} (blank : Blank ws) (cs : List Char) :
    readValue steps (ws ++ cs) = readValue steps cs := by
  cases steps with
  | zero => rfl
  | succ steps => simp only [readValue, skipSpace_append blank]

/-- With so many steps, the reader gets to the end of what is spelled. The bracket behind items and
members takes a step of its own. -/
structure Follows (steps : Nat) : Prop where
  value : ∀ core t, Spells core t → core.length ≤ steps → ∀ rest, Stops rest →
    ∃ v, readValue steps (core ++ rest) = (v, rest) ∧ v.tree? = some t
  items : ∀ core ts, SpellsItems core ts → core.length < steps → ∀ rest,
    ∃ is, readItems steps (core ++ ']' :: rest) = (is, rest) ∧ is.trees? = some ts
  members : ∀ core ts, SpellsMembers core ts → core.length < steps → ∀ cs rest,
    '"' :: cs = core ++ '\x7d' :: rest →
    ∃ ms, readMembers steps cs = (ms, rest) ∧ ms.trees? = some ts

namespace Follows

variable {steps : Nat} (f : Follows steps)
include f

theorem value_succ (core : List Char) (t : Tree) (spelled : Spells core t)
    (enough : core.length ≤ steps + 1) (rest : List Char) (stops : Stops rest) :
    ∃ v, readValue (steps + 1) (core ++ rest) = (v, rest) ∧ v.tree? = some t := by
  -- The rules of the grammar are taken one by one. Each fixes the first character, and with it the
  -- branch that the reader takes.
  cases spelled with
  | null => exact ⟨.null, by simp [readValue, skipSpace, isSpace, readWord, afterWord], rfl⟩
  | yes => exact ⟨.bool true, by simp [readValue, skipSpace, isSpace, readWord, afterWord], rfl⟩
  | no => exact ⟨.bool false, by simp [readValue, skipSpace, isSpace, readWord, afterWord], rfl⟩
  | number plain =>
    obtain ⟨c, cs, rfl, digit⟩ := exists_digit_of_unsigned plain
    have read := readNumeral_of_spells plain stops
    exact ⟨_, (readValue_of_digit steps _ digit).trans read, rfl⟩
  | negative signed =>
    refine ⟨.number _, ?_, rfl⟩
    rw [List.cons_append, readValue, skipSpace_cons_of_not _ _ rfl]
    exact readNumeral_of_spells signed stops
  | string literal =>
    obtain ⟨l, read, text⟩ := readLiteral_of_spells literal rest
    refine ⟨.string l, ?_, by rw [Reading.tree?, text]; rfl⟩
    rw [List.cons_append, List.append_assoc, readValue, skipSpace_cons_of_not _ _ rfl]
    simp only [List.cons_append, List.nil_append, read]
  | emptyArray blank =>
    refine ⟨.array .closed, ?_, rfl⟩
    rw [List.cons_append, List.append_assoc, readValue, skipSpace_cons_of_not _ _ rfl]
    simp only [skipSpace_append blank, List.cons_append, List.nil_append,
      skipSpace_cons_of_not ']' _ rfl]
  | @array ws cs ts blank items =>
    have short : cs.length < steps := by
      simp only [List.length_cons, List.length_append] at enough
      omega
    obtain ⟨is, read, trees⟩ := f.items cs ts items short rest
    obtain ⟨c, cs, rfl, space, other⟩ := exists_start_of_items items
    refine ⟨.array is, ?_, by rw [Reading.tree?, trees]; rfl⟩
    rw [List.cons_append, List.append_assoc, readValue, skipSpace_cons_of_not _ _ rfl]
    simp only [skipSpace_append blank, List.append_assoc, List.cons_append, List.nil_append,
      skipSpace_cons_of_not c _ space]
    split
    · next same => cases same
    · next same => exact absurd (List.cons.inj same).1 other
    · rw [List.cons_append] at read
      rw [read]
  | emptyObject blank =>
    refine ⟨.object .closed, ?_, rfl⟩
    rw [List.cons_append, List.append_assoc, readValue, skipSpace_cons_of_not _ _ rfl]
    simp only [skipSpace_append blank, List.cons_append, List.nil_append,
      skipSpace_cons_of_not '\x7d' _ rfl]
  | @object ws cs ts blank members =>
    have short : cs.length < steps := by
      simp only [List.length_cons, List.length_append] at enough
      omega
    obtain ⟨cs, rfl⟩ := exists_mark_of_members members
    obtain ⟨ms, read, trees⟩ := f.members _ ts members short (cs ++ '\x7d' :: rest) rest rfl
    refine ⟨.object ms, ?_, by rw [Reading.tree?, trees]; rfl⟩
    rw [List.cons_append, List.append_assoc, readValue, skipSpace_cons_of_not _ _ rfl]
    simp only [skipSpace_append blank, List.append_assoc, List.cons_append, List.nil_append,
      skipSpace_cons_of_not '"' _ rfl, read]

theorem items_succ (core : List Char) (ts : List Tree) (spelled : SpellsItems core ts)
    (enough : core.length < steps + 1) (rest : List Char) :
    ∃ is, readItems (steps + 1) (core ++ ']' :: rest) = (is, rest) ∧ is.trees? = some ts := by
  cases spelled with
  | @one cs ws t item blank =>
    rw [List.length_append] at enough
    have stops : Stops (ws ++ ']' :: rest) := stops_append blank (stops_cons rest (.inr (.inl rfl)))
    obtain ⟨v, read, tree⟩ := f.value cs t item (by omega) _ stops
    refine ⟨.item v .closed, ?_, by simp [Items.trees?, tree]⟩
    rw [List.append_assoc, readItems, read]
    simp only [skipSpace_append blank, skipSpace_cons_of_not ']' _ rfl]
  | @more cs ws ws' more t ts item blank blank' items =>
    simp only [List.length_append, List.length_cons] at enough
    have stops : Stops (ws ++ ',' :: (ws' ++ (more ++ ']' :: rest))) :=
      stops_append blank (stops_cons _ (.inl rfl))
    obtain ⟨v, read, tree⟩ := f.value cs t item (by omega) _ stops
    obtain ⟨is, next, trees⟩ := f.items more ts items (by omega) rest
    obtain ⟨c, more, rfl, space, other⟩ := exists_start_of_items items
    refine ⟨.item v is, ?_, by simp [Items.trees?, tree, trees]⟩
    simp only [List.append_assoc, List.cons_append] at read next ⊢
    rw [readItems, read]
    simp only [skipSpace_append blank, skipSpace_append blank', skipSpace_cons_of_not ',' _ rfl,
      skipSpace_cons_of_not c _ space]
    split
    · next same => cases same
    · next same => exact absurd (List.cons.inj same).1 other
    · rw [next]

/-- The reader gets to the end of a member. -/
theorem exists_member {core tail cs : List Char} {m : Option String × Tree}
    (member : SpellsMember core m) (enough : core.length ≤ steps) (stops : Stops tail)
    (text : '"' :: cs = core ++ tail) :
    ∃ l v behind after, readLiteral cs = (l, behind) ∧ skipSpace behind = ':' :: after
      ∧ readValue steps after = (v, tail) ∧ l.text? = some m.1 ∧ v.tree? = some m.2 := by
  obtain ⟨literal, blank, blank', value⟩ := member
  next body ws ws' core s t =>
  simp only [List.length_append, List.length_cons] at enough
  simp only [List.append_assoc, List.cons_append, List.cons.injEq, true_and] at text
  obtain ⟨l, name, text'⟩ := readLiteral_of_spells literal (ws ++ ':' :: (ws' ++ (core ++ tail)))
  obtain ⟨v, read, tree⟩ := f.value core t value (by omega) _ stops
  refine ⟨l, v, _, ws' ++ (core ++ tail), text ▸ name, ?_, ?_, text', tree⟩
  · rw [skipSpace_append blank, skipSpace_cons_of_not _ _ rfl]
  · rw [readValue_append steps blank', read]

theorem members_succ (core : List Char) (ts : List (Option String × Tree))
    (spelled : SpellsMembers core ts) (enough : core.length < steps + 1) (cs rest : List Char)
    (text : '"' :: cs = core ++ '\x7d' :: rest) :
    ∃ ms, readMembers (steps + 1) cs = (ms, rest) ∧ ms.trees? = some ts := by
  cases spelled with
  | @one core ws m member blank =>
    rw [List.length_append] at enough
    have stops : Stops (ws ++ '\x7d' :: rest) :=
      stops_append blank (stops_cons rest (.inr (.inr rfl)))
    rw [List.append_assoc] at text
    obtain ⟨l, v, behind, after, name, colon, value, text', tree⟩ :=
      f.exists_member member (by omega) stops text
    refine ⟨.member l v .closed, ?_, by simp [Members.trees?, text', tree]⟩
    rw [readMembers, name]
    simp only [colon, value, skipSpace_append blank, skipSpace_cons_of_not '\x7d' _ rfl]
  | @more core ws ws' more m ts member blank blank' members =>
    simp only [List.length_append, List.length_cons] at enough
    have stops : Stops (ws ++ ',' :: (ws' ++ (more ++ '\x7d' :: rest))) :=
      stops_append blank (stops_cons _ (.inl rfl))
    simp only [List.append_assoc, List.cons_append] at text
    obtain ⟨l, v, behind, after, name, colon, value, text', tree⟩ :=
      f.exists_member member (by omega) stops text
    obtain ⟨more, rfl⟩ := exists_mark_of_members members
    obtain ⟨ms, next, trees⟩ := f.members _ ts members (by omega) (more ++ '\x7d' :: rest) rest rfl
    refine ⟨.member l v ms, ?_, by simp [Members.trees?, text', tree, trees]⟩
    rw [readMembers, name]
    simp only [colon, value, skipSpace_append blank, skipSpace_append blank', List.cons_append,
      skipSpace_cons_of_not ',' _ rfl, skipSpace_cons_of_not '"' _ rfl, next]

end Follows

/-- **What is spelled is read to its end.** -/
theorem follows (steps : Nat) : Follows steps := by
  induction steps with
  | zero =>
    refine ⟨fun core t spelled enough => ?_, fun core ts spelled enough => ?_,
      fun core ts spelled enough => ?_⟩
    · obtain ⟨c, cs, rfl, -⟩ := exists_start_of_spells spelled
      cases enough
    · cases enough
    · cases enough
  | succ steps ih => exact ⟨ih.value_succ, ih.items_succ, ih.members_succ⟩

/-! ## Whole texts -/

/-- **A text says what it spells.** The reader gets to its end without a break and finds a tree
there if and only if the text spells that tree. -/
theorem tree?_readText_iff (cs : List Char) (t : Tree) :
    (readText cs).2 = [] ∧ (readText cs).1.tree? = some t ↔ SpellsText cs t := by
  constructor
  · rw [readText]
    rintro ⟨behind, tree⟩
    obtain ⟨ws, core, text, blank, spelled⟩ := (covers _).value cs _ _ t rfl tree
    rw [text]
    exact .mk blank spelled (blank_of_skipSpace behind)
  · rintro ⟨blank, spelled, blank'⟩
    next ws core ws' =>
    have stops := stops_append blank' stops_nil
    rw [List.append_nil] at stops
    obtain ⟨v, read, tree⟩ := (follows (2 * (ws ++ (core ++ ws')).length + 2)).value core t spelled
      -- There are about two steps for each character, which is more than enough.
      (by simp only [List.length_append]; omega) ws' stops
    rw [readText, readValue_append _ blank, read]
    exact ⟨skipSpace_blank blank', tree⟩

/-- Whether a text spells a tree is found out by reading it. -/
instance (cs : List Char) (t : Tree) : Decidable (SpellsText cs t) :=
  decidable_of_iff _ (tree?_readText_iff cs t)

/-- A text is accepted if there is nothing behind its value and the value is accepted. -/
theorem decodeText_eq_ok_iff {α : Type} (f : Reading → Decoded α) (cs : List Char) (a : α) :
    decodeText f cs = .ok a ↔ (readText cs).2 = [] ∧ f (readText cs).1 = .ok a := by
  rw [decodeText]
  cases read : readText cs with
  | mk v rest =>
    cases decoded : f v with
    | error e => simp [decoded]
    | ok b => cases rest <;> simp [decoded]

/-- A text spells one tree at most. -/
theorem SpellsText.unique {cs : List Char} {t t' : Tree} (spelled : SpellsText cs t)
    (spelled' : SpellsText cs t') : t = t' :=
  Option.some.inj <| ((tree?_readText_iff cs t).2 spelled).2.symm.trans
    ((tree?_readText_iff cs t').2 spelled').2

end KeyedLocks.Json
