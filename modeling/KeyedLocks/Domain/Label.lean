/-
Labels of domain names.

A label is written in ASCII. One with other characters in it is written behind the
mark `xn--`, and the two spellings mean the same label. Where the mark is given, what
stands behind it has to be the one spelling that the label has: the label is in
canonical form, every character in it stands for itself, and at least one is beyond
ASCII.
-/
import KeyedLocks.Text.Canonical
import KeyedLocks.Domain.Joining
import KeyedLocks.Domain.Mapping
import KeyedLocks.Domain.Punycode

set_option autoImplicit false

namespace KeyedLocks.Domain

open KeyedLocks.Text

/-! ## Characters -/

/-- Characters of ASCII that would part a name from its neighbours, or that are not
seen. -/
def isForbidden (c : Char) : Bool :=
  c.toNat ≤ 0x20 || c == '\x7f' || "%#/:<>?@[\\]^|".toList.contains c

/-! ## Labels -/

/-- A label with its spelling in ASCII. -/
structure Label where
  text : List Char
  ascii : List Char
  deriving DecidableEq, Repr

namespace Label

/-- What stands in front of the spelling of a label that is not all ASCII. -/
def mark : List Char := ['x', 'n', '-', '-']

/-- The longest spelling that is read. -/
def readLimit : Nat := 2000

/-- The longest label that is spelled in ASCII. -/
def writeLimit : Nat := 1000

/-- The label of a spelling behind the mark. -/
def unmarked? (spelling : List Char) : Option (List Char) :=
  if readLimit < spelling.length then none
  else
    match Punycode.decode spelling with
    | none => none
    | some text =>
      if text.all Punycode.isAscii then none
      else if text.all isKept && isCanonical text then some text
      else none

/-- A label as it stands in a name, its characters replaced already. -/
def of? (cs : List Char) : Option Label :=
  match cs with
  | 'x' :: 'n' :: '-' :: '-' :: spelling => (unmarked? spelling).map fun text => ⟨text, cs⟩
  | cs =>
    if cs.all Punycode.isAscii then some ⟨cs, cs⟩
    else if writeLimit < cs.length then none
    else some ⟨cs, mark ++ Punycode.encode cs⟩

/-- Whether a label is well formed: it does not start with a mark, its joiners stand where
they may, and nothing in it is forbidden. -/
def isWellFormed (l : Label) : Bool :=
  !((l.text.head?.map isMark).getD false) && joinersFit [] l.text && !l.text.any isForbidden

/-! ## The spelling -/

/-- **A label of ASCII alone is spelled as it is,** unless it carries the mark. -/
theorem of?_of_ascii {cs : List Char} (ascii : cs.all Punycode.isAscii = true)
    (plain : ∀ spelling, cs ≠ mark ++ spelling) : of? cs = some ⟨cs, cs⟩ := by
  unfold of?
  split
  · next spelling => exact absurd rfl (plain spelling)
  · simp [ascii]

/-- A label behind the mark keeps its spelling. -/
theorem ascii_of_marked {spelling : List Char} {l : Label}
    (h : of? (mark ++ spelling) = some l) : l.ascii = mark ++ spelling := by
  simp only [mark, List.cons_append, List.nil_append, of?, Option.map_eq_some_iff] at h
  obtain ⟨text, _, rfl⟩ := h
  rfl

end Label

end KeyedLocks.Domain
