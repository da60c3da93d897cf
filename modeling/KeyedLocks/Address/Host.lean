/-
Hosts of addresses.

A host stands in brackets, or it is a name. In an address of the web, escapes in a name
are undone and the name is put into ASCII first; it may turn out to be a numeric host
then. In any other address a name is taken as it is, with what has to be escaped
escaped.
-/
import KeyedLocks.Text.Percent
import KeyedLocks.Domain.Name
import KeyedLocks.Address.Ipv4
import KeyedLocks.Address.Ipv6

set_option autoImplicit false

namespace KeyedLocks.Address

open KeyedLocks.Text

/-- A host: a name, a number of 32 bits, or eight pieces of 16 bits. -/
inductive Host where
  | name (cs : List Char)
  | ipv4 (n : Nat)
  | ipv6 (pieces : List Nat)
  deriving DecidableEq, Repr

namespace Host

/-! ## Reading -/

/-- A host in brackets, behind the first of them. -/
def readBracketed (cs : List Char) : Option Host :=
  if cs.getLast? = some ']' then (Ipv6.read? cs.dropLast).map ipv6 else none

/-- A host of an address of the web. -/
def readWeb : List Char → Option Host
  | '[' :: rest => readBracketed rest
  | cs => do
    let given ← text? (unescape cs)
    let name ← Domain.toAscii? given
    if name.isEmpty then none
    else if Ipv4.isNumeric name then (Ipv4.read? name).map ipv4
    else some (.name name)

/-- Characters that no name may hold as they are. -/
def isForbidden (c : Char) : Bool := "\x00\t\n\r #/:<>?@[\\]^|".toList.contains c

/-- A host of any other address. -/
def readOpaque : List Char → Option Host
  | '[' :: rest => readBracketed rest
  | cs => if cs.any isForbidden then none else some (.name (escape [] cs))

/-! ## Writing -/

/-- A host in writing. -/
def text : Host → List Char
  | name cs => cs
  | ipv4 n => Ipv4.text n
  | ipv6 pieces => '[' :: Ipv6.text pieces ++ [']']

/-! ## What is read -/

/-- **No address of the web is without a host.** -/
theorem ne_empty_of_readWeb {cs : List Char} {h : Host} (read : readWeb cs = some h) :
    h ≠ .name [] := by
  unfold readWeb at read
  split at read
  · next rest =>
    simp only [readBracketed] at read
    split at read
    · simp only [Option.map_eq_some_iff] at read
      obtain ⟨pieces, _, rfl⟩ := read
      simp
    · cases read
  · simp only [Option.bind_eq_bind, Option.bind_eq_some_iff] at read
    obtain ⟨given, _, name, _, rest⟩ := read
    split at rest
    · cases rest
    · split at rest
      · simp only [Option.map_eq_some_iff] at rest
        obtain ⟨n, _, rfl⟩ := rest
        simp
      · next full _ =>
        simp only [Option.some.injEq] at rest
        subst rest
        intro empty
        injection empty with empty
        simp [empty] at full

end Host

end KeyedLocks.Address
