/-
Addresses.

An address is a scheme and what the scheme leads to: a place on a host, a place in a
tree of files, or anything else that the scheme knows how to read. All parts are kept
in their normal form, so an address is written by putting its parts in a row.
-/
import KeyedLocks.Address.Host

set_option autoImplicit false

namespace KeyedLocks

open KeyedLocks.Text

/-! ## Parts -/

namespace Address

/-- Who asks, and which host is asked. An empty user name is none. -/
structure Authority where
  username : List Char := []
  password : Option (List Char) := none
  host : Option Host := none
  port : Option Nat := none
  deriving DecidableEq, Repr

namespace Authority

/-- The names that a user goes by, in front of the host. -/
def userText (a : Authority) : List Char :=
  match a.password with
  | some password => a.username ++ ':' :: password ++ ['@']
  | none => if a.username.isEmpty then [] else a.username ++ ['@']

/-- An authority in writing. -/
def text (a : Authority) : List Char :=
  a.userText ++ (a.host.map Host.text).getD []
    ++ (match a.port with
        | none => []
        | some n => ':' :: Nat.toDigits 10 n)

/-- An authority that does not say who asks. -/
def anonymous (a : Authority) : Authority := { a with username := [], password := none }

/-- **Who asks is not seen afterwards.** -/
@[simp] theorem userText_anonymous (a : Authority) : a.anonymous.userText = [] := rfl

/-- The host of an anonymous authority is the one that it had. -/
@[simp] theorem host_anonymous (a : Authority) : a.anonymous.host = a.host := rfl

end Authority

end Address

/-! ## Addresses -/

/-- An address. One without an authority leads to a place that its scheme alone knows. -/
structure Address where
  scheme : List Char
  authority : Option Address.Authority
  path : List Char
  query : Option (List Char)
  fragment : Option (List Char)
  deriving DecidableEq, Repr

namespace Address

/-- The host of an address. -/
def host? (a : Address) : Option Host := a.authority.bind Authority.host

/-- An address without its fragment and what stands in front of its path: what a request
names as its target. -/
def target (a : Address) : List Char :=
  a.path ++ (match a.query with
    | none => []
    | some query => '?' :: query)

/-- What stands between the scheme and the path. A path that starts with two slashes
would be taken for an authority, so one dot keeps it apart. -/
def authorityText (a : Address) : List Char :=
  match a.authority, a.path with
  | some authority, _ => '/' :: '/' :: authority.text
  | none, '/' :: '/' :: _ => ['/', '.']
  | none, _ => []

/-- An address in writing. -/
def text (a : Address) : List Char :=
  a.scheme ++ ':' :: a.authorityText ++ a.target
    ++ (match a.fragment with
        | none => []
        | some fragment => '#' :: fragment)

/-- An address that does not say who asks. -/
def anonymous (a : Address) : Address := { a with authority := a.authority.map .anonymous }

/-- An anonymous address leads to the same host. -/
@[simp] theorem host?_anonymous (a : Address) : a.anonymous.host? = a.host? := by
  cases h : a.authority <;> simp [host?, anonymous, h]

end Address

end KeyedLocks
