/-
Where the client sends its requests.

The server is given as a base address, and the path of a request is put behind it. The
address that comes out is written as it was put together when the client talks about
it itself; the connection shows it in its normal form, without the names of a user,
since those travel apart from it.

The client can only use addresses of the web, which have a host, and only a host whose
characters a request line can carry.
-/
import KeyedLocks.Address.Reader

set_option autoImplicit false

namespace KeyedLocks.Client

open KeyedLocks.Text

/-! ## Putting it together -/

/-- A base address without the slashes at its end. -/
def trimBase (server : String) : String :=
  String.ofList (server.toList.reverse.dropWhile (· == '/')).reverse

/-- The address of a path on a server. -/
def endpoint (server path : String) : String := trimBase server ++ path

/-! ## Who asks -/

/-- Whether escapes stand for bytes that are text. -/
def isText (cs : List Char) : Bool := (text? (unescape cs)).isSome

/-- The address that a request is sent to. The names of a user are taken out of it if
they are text; a name that is none keeps all of them in, and a password that is none
goes only together with a name. -/
def sendingAddress (a : Address) : Address :=
  match a.authority with
  | none => a
  | some authority =>
    let password := (authority.password.map isText).getD false
    if isText authority.username && (!authority.username.isEmpty || password) then a.anonymous
    else a

/-! ## Why nothing can be sent -/

/-- Why a request did not get to a server, or its answer did not come back. -/
inductive TransportError where
  | noAddress
  | unusable (a : Address)
  | failed (a : Address)
  deriving DecidableEq, Repr

/-- The wording of a failure on the way. -/
def TransportError.message : TransportError → String
  | .noAddress => "builder error"
  | .unusable a => "builder error for url (" ++ String.ofList a.text ++ ")"
  | .failed a => "error sending request for url (" ++ String.ofList a.text ++ ")"

/-- The longest address that a request can name, in characters of ASCII. -/
def addressLimit : Nat := 65534

/-- Whether a request line can carry a character of a host. -/
def isCarried (c : Char) : Bool := !"\"`\x7b\x7d".toList.contains c

/-- Whether requests can be sent to an address in its normal form. -/
def isUsable (a : Address) : Bool :=
  (a.scheme == "http".toList || a.scheme == "https".toList)
    && ((a.host?.map fun host => host.text.all isCarried).getD false)
    && a.text.length ≤ addressLimit

/-- The address of a request, if a request can be sent there. -/
def usableAddress (s : String) : Except TransportError Address :=
  match Address.parse? s with
  | none => .error .noAddress
  | some a =>
    let a := sendingAddress a
    if isUsable a then .ok a else .error (.unusable a)

/-! ## What is sent where -/

/-- A base address with slashes at its end is the same base. -/
theorem trimBase_append_slash (server : String) : trimBase (server ++ "/") = trimBase server := by
  simp [trimBase]

/-- Taking out who asks does not change the host. -/
@[simp] theorem host?_sendingAddress (a : Address) : (sendingAddress a).host? = a.host? := by
  unfold sendingAddress
  split
  · rfl
  · simp only []
    split
    · exact Address.host?_anonymous a
    · rfl

/-- **Requests go to hosts of the web only.** -/
theorem host_of_usableAddress {s : String} {a : Address} (h : usableAddress s = .ok a) :
    a.host?.isSome = true ∧ (a.scheme = "http".toList ∨ a.scheme = "https".toList) := by
  simp only [usableAddress] at h
  split at h
  · cases h
  · split at h
    · next usable =>
      cases h
      simp only [isUsable, Bool.and_eq_true, Bool.or_eq_true, beq_iff_eq] at usable
      refine ⟨?_, usable.1.1⟩
      cases e : (sendingAddress _).host? with
      | none => simp [e] at usable
      | some host => rfl
    · cases h

end KeyedLocks.Client
