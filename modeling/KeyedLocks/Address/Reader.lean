/-
Reading addresses.

What stands around an address and what breaks its lines is left out before it is read.
The scheme says what follows. An address of the web always has a host, however many
slashes stand in front of it, and takes a backslash for a slash. An address of a file
may have a host. Any other address has one behind two slashes, a path behind one, and
something that only its scheme can read otherwise.
-/
import KeyedLocks.Address.Basic
import KeyedLocks.Address.Path

set_option autoImplicit false

namespace KeyedLocks.Address

open KeyedLocks.Text

/-! ## Schemes -/

/-- What kind of address a scheme leads to. An address of the web has a port that goes
without saying. -/
inductive Kind where
  | web (port : Nat)
  | file
  | other
  deriving DecidableEq, Repr

/-- The kind of a scheme, in lower case. -/
def Kind.of (scheme : List Char) : Kind :=
  if scheme = "http".toList ∨ scheme = "ws".toList then .web 80
  else if scheme = "https".toList ∨ scheme = "wss".toList then .web 443
  else if scheme = "ftp".toList then .web 21
  else if scheme = "file".toList then .file
  else .other

/-- Whether a backslash counts as a slash. -/
def Kind.takesBackslash : Kind → Bool
  | .other => false
  | _ => true

/-- Whether a character parts the segments of a path. -/
def Kind.isSlash (k : Kind) (c : Char) : Bool := c == '/' || (k.takesBackslash && c == '\\')

/-- Whether a character ends an authority. -/
def Kind.endsAuthority (k : Kind) (c : Char) : Bool := k.isSlash c || c == '?' || c == '#'

/-- Whether a character may stand in a scheme behind its first letter. -/
def isSchemeChar (c : Char) : Bool := c.isAlphanum || c == '+' || c == '-' || c == '.'

/-- The scheme of an address in lower case, and what stands behind its colon. -/
def splitScheme (cs : List Char) : Option (List Char × List Char) :=
  match cs.takeWhile isSchemeChar, cs.dropWhile isSchemeChar with
  | first :: more, ':' :: rest =>
    if first.isAlpha then some ((first :: more).map Char.toLower, rest) else none
  | _, _ => none

/-! ## Who asks -/

/-- What the names of a user escape. -/
def userReserved : List Char := Path.reserved ++ "/:;=@[\\]^|".toList

/-- The names of a user: a name, and behind the first colon a password. -/
def readUser (cs : List Char) : Authority :=
  let password := (cs.dropWhile (· != ':')).drop 1
  { username := escape userReserved (cs.takeWhile (· != ':'))
    password := if password.isEmpty then none else some (escape userReserved password) }

/-- Cuts an authority from the rest of an address at its last at-sign. There is no host
behind an at-sign that stands at both ends. -/
def splitUser (k : Kind) (cs : List Char) : Option (Authority × List Char) :=
  let authority := cs.takeWhile fun c => !k.endsAuthority c
  let rest := cs.dropWhile fun c => !k.endsAuthority c
  match authority.reverse.dropWhile (· != '@') with
  | [] => some ({}, cs)
  -- The last at-sign parts the two, so a name may hold further ones.
  | _ :: user =>
    let host := (authority.reverse.takeWhile (· != '@')).reverse
    if user.isEmpty && host.isEmpty && !rest.isEmpty then none
    else some (readUser user.reverse, host ++ rest)

/-! ## Which host is asked -/

/-- The host of an authority and what stands behind it. A colon ends a host unless it
stands in brackets. -/
def splitHost (k : Kind) (bracketed : Bool) : List Char → List Char × List Char
  | [] => ([], [])
  | c :: rest =>
    if k.endsAuthority c || (c == ':' && !bracketed) then ([], c :: rest)
    else
      let (host, rest) := splitHost k (c == '[' || (bracketed && c != ']')) rest
      (c :: host, rest)

/-- A port and what stands behind it. No digits are no port. -/
def readPort (cs : List Char) : Option (Option Nat × List Char) :=
  let digits := cs.takeWhile Char.isDigit
  let rest := cs.dropWhile Char.isDigit
  let port := Nat.ofDigitChars 10 digits 0
  if 65535 < port then none
  else if (rest.head?.map fun c => !"/\\?#".toList.contains c).getD false then none
  else some (if digits.isEmpty then none else some port, rest)

/-- The host of an authority. Outside the web there may be none. -/
def readHost (k : Kind) (cs : List Char) : Option (Option Host) :=
  match k with
  | .other => if cs.isEmpty then some none else (Host.readOpaque cs).map some
  | _ => if cs.isEmpty then none else (Host.readWeb cs).map some

/-- An authority and what stands behind it. Where there is no host there is neither a
port nor anyone who asks, and the port that goes without saying is left out. -/
def readAuthority (k : Kind) (cs : List Char) : Option (Authority × List Char) := do
  let (user, cs) ← splitUser k cs
  let (hostText, rest) := splitHost k false cs
  let host ← readHost k hostText
  let (port, rest) ←
    match rest with
    | ':' :: rest => if host.isNone then none else readPort rest
    | rest => some (none, rest)
  -- Nobody can ask for what has no host.
  if host.isNone && !user.userText.isEmpty then none
  else
    some ({ user with host, port := port.filter fun n => !decide (k = .web n) }, rest)

/-! ## What stands behind the host -/

/-- What a query escapes. In an address that takes backslashes for slashes an apostrophe
is escaped too. -/
def queryReserved (k : Kind) : List Char :=
  " \"#<>".toList ++ (if k.takesBackslash then ['\''] else [])

/-- What a fragment escapes. -/
def fragmentReserved : List Char := " \"<>`".toList

/-- Whether a character stands in a path. -/
def isPathChar (c : Char) : Bool := c != '?' && c != '#'

/-- The query and the fragment of an address. -/
def readTail (k : Kind) (cs : List Char) : Option (List Char) × Option (List Char) :=
  let fragment (cs : List Char) : Option (List Char) :=
    match cs with
    | '#' :: rest => some (escape fragmentReserved rest)
    | _ => none
  match cs with
  | '?' :: rest =>
    (some (escape (queryReserved k) (rest.takeWhile (· != '#'))),
      fragment (rest.dropWhile (· != '#')))
  | rest => (none, fragment rest)

/-- The address of a scheme, an authority and a path, with the rest of the text. -/
def ofParts (k : Kind) (scheme : List Char) (authority : Option Authority) (path rest : List Char) :
    Address :=
  let (query, fragment) := readTail k (rest.dropWhile isPathChar)
  { scheme, authority, path, query, fragment }

/-- A path without the slash in front of it, if there is one. -/
def dropSlash (k : Kind) : List Char → List Char
  | [] => []
  | c :: rest => if k.isSlash c then rest else c :: rest

/-- The path behind a host. Outside the web there may be none. -/
def readPath (k : Kind) (rest : List Char) : List Char :=
  let path := rest.takeWhile isPathChar
  if path.isEmpty && !k.takesBackslash then []
  else Path.normal k.isSlash (dropSlash k path)

/-! ## Addresses by their kind -/

/-- An address with a host. -/
def readHosted (k : Kind) (scheme cs : List Char) : Option Address := do
  let (authority, rest) ← readAuthority k cs
  return ofParts k scheme (some authority) (readPath k rest) rest

/-- The address of a file on a host or on none, behind its slashes. Empty segments in
front of a path are left out, and a drive at its top is on no host. -/
def fileAddress (host : Option Host) (path rest : List Char) : Address :=
  let segments := Path.resolve true [] (cutAt Kind.file.isSlash (path.takeWhile isPathChar))
  let host := if (segments.head?.map Path.isDrive).getD false then none else host
  ofParts .file "file".toList (some { host }) (Path.text (segments.dropWhile List.isEmpty)) rest

/-- An address of a file. A drive in the place of a host belongs to the path, and the
host that goes without saying is left out. -/
def readFile : List Char → Option Address
  | c :: d :: rest =>
    if Kind.file.isSlash c && Kind.file.isSlash d then
      let host := rest.takeWhile fun c => !Kind.file.endsAuthority c
      let path := rest.dropWhile fun c => !Kind.file.endsAuthority c
      -- A drive is no host, also in the place of one.
      if Path.isDrive host then some (fileAddress none rest rest)
      else if host.isEmpty then some (fileAddress none path path)
      else
        (Host.readWeb host).map fun host =>
          if host = .name "localhost".toList then fileAddress none path path
          else fileAddress (some host) (dropSlash .file path) path
    else some (fileAddress none (dropSlash .file (c :: d :: rest)) (c :: d :: rest))
  | cs => some (fileAddress none (dropSlash .file cs) cs)

/-- An address of a scheme that is not known here. -/
def readOther (scheme : List Char) : List Char → Option Address
  | '/' :: '/' :: rest => readHosted .other scheme rest
  | '/' :: rest =>
    some (ofParts .other scheme none
      (Path.normal Kind.other.isSlash (rest.takeWhile isPathChar)) rest)
  | cs => some (ofParts .other scheme none (escape [] (cs.takeWhile isPathChar)) cs)

/-! ## The whole -/

/-- Controls and blanks, which may stand around an address. -/
def isAround (c : Char) : Bool := c.toNat ≤ 0x20

/-- A text without what stands around an address, and without its line breaks and
tabs. -/
def bare (cs : List Char) : List Char :=
  ((cs.dropWhile isAround).reverse.dropWhile isAround).reverse.filter fun c =>
    c != '\t' && c != '\n' && c != '\r'

/-- The address that a text is, if it is one. -/
def parse? (s : String) : Option Address :=
  match splitScheme (bare s.toList) with
  | none => none
  | some (scheme, rest) =>
    match Kind.of scheme with
    -- However many slashes there are, a host stands behind them.
    | .web port => readHosted (.web port) scheme (rest.dropWhile (Kind.web port).isSlash)
    | .file => readFile rest
    | .other => readOther scheme rest

/-! ## What is read -/

/-- **A port fits 16 bits.** -/
theorem port_le_of_readPort {cs rest : List Char} {n : Nat}
    (h : readPort cs = some (some n, rest)) : n ≤ 65535 := by
  simp only [readPort] at h
  split at h
  · cases h
  · next fits =>
    split at h
    · cases h
    · simp only [Option.some.injEq, Prod.mk.injEq] at h
      have := h.1
      split at this
      · cases this
      · cases this
        omega

/-- An authority on the web names a host. -/
theorem host_of_readHost_web {port : Nat} {cs : List Char} {host : Option Host}
    (h : readHost (.web port) cs = some host) : host.isSome = true := by
  simp only [readHost] at h
  split at h
  · cases h
  · simp only [Option.map_eq_some_iff] at h
    obtain ⟨_, _, rfl⟩ := h
    rfl

end KeyedLocks.Address
