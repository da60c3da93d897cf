/-
What a request is aimed at.

The target of a request has one of four forms: a path alone; a whole address; the
name of a server, behind which there is no path at all; and a star for the server
as such. A query or a fragment may follow a path and does not belong to it.
-/
set_option autoImplicit false

namespace KeyedLocks.Http

/-! ## The forms -/

/-- The target of a request. -/
inductive Target where
  | path (path : List Char)
  | address (scheme authority path : List Char)
  | authority (name : List Char)
  | server
  deriving DecidableEq, Repr

namespace Target

/-- What stands in front of a query and a fragment. -/
def withoutQuery (cs : List Char) : List Char := cs.takeWhile fun c => c != '?' && c != '#'

/-- The scheme of an address, and what stands behind its two slashes. -/
def splitAddress : List Char → Option (List Char × List Char)
  | [] => none
  | ':' :: '/' :: '/' :: rest => some ([], rest)
  | c :: rest => (splitAddress rest).map fun (scheme, rest) => (c :: scheme, rest)

/-- A target as it is written. -/
def ofText (s : String) : Target :=
  match withoutQuery s.toList with
  | '/' :: rest => .path ('/' :: rest)
  | ['*'] => .server
  | cs =>
    match splitAddress cs with
    | some (scheme, rest) =>
      .address scheme (rest.takeWhile (· != '/')) (rest.dropWhile (· != '/'))
    | none => .authority cs

/-- The path that a target leads to. An address without a path leads to the root, and
a name alone to no path. -/
def route : Target → List Char
  | path p => p
  | address _ _ [] => ['/']
  | address _ _ p => p
  | authority _ => []
  | server => ['*']

/-! ## What a form leads to -/

/-- **A scheme ends at its colon:** whatever stands behind the two slashes is left as
it is. -/
theorem splitAddress_append (scheme rest : List Char) (h : ':' ∉ scheme) :
    splitAddress (scheme ++ "://".toList ++ rest) = some (scheme, rest) := by
  induction scheme with
  | nil => simp [splitAddress]
  | cons c scheme ih =>
    simp only [List.mem_cons, not_or] at h
    have next := ih h.2
    simp only [List.cons_append]
    unfold splitAddress
    split
    · simp_all
    · simp_all
    · simp_all

end Target

end KeyedLocks.Http
