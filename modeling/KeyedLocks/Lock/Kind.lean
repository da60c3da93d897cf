/-
The three kinds of lock.

A kind selects the rules a request is held to: plain exclusion, exclusion that the
same owner may enter again, or exclusion that ends by itself.
-/
set_option autoImplicit false

namespace KeyedLocks

/-- A kind of lock. -/
inductive LockKind where
  | simple
  | reentrant
  | timeout
  deriving DecidableEq, Repr, Inhabited

namespace LockKind

/-- All kinds, in the order in which listings show them. -/
def all : List LockKind := [simple, reentrant, timeout]

/-- The name of a kind. -/
def name : LockKind → String
  | simple => "simple"
  | reentrant => "reentrant"
  | timeout => "timeout"

/-- The place of a kind in listings. -/
def index : LockKind → Nat
  | simple => 0
  | reentrant => 1
  | timeout => 2

/-- The kind of a name, in any mix of upper and lower case of ASCII. -/
def ofName? (s : String) : Option LockKind :=
  let given := String.ofList (s.toList.map Char.toLower)
  all.find? fun k => k.name == given

/-- The wording for a name that is no kind: it shows the name in lower case. -/
def unknownMessage (s : String) : String :=
  "invalid lock kind '" ++ String.ofList (s.toList.map Char.toLower)
    ++ "': expected 'simple', 'reentrant' or 'timeout'"

theorem mem_all (k : LockKind) : k ∈ all := by
  cases k <;> decide

theorem index_injective {a b : LockKind} (h : a.index = b.index) : a = b := by
  revert h; cases a <;> cases b <;> decide

end LockKind

end KeyedLocks
