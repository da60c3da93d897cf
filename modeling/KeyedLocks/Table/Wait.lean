/-
How a wait for a lock can fail.
-/
set_option autoImplicit false

namespace KeyedLocks

/-- A wait that ended without a lock: it was called off, or the table went away
under it. -/
inductive WaitError where
  | cancelled (key : String)
  | abandoned (key : String)
  deriving DecidableEq, Repr

/-- The wording of a failed wait. -/
def WaitError.message : WaitError → String
  | .cancelled key => "wait for lock '" ++ key ++ "' was cancelled"
  | .abandoned key => "lock '" ++ key ++ "' was torn down while waiting"

end KeyedLocks
