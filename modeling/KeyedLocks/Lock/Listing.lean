/-
What a server tells about itself.

A listing has an entry for every key that is held, with the times seen from the
moment of asking, and the health record counts what a server has to keep track of.
-/
import KeyedLocks.Lock.Request

set_option autoImplicit false

namespace KeyedLocks

/-- One held key. Times are in whole milliseconds, in 64-bit words; the time left
is told of locks that end by themselves. -/
structure ListingEntry where
  kind : LockKind
  key : String
  owner : Owner
  holds : UInt32
  waiting : UInt64
  heldFor : UInt64
  expiresIn : Option UInt64
  deriving DecidableEq, Repr

/-- Every held key. -/
structure Listing where
  locks : List ListingEntry
  deriving DecidableEq, Repr

/-- How a server is. -/
structure Health where
  status : String
  heldLocks : UInt64
  pendingExpiries : UInt64
  deriving DecidableEq, Repr

end KeyedLocks
