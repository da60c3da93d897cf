/-
The grammar of requests.

Which trees say a request, and which request they say. What is said of a member is said of what
stands under its name, so the order of members does not come into it, and neither do members of
other names, but for two demands: a name has to be a string, and what stands under it has to be
proper and not too deep. What stands under other names inside a duration is held to neither.
-/
import KeyedLocks.Json.Grammar
import KeyedLocks.Lock.Request
import Mathlib.Data.List.Forall2

set_option autoImplicit false

namespace KeyedLocks.Wire

open KeyedLocks.Json

/-- A duration: an object with a magnitude and a unit, or an array of the two. -/
inductive SaysDuration : Tree → LockDuration → Prop
  | object {ms : List (Option String × Tree)} {d : LockDuration}
      (names : ∀ m ∈ ms, m.1.isSome = true)
      (magnitude : Required Tree.IsInteger (valuesOf ms "magnitude") d.magnitude.toInt)
      (unit : Required Tree.IsChoice (valuesOf ms "unit") d.unit.name) :
      SaysDuration (.object ms) d
  | array {t u : Tree} {d : LockDuration} (magnitude : t.IsInteger d.magnitude.toInt)
      (unit : u.IsChoice d.unit.name) : SaysDuration (.array [t, u]) d

/-- A duration, or null if there is none. -/
inductive SaysLease : Tree → Option LockDuration → Prop
  | null : SaysLease .null none
  | duration {t : Tree} {d : LockDuration} (means : SaysDuration t d) : SaysLease t (some d)

/-- The names that mean something in a request. -/
def requestNames : List String :=
  ["key", "identity", "application", "thread", "kind", "duration", "issued_at"]

/-- Members may stand in a request: their names are strings, and what stands under a name that means
nothing there is proper and not too deep. The object around them is one level of its depth. -/
structure Passable (ms : List (Option String × Tree)) : Prop where
  names : ∀ m ∈ ms, m.1.isSome = true
  others : ∀ name t, (some name, t) ∈ ms → name ∉ requestNames →
    t.Proper ∧ t.depth + 1 ≤ depthLimit

/-- The members of an object say a request. -/
structure SaysRequest (ms : List (Option String × Tree)) (r : Request) : Prop
    extends Passable ms where
  key : Required Tree.IsString (valuesOf ms "key") r.key
  identity : Required Tree.IsInteger (valuesOf ms "identity") r.identity.toInt
  application : Required Tree.IsString (valuesOf ms "application") r.owner.application
  thread : Required Tree.IsString (valuesOf ms "thread") r.owner.thread
  kind : Required Tree.IsChoice (valuesOf ms "kind") r.kind.name
  lease : Optional SaysLease none (valuesOf ms "duration") r.duration
  time : Optional (fun t n => t.IsInteger n.toNat) 0 (valuesOf ms "issued_at") r.issuedAt

/-! ## What makes no difference -/

/-- Two durations are alike if they differ in nothing but the order of members and the members of
other names. -/
inductive AlikeDuration : Tree → Tree → Prop
  | same (t : Tree) : AlikeDuration t t
  | object {ms ms' : List (Option String × Tree)} (names : ∀ m ∈ ms, m.1.isSome = true)
      (names' : ∀ m ∈ ms', m.1.isSome = true)
      (magnitude : valuesOf ms "magnitude" = valuesOf ms' "magnitude")
      (unit : valuesOf ms "unit" = valuesOf ms' "unit") :
      AlikeDuration (.object ms) (.object ms')

/-- Two requests are alike if what stands under their names is the same, or alike where it is a
duration. Both are requests only if their other members may stand there. -/
structure Alike (ms ms' : List (Option String × Tree)) : Prop where
  passable : Passable ms
  passable' : Passable ms'
  values : ∀ name ∈ requestNames, name ≠ "duration" → valuesOf ms name = valuesOf ms' name
  durations : List.Forall₂ AlikeDuration (valuesOf ms "duration") (valuesOf ms' "duration")

end KeyedLocks.Wire
