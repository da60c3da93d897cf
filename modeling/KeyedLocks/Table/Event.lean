/-
Runs of a table.

Everything that can happen to a table is one of the events below, each a single
step; a run is a list of them. What takes several steps, such as settling or the
passing of time, is a run of single steps as well, so a law that every event keeps
holds at every moment, settled or not.
-/
import KeyedLocks.Table.Reaping

set_option autoImplicit false

namespace KeyedLocks

/-- What can happen to a table. -/
inductive Event where
  | tryAcquire (r : Request)
  | acquire (token : String) (r : Request)
  | poll (ticket : Nat)
  | depart (ticket : Nat)
  | cancel (token : String)
  | release (r : Request)
  | revoke (key : String) (grant : Nat)
  | reap
  | tick (ns : Nat)
  | stopReaper
  deriving DecidableEq, Repr

/-- What comes of an event. -/
inductive Outcome where
  | admission (a : Admission)
  | acquisition (a : Acquisition)
  | progress (p : Progress)
  | departure (d : Departure)
  | release (r : Release)
  | revocation (r : Option Revoked)
  | reaped (r : Reaped)
  | done
  deriving DecidableEq, Repr

namespace Table

/-- One event. -/
def step (t : Table) : Event → Outcome × Table
  | .tryAcquire r => (t.tryAcquire r).map .admission id
  | .acquire token r => (t.acquire token r).map .acquisition id
  | .poll ticket => (t.poll ticket).map .progress id
  | .depart ticket => (t.depart ticket).map .departure id
  | .cancel token => (.done, t.cancel token)
  | .release r => (t.release r).map .release id
  | .revoke key grant => (t.revoke key grant).map .revocation id
  | .reap => t.reap.map .reaped id
  | .tick ns => (.done, t.tick ns)
  | .stopReaper => (.done, t.stopReaper)

/-- The events of a run, one after the other. -/
def run (t : Table) : List Event → Table
  | [] => t
  | e :: rest => run (t.step e).2 rest

@[simp] theorem run_nil (t : Table) : t.run [] = t := rfl

@[simp] theorem run_cons (t : Table) (e : Event) (es : List Event) :
    t.run (e :: es) = (t.step e).2.run es := rfl

theorem run_append (t : Table) (es fs : List Event) : t.run (es ++ fs) = (t.run es).run fs := by
  induction es generalizing t with
  | nil => rfl
  | cons e es ih => exact ih _

/-- **Settling is a run** of single steps of the reaper. -/
theorem reapUpTo_eq_run (n : Nat) (t : Table) :
    ∃ k, k ≤ n ∧ reapUpTo n t = t.run (List.replicate k .reap) := by
  induction n generalizing t with
  | zero => exact ⟨0, Nat.le_refl 0, rfl⟩
  | succ n ih =>
    unfold reapUpTo
    split
    · obtain ⟨k, bound, same⟩ := ih t.reap.2
      refine ⟨k + 1, Nat.succ_le_succ bound, ?_⟩
      rw [same, List.replicate_succ]
      rfl
    · exact ⟨0, Nat.zero_le _, rfl⟩

end Table

end KeyedLocks
