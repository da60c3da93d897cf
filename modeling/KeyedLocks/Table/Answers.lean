/-
What a table answers to requests.

A request is answered with a response as soon as it is decided. Only a request to
wait for a key can stay undecided; it leaves a call behind, which is answered when
it is polled.
-/
import KeyedLocks.Lock.Response
import KeyedLocks.Table.Reaping
import KeyedLocks.Table.Wait

set_option autoImplicit false

namespace KeyedLocks

/-- Where a request to wait for a key stands: answered, given up, or waiting under a
ticket. -/
inductive LockProgress where
  | answered (r : Response)
  | failed (e : WaitError)
  | waiting (ticket : Nat)
  | unknown
  deriving DecidableEq, Repr

namespace Table

/-- Why giving back fails for someone who is not the holder: where locks end by
themselves it counts as expired. -/
def staleCause (t : Table) : Cause :=
  match t.kind with
  | .timeout => .lockExpired
  | _ => .notHeld

/-- Takes a key if that needs no waiting. -/
def tryLock (t : Table) (r : Request) : Response × Table :=
  match t.tryAcquire r with
  | (.granted _, t) => (.succeeded r .tryLock, t)
  | (.reentered _, t) => (.succeeded r .tryLock, t)
  | (.busy _, t) => (.failed r .tryLock .alreadyLocked, t)

/-- Gives a key back. -/
def unlock (t : Table) (r : Request) : Response × Table :=
  match t.release r with
  | (.released _ _, t) => (.succeeded r .unlock, t)
  | (.retained _, t) => (.succeeded r .unlock, t)
  | (.notHeld _, t) => (.failed r .unlock t.staleCause, t)

/-- Takes a key, or waits for it. -/
def lock (t : Table) (token : String) (r : Request) : LockProgress × Table :=
  match t.acquire token r with
  | (.granted _, t) => (.answered (.succeeded r .lock), t)
  | (.reentered _, t) => (.answered (.succeeded r .lock), t)
  | (.cancelled key, t) => (.failed (.cancelled key), t)
  | (.waiting ticket, t) => (.waiting ticket, t)

/-- A waiting call is polled. -/
def pollLock (t : Table) (ticket : Nat) : LockProgress × Table :=
  match t.call? ticket with
  | none => (.unknown, t)
  | some c =>
    match t.poll ticket with
    | (.granted _, t) => (.answered (.succeeded c.request .lock), t)
    | (.cancelled key, t) => (.failed (.cancelled key), t)
    | (.pending, t) => (.waiting ticket, t)
    | (.unknown, t) => (.unknown, t)

/-! ## What requests do to a table -/

theorem tryLock_snd (t : Table) (r : Request) : (t.tryLock r).2 = (t.tryAcquire r).2 := by
  unfold tryLock
  split <;> next h => rw [h]

theorem unlock_snd (t : Table) (r : Request) : (t.unlock r).2 = (t.release r).2 := by
  unfold unlock
  split <;> next h => rw [h]

theorem lock_snd (t : Table) (token : String) (r : Request) :
    (t.lock token r).2 = (t.acquire token r).2 := by
  unfold lock
  split <;> next h => rw [h]

theorem pollLock_snd (t : Table) (ticket : Nat) : (t.pollLock ticket).2 = (t.poll ticket).2 := by
  unfold pollLock
  split
  · next h => rw [poll_of_unknown h]
  · split <;> next h => rw [h]

theorem staleCause_eq_lockExpired_iff (t : Table) :
    t.staleCause = .lockExpired ↔ t.kind = .timeout := by
  unfold staleCause
  split <;> simp_all

end Table

end KeyedLocks
