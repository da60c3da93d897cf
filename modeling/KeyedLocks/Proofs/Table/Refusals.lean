/-
What is left of a request that is turned away.

While an operation is at work a table may look different: an entry is made for the key before
anybody is let in, and a call takes its place in the queue before it looks whether it was called
off. When the operation turns the caller away, nothing of that is left. This is told of loose
tables, where those steps can be seen.

A call that was called off beforehand has drawn a ticket, and tickets are not taken back.
-/
import KeyedLocks.Proofs.Table.Tidy
import KeyedLocks.Proofs.Table.Places

set_option autoImplicit false

namespace KeyedLocks

namespace LooseTable

/-- Makes an entry for a key if there is none. -/
def touch (l : LooseTable) (key : String) : LooseTable := l.put key (l.entry key)

/-! ## An entry that is made first -/

variable (l : LooseTable)

/-- An entry that is made first is the one that would have been assumed. -/
theorem get?_touch (key k : String) :
    (l.touch key).entries.get? k = if k = key then some (l.entry key) else l.entries.get? k :=
  KeyMap.get?_insert _ _ _ _

@[simp] theorem entry_touch (key : String) : (l.touch key).entry key = l.entry key := by
  rw [entry, get?_touch, if_pos rfl]
  rfl

/-- Whatever is written under a key replaces the entry that was made for it. -/
theorem put_touch (key : String) (e : Entry) : (l.touch key).put key e = l.put key e := by
  refine congrArg (fun entries => { l with entries }) (KeyMap.ext_get? fun k => ?_)
  rw [KeyMap.get?_insert, KeyMap.get?_insert, get?_touch]
  split <;> rfl

/-- A held key has its entry already. -/
theorem touch_of_holder {key : String} {h : Holder} (held : (l.entry key).holder = some h) :
    l.touch key = l := by
  refine congrArg (fun entries => { l with entries }) (KeyMap.insert_of_get? ?_)
  cases found : l.entries.get? key with
  -- An entry that is missing has no holder.
  | none =>
    rw [entry, found] at held
    cases held
  | some e =>
    rw [entry, found]
    rfl

/-- **It makes no difference whether the entry is made first**, for whoever is let in under it. -/
theorem letIn_touch (key : String) (r : Request) :
    (l.touch key).letIn key ((l.touch key).entry key) r = l.letIn key (l.entry key) r := by
  rw [entry_touch]
  cases held : (l.entry key).holder with
  | some h => rw [l.touch_of_holder held]
  | none =>
    have install : (l.touch key).install key (l.entry key) r = l.install key (l.entry key) r := by
      simp only [install, put_touch]
      rfl
    simp only [letIn, held, install]

theorem tryAcquire_touch (r : Request) : (l.touch r.key).tryAcquire r = l.tryAcquire r :=
  l.letIn_touch r.key r

theorem acquire_touch (token : String) (r : Request) :
    (l.touch r.key).acquire token r = l.acquire token r := by
  rw [acquire, letIn_touch, acquire]

end LooseTable

/-! ## Nothing is left -/

namespace Table

variable {t : Table}

/-- **A step that is refused** leaves everything as it was. -/
theorem loose_of_refuses (q : t.Queued) {e : Event} (h : (t.loose.step e).1.refuses = true) :
    (t.loose.step e).2 = t.loose := by
  have w := step_way q e
  rw [step_loose q] at h ⊢
  generalize (t.step e).1 = o at w h
  generalize (t.step e).2 = u at w
  cases w with
  | refuse => rfl
  | _ => cases h

/-- **Nothing is left of a request that is turned away.** In every loose table that a run leads to,
a request that finds the key busy, one to give back what another holds or nobody does, and one to
take away a grant that has ended leave the whole table as it was; the entry that is made for the
first of them is no exception. A call that is called off before its first look leaves the number
of its ticket. -/
theorem nothing_is_left_of_a_refusal (kind : LockKind) (leased : Bool) (reaper : Reaper)
    (horizon : Horizon) (es : List Event) :
    let l := (LooseTable.opening kind leased reaper horizon).run es
    (∀ r o u, (l.touch r.key).tryAcquire r = (.busy o, u) → u = l)
      ∧ (∀ r o u, l.release r = (.notHeld o, u) → u = l)
      ∧ (∀ key g u, l.revoke key g = (none, u) → u = l)
      ∧ ∀ token r key u, (l.touch r.key).acquire token r = (.cancelled key, u) →
          u = { l with nextTicket := l.nextTicket + 1 } := by
  intro l
  have s : ((opening kind leased reaper horizon).run es).Sound := sound_run es
  have same : l = ((opening kind leased reaper horizon).run es).loose :=
    (run_loose (sound_opening kind leased reaper horizon) es).1
  rw [same]
  generalize (opening kind leased reaper horizon).run es = t at s
  have stays : ∀ e o u, t.loose.step e = (o, u) → o.refuses = true → u = t.loose := by
    intro e o u step refused
    have after := loose_of_refuses s.toQueued (e := e) (by rw [step]; exact refused)
    rw [step] at after
    exact after
  refine ⟨fun r o u busy => ?_, fun r o u none => ?_, fun key g u stale => ?_,
    fun token r key u cancelled => ?_⟩
  · rw [LooseTable.tryAcquire_touch] at busy
    refine stays (.tryAcquire r) (.admission (.busy o)) u ?_ rfl
    rw [LooseTable.step, busy]
    rfl
  · refine stays (.release r) (.release (.notHeld o)) u ?_ rfl
    rw [LooseTable.step, none]
    rfl
  · refine stays (.revoke key g) (.revocation .none) u ?_ rfl
    rw [LooseTable.step, stale]
    rfl
  · rw [LooseTable.acquire_touch, acquire_loose s.toQueued] at cancelled
    obtain ⟨outcome, rfl⟩ := Prod.mk.inj cancelled
    rw [(acquire_of_cancelled s.toQueued outcome).2.2]
    rfl

end Table

end KeyedLocks
