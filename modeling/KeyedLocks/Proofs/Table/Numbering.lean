/-
Numbers of grants.

No number is given to two grants: a new grant gets the number after the last one,
and every number that can still be found somewhere, with a holder or with a call that
has not fetched its grant, is the last one at most (`grant_le`, `permit_le`). So a
number leads to one holder (`grant_inj`) and to one call (`permit_inj`), and where
both have it they belong together (`permit_holder`).

A number outlives its grant. A call may keep a grant that has ended long ago; nothing
here says that somebody holds a key under it.
-/
import KeyedLocks.Proofs.Table.Queueing

set_option autoImplicit false

namespace KeyedLocks

namespace Table

/-- Every number in use was given once. -/
structure Numbered (t : Table) : Prop where
  holder_key : ∀ key h, t.holder? key = some h → h.request.key = key
  grant_le : ∀ key h, t.holder? key = some h → h.grant ≤ t.lastGrant
  grant_inj : ∀ key key' h h', t.holder? key = some h → t.holder? key' = some h' →
    h.grant = h'.grant → key = key'
  permit_le : ∀ c ∈ t.calls, ∀ g, c.permit = some g → g.id ≤ t.lastGrant
  permit_inj : ∀ c ∈ t.calls, ∀ d ∈ t.calls, ∀ g g', c.permit = some g → d.permit = some g' →
    g.id = g'.id → c = d
  permit_holder : ∀ c ∈ t.calls, ∀ g, c.permit = some g → ∀ key h, t.holder? key = some h →
    h.grant = g.id → h.request = c.request ∧ h.expiresAt = g.expiresAt

/-- Whoever holds a key held it before, under the same grant. -/
def KeepsHolders (t u : Table) : Prop :=
  ∀ key h, u.holder? key = some h → ∃ h₀, t.holder? key = some h₀ ∧ h.Alike h₀

theorem KeepsHolders.of_eq {t u : Table} (same : ∀ key, u.holder? key = t.holder? key) :
    t.KeepsHolders u :=
  fun key h held => ⟨h, same key ▸ held, .refl h⟩

/-- Counting holds alters nothing else about the holder. -/
theorem KeepsHolders.setHolds {t : Table} {key : String} {s : Slot}
    (held : t.slots.get? key = some s) (holds : UInt32) :
    t.KeepsHolders (t.setHolds key s holds) := by
  intro k h now
  rw [holder?_setHolds] at now
  split at now
  · next same =>
    obtain rfl := Option.some.inj now
    exact ⟨s.holder, same ▸ holder?_of_slot held, rfl, rfl, rfl, rfl⟩
  · exact ⟨h, now, .refl h⟩

/-- A key that nobody waits for loses its holder and gets none. -/
theorem KeepsHolders.handOn_nil (t : Table) (key : String) :
    t.KeepsHolders (t.handOn key []).2 := by
  intro k h now
  rw [holder?_handOn] at now
  split at now
  · cases now
  · exact ⟨h, now, .refl h⟩

namespace Numbered

variable {t : Table}

/-- Where a grant that a call has not fetched still holds a key, it is the key the call
asked for. -/
theorem permit_key (n : t.Numbered) {c : Call} (hc : c ∈ t.calls) {g : Grant}
    (ready : c.permit = some g) {key : String} {h : Holder} (held : t.holder? key = some h)
    (mine : h.grant = g.id) : key = c.request.key := by
  rw [← (n.permit_holder c hc g ready key h held mine).1]
  exact (n.holder_key key h held).symm

theorem grant?_le (n : t.Numbered) {key : String} {g : Nat} (held : t.grant? key = some g) :
    g ≤ t.lastGrant := by
  obtain ⟨h, holder, rfl⟩ := exists_holder_of_grant held
  exact n.grant_le key h holder

/-- A grant is on one key only. -/
theorem grant?_inj (n : t.Numbered) {key key' : String} {g : Nat} (held : t.grant? key = some g)
    (held' : t.grant? key' = some g) : key = key' := by
  obtain ⟨h, holder, rfl⟩ := exists_holder_of_grant held
  obtain ⟨h', holder', same⟩ := exists_holder_of_grant held'
  exact n.grant_inj key key' h h' holder holder' same.symm

/-! ## The operations keep it -/

/-- What makes neither holders nor grants keeps the numbers apart. -/
theorem mono (n : t.Numbered) {u : Table} (holders : t.KeepsHolders u)
    (calls : ∀ c ∈ u.calls, ∀ g, c.permit = some g → c ∈ t.calls)
    (last : u.lastGrant = t.lastGrant) : u.Numbered where
  holder_key key h held := by
    obtain ⟨h₀, held₀, alike⟩ := holders key h held
    rw [alike.request]
    exact n.holder_key key h₀ held₀
  grant_le key h held := by
    obtain ⟨h₀, held₀, alike⟩ := holders key h held
    rw [alike.grant, last]
    exact n.grant_le key h₀ held₀
  grant_inj key key' h h' held held' same := by
    obtain ⟨h₀, held₀, alike⟩ := holders key h held
    obtain ⟨h₁, held₁, alike'⟩ := holders key' h' held'
    rw [alike.grant, alike'.grant] at same
    exact n.grant_inj key key' h₀ h₁ held₀ held₁ same
  permit_le c hc g ready := by
    rw [last]
    exact n.permit_le c (calls c hc g ready) g ready
  permit_inj c hc d hd g g' ready ready' same :=
    n.permit_inj c (calls c hc g ready) d (calls d hd g' ready') g g' ready ready' same
  -- What a call was handed is held as it was, since holders keep request and deadline with the
  -- number.
  permit_holder c hc g ready key h held mine := by
    obtain ⟨h₀, held₀, alike⟩ := holders key h held
    rw [alike.grant] at mine
    rw [alike.request, alike.expiresAt]
    exact n.permit_holder c (calls c hc g ready) g ready key h₀ held₀ mine

/-- A new grant gets a number that nobody has. -/
theorem install (n : t.Numbered) (r : Request) (ws : List Waiter) :
    (t.install r.key r ws).2.Numbered where
  holder_key key h held := by
    rw [holder?_install] at held
    split at held
    · next same => rw [← Option.some.inj held, same]; rfl
    · exact n.holder_key key h held
  grant_le key h held := by
    rw [holder?_install] at held
    rw [lastGrant_install]
    split at held
    · rw [← Option.some.inj held]; exact Nat.le_refl _
    · exact Nat.le_succ_of_le (n.grant_le key h held)
  grant_inj key key' h h' held held' same := by
    rw [holder?_install] at held held'
    -- The next number is above all that are held, so two holders share one only if they did before.
    have fresh : ∀ k x, t.holder? k = some x → x.grant ≠ t.lastGrant + 1 := by
      intro k x hx
      have bound := n.grant_le k x hx
      omega
    split at held <;> split at held'
    · next mine mine' => rw [mine, mine']
    · rw [← Option.some.inj held] at same
      exact absurd same.symm (fresh key' h' held')
    · rw [← Option.some.inj held'] at same
      exact absurd same (fresh key h held)
    · exact n.grant_inj key key' h h' held held' same
  permit_le c hc g ready := Nat.le_succ_of_le (n.permit_le c hc g ready)
  permit_inj := n.permit_inj
  permit_holder c hc g ready key h held mine := by
    rw [holder?_install] at held
    split at held
    -- No call can have the new number, as it is above all that were handed out.
    · have bound := n.permit_le c hc g ready
      rw [← mine, ← Option.some.inj held] at bound
      exact absurd bound (Nat.not_succ_le_self _)
    · exact n.permit_holder c hc g ready key h held mine

/-- **A grant is laid ready** for one call only. The grant must be new, and its holder
must be the request of that call. -/
theorem deliver (n : t.Numbered) {c : Call} (only : ∀ d ∈ t.calls, d.ticket = c.ticket → d = c)
    {key : String} {h : Holder} (held : t.holder? key = some h) (mine : h.request = c.request)
    (fresh : ∀ d ∈ t.calls, ∀ g, d.permit = some g → g.id ≠ h.grant) :
    (t.deliver c.ticket h.toGrant).Numbered := by
  -- A call with a grant had it before, or it is the one that was just served.
  have cases : ∀ d ∈ (t.deliver c.ticket h.toGrant).calls, ∀ g, d.permit = some g →
      d ∈ t.calls ∨ d = { c with permit := some h.toGrant } ∧ g = h.toGrant := by
    intro d hd g ready
    obtain ⟨e, he, rfl⟩ := List.mem_map.1 hd
    by_cases served : e.ticket = c.ticket
    · rw [if_pos served] at ready ⊢
      rw [only e he served]
      exact .inr ⟨rfl, (Option.some.inj ready).symm⟩
    · rw [if_neg served]
      exact .inl he
  refine ⟨n.holder_key, n.grant_le, n.grant_inj, ?_, ?_, ?_⟩
  · intro d hd g ready
    rcases cases d hd g ready with older | ⟨-, rfl⟩
    · exact n.permit_le d older g ready
    · exact n.grant_le key h held
  · intro d hd e he g g' ready ready' same
    rcases cases d hd g ready with older | ⟨rfl, rfl⟩ <;>
      rcases cases e he g' ready' with older' | ⟨rfl, rfl⟩
    · exact n.permit_inj d older e older' g g' ready ready' same
    · exact absurd same (fresh d older g ready)
    · exact absurd same.symm (fresh e older' g' ready')
    · rfl
  · intro d hd g ready k x hx named
    rcases cases d hd g ready with older | ⟨rfl, rfl⟩
    · exact n.permit_holder d older g ready k x hx named
    · change t.holder? k = some x at hx
      rw [n.grant_inj k key x h hx held named, held] at hx
      rw [← Option.some.inj hx]
      exact ⟨mine, rfl⟩

/-- Passing a key on gives the first in its queue the next number, with the holder and the call
alike. -/
theorem handOn (n : t.Numbered) (q : t.Queued) (key : String) :
    (t.handOn key (t.queue key)).2.Numbered := by
  cases waiting : t.queue key with
  | nil => exact n.mono (.handOn_nil t key) (fun c hc _ _ => hc) rfl
  | cons w ws =>
    obtain ⟨c, hc, -, rfl, rfl⟩ := q.exists_call_of_mem (waiting ▸ List.mem_cons_self)
    have held : (t.install c.request.key c.request ws).2.holder? c.request.key
        = some (t.newHolder c.request) := by
      rw [holder?_install, if_pos rfl]
    -- The number is new, so it lies ready for no other call.
    refine (n.install c.request ws).deliver (fun d hd same => q.call_unique hd hc same) held rfl ?_
    intro d hd g ready named
    have bound := n.permit_le d hd g ready
    rw [named] at bound
    exact Nat.not_succ_le_self _ bound

end Numbered

end Table

end KeyedLocks
