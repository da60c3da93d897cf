/-
Deadlines and their records.

The deadline of a grant is fixed when the grant is made (`expiry_eq`). A record is put
into the delay queue then and stays there until its time has come, so most records
that are found later are stale. What keeps a stale record from harm is that it names
its grant: a record and a holder with one number agree on the key and on the deadline
(`record_holder`).
-/
import KeyedLocks.Proofs.Table.Numbering

set_option autoImplicit false

namespace KeyedLocks

namespace Table

/-- Deadlines are as they were given, and a record that names a holder is that
holder's own. -/
structure Scheduled (t : Table) : Prop where
  expiry_eq : ∀ key h, t.holder? key = some h →
    h.expiresAt = if t.leased then some (t.horizon.deadline h.acquiredAt h.request.lease) else none
  record_le : ∀ r ∈ t.delays.records, r.grant ≤ t.lastGrant
  record_holder : ∀ r ∈ t.delays.records, ∀ key h, t.holder? key = some h → h.grant = r.grant →
    r.key = key ∧ h.expiresAt = some r.deadline

namespace Scheduled

variable {t : Table}

/-- What makes neither holders nor records keeps the deadlines. -/
theorem mono (d : t.Scheduled) {u : Table} (holders : t.KeepsHolders u)
    (records : ∀ r ∈ u.delays.records, r ∈ t.delays.records)
    (last : u.lastGrant = t.lastGrant) (leased : u.leased = t.leased)
    (horizon : u.horizon = t.horizon) : u.Scheduled where
  expiry_eq key h held := by
    obtain ⟨h₀, held₀, alike⟩ := holders key h held
    rw [alike.expiresAt, alike.acquiredAt, alike.request, leased, horizon]
    exact d.expiry_eq key h₀ held₀
  record_le r hr := by
    rw [last]
    exact d.record_le r (records r hr)
  record_holder r hr key h held mine := by
    obtain ⟨h₀, held₀, alike⟩ := holders key h held
    rw [alike.grant] at mine
    rw [alike.expiresAt]
    exact d.record_holder r (records r hr) key h₀ held₀ mine

/-- A new grant gets a deadline and a record that agree, under a number that no record has yet. -/
theorem install (d : t.Scheduled) (n : t.Numbered) (key : String) (r : Request)
    (ws : List Waiter) : (t.install key r ws).2.Scheduled where
  expiry_eq k h held := by
    rw [holder?_install] at held
    split at held
    · rw [← Option.some.inj held]; rfl
    · exact d.expiry_eq k h held
  record_le record member := by
    rw [lastGrant_install]
    rcases t.mem_records_install member with older | ⟨-, mine, -⟩
    · exact Nat.le_succ_of_le (d.record_le record older)
    · exact Nat.le_of_eq mine
  record_holder record member k h held mine := by
    rw [holder?_install] at held
    -- Old records name old holders only, and the new record names the new one only.
    rcases t.mem_records_install member with older | ⟨here, number, due⟩ <;> split at held
    · have bound := d.record_le record older
      rw [← mine, ← Option.some.inj held] at bound
      exact absurd bound (Nat.not_succ_le_self _)
    · exact d.record_holder record older k h held mine
    · next same => exact ⟨here.trans same.symm, by rw [← Option.some.inj held]; exact due⟩
    · have bound := n.grant_le k h held
      rw [mine, number] at bound
      exact absurd bound (Nat.not_succ_le_self _)

/-- Passing a key on makes at most one grant, and drops a holder. -/
theorem handOn (d : t.Scheduled) (n : t.Numbered) (key : String) (ws : List Waiter) :
    (t.handOn key ws).2.Scheduled := by
  cases ws with
  -- A key that becomes free leaves its record behind, which names nobody from then on.
  | nil => exact d.mono (.handOn_nil t key) (fun r hr => hr) rfl rfl rfl
  | cons w ws =>
    have made := d.install n key w.request ws
    exact made.mono (.of_eq fun k => rfl) (fun r hr => hr) rfl rfl rfl

end Scheduled

end Table

end KeyedLocks
