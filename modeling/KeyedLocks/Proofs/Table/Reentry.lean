/-
Where the holder of a key may take it again.

Whether a request comes from the holder is decided when the request arrives, and never
again. So a holder who asks is not made to wait (`tryAcquire_of_holder`,
`acquire_of_holder`). A call that blocked before its owner became the holder is another
matter. A grant that ends is passed to the first in the queue and to nobody else, so if one
owner has two calls in the queue of a key, the second stands behind the hold that the first
one got (`second_call_stays_behind_the_first`).

The law of this module is that there is no other case. A waiter whose owner is the holder
stood behind the call that was handed the very grant the key is held under.
-/
import KeyedLocks.Proofs.Table.OneKey

set_option autoImplicit false

namespace KeyedLocks

/-- The moment at which the grant of a holder was handed to the first in the queue of a key,
with a waiter standing somewhere behind. -/
structure Moment.PassesOver (m : Moment) (key : String) (h : Holder) (w : Waiter) : Prop where
  behind : ∃ v rest, m.table.queue key = v :: rest ∧ w ∈ rest ∧ v.request = h.request
  before : m.table.grant? key ≠ some h.grant
  after : m.after.grant? key = some h.grant

namespace Table

variable {t : Table}

/-! ## Requests of the holder -/

section Holder

variable {r : Request} {h : Holder} (may : t.kind = .reentrant)
  (held : t.holder? r.key = some h) (own : r.owner = h.request.owner)
include may held own

/-- **A holder who asks has the key once more**, under the same grant. -/
theorem tryAcquire_of_holder :
    t.tryAcquire r = (.reentered { h.toGrant with holds := h.holds + 1 },
      t.setHolds r.key ⟨h, t.queue r.key⟩ (h.holds + 1)) := by
  have again : (t.reentrant && h.request.sameOwner r) = true := by
    simp only [reentrant, may, Request.sameOwner, own, decide_true, Bool.and_self]
  exact tryAcquire_of_own (slot_of_holder held) again

/-- A holder who would wait if he had to does not have to. -/
theorem acquire_of_holder (token : String) :
    t.acquire token r = (.reentered { h.toGrant with holds := h.holds + 1 },
      t.setHolds r.key ⟨h, t.queue r.key⟩ (h.holds + 1)) := by
  rw [acquire, tryAcquire_of_holder may held own]

end Holder

/-! ## Waiting behind one's own hold -/

/-- Every waiter whose owner is the holder was passed over at some moment. -/
structure Explained (ms : List Moment) (t : Table) : Prop where
  kind : t.kind = .reentrant
  passed : ∀ key h w, t.holder? key = some h → w ∈ t.queue key →
    w.request.owner = h.request.owner → ∃ m ∈ ms, m.PassesOver key h w

/-- **A moment keeps every such waiter explained.** A new one appears only when a key is passed
on, and then this is the moment. It does not appear when a call blocks, for the owner would have
had the key once more. -/
theorem Explained.concat {ms : List Moment} {m : Moment} (s : m.table.Sound)
    (x : Explained ms m.table) : Explained (ms ++ [m]) m.after := by
  have way := m.way s
  refine ⟨way.settings.1.trans x.kind, fun key h w held hw own => ?_⟩
  -- A waiter who was there before is explained by the same moment as before.
  have earlier : ∀ h₀, m.table.holder? key = some h₀ → h₀.Alike h → w ∈ m.table.queue key →
      ∃ n ∈ ms ++ [m], n.PassesOver key h w := by
    intro h₀ held₀ alike hw₀
    obtain ⟨n, hn, passes⟩ := x.passed key h₀ w held₀ hw₀ (by rw [alike.request]; exact own)
    obtain ⟨behind, before, after⟩ := passes
    rw [alike.request] at behind
    rw [alike.grant] at before after
    exact ⟨n, List.mem_append_left _ hn, behind, before, after⟩
  cases way.change key with
  | stays holder queue =>
    obtain ⟨h₀, held₀, alike⟩ := holder h held
    exact earlier h₀ held₀ alike (queue w hw)
  | joins token r asks here waits holder queue =>
    rw [holder] at held
    rw [queue, List.mem_append, List.mem_singleton] at hw
    rcases hw with older | rfl
    · exact earlier h held (.refl h) older
    · subst here
      -- An owner who holds the key does not block, which is what the answer claims.
      have reenters := acquire_of_holder x.kind held own token
      rw [Moment.outcome, asks] at waits
      change Outcome.acquisition (m.table.acquire token r).1 = _ at waits
      rw [reenters] at waits
      cases waits
  | claims r asks here holder queue =>
    rw [queue] at hw
    cases hw
  | passes v rest first holder queue =>
    have next : m.table.newHolder v.request = h := Option.some.inj (holder.symm.trans held)
    rw [queue] at hw
    refine ⟨m, List.mem_append_right _ List.mem_cons_self, ⟨v, rest, first, hw, ?_⟩, ?_, ?_⟩
    · rw [← next]
      rfl
    -- The number of the grant is new, so nobody held the key under it before.
    · intro older
      have le := s.grant?_le older
      rw [← next] at le
      exact absurd le (Nat.not_succ_le_self _)
    · exact grant?_of_holder held

/-- Every waiter of every run is explained. -/
theorem explained_run (leased : Bool) (reaper : Reaper) (horizon : Horizon)
    (es : List Event) :
    Explained ((opening .reentrant leased reaper horizon).history es)
      ((opening .reentrant leased reaper horizon).run es) := by
  refine opening_induction .reentrant leased reaper horizon ⟨rfl, ?_⟩
    (fun ms m s x => x.concat s) es
  intro key h w held
  cases held

/-- **The holder waits behind itself only where it stood behind itself before.** In every table
that a run leads to, a waiter whose owner holds the key was in the queue already when the grant
of that hold was handed on, behind the call that it was handed to. A request that the holder
makes is not one of these: it gets the key once more and the queues stay as they are. And if at
no moment two calls of one owner stood in the queue of one key, nobody waits behind himself. -/
theorem holder_waits_only_behind_an_earlier_call (leased : Bool) (reaper : Reaper)
    (horizon : Horizon) (es : List Event) :
    let t := (opening .reentrant leased reaper horizon).run es
    let ms := (opening .reentrant leased reaper horizon).history es
    (∀ key h w, t.holder? key = some h → w ∈ t.queue key → w.request.owner = h.request.owner →
        ∃ m ∈ ms, m.PassesOver key h w)
      ∧ (∀ r h, t.holder? r.key = some h → r.owner = h.request.owner →
          (t.tryAcquire r).1 = .reentered { h.toGrant with holds := h.holds + 1 }
            ∧ (∀ key, (t.tryAcquire r).2.queue key = t.queue key)
            ∧ ∀ token, t.acquire token r
                = (.reentered { h.toGrant with holds := h.holds + 1 }, (t.tryAcquire r).2))
      ∧ ((∀ m ∈ ms, ∀ key, (m.table.queue key).Pairwise
            fun v w => w.request.owner ≠ v.request.owner) →
          ∀ key h, t.holder? key = some h →
            ∀ w ∈ t.queue key, w.request.owner ≠ h.request.owner) := by
  intro t ms
  have x : Explained ms t := explained_run leased reaper horizon es
  refine ⟨x.passed, fun r h held own => ?_, fun apart key h held w hw own => ?_⟩
  · have slot := slot_of_holder held
    have reenters := tryAcquire_of_holder x.kind held own
    refine ⟨by rw [reenters], fun key => ?_, fun token => ?_⟩
    · rw [reenters, queue_setHolds t slot]
    · rw [acquire_of_holder x.kind held own, reenters]
  · obtain ⟨m, hm, ⟨v, rest, first, later, asked⟩, -, -⟩ := x.passed key h w held hw own
    have order := apart m hm key
    rw [first, List.pairwise_cons] at order
    -- They stood in one queue at that moment, which was ruled out.
    rw [← asked] at own
    exact order.1 w later own

/-- Two calls of one owner block on a key. When the holder gives it back, the first has it and
the second still waits, behind a hold of its own owner. -/
theorem second_call_stays_behind_the_first :
    let a : Request := ⟨"k", 1, ⟨"app", "a"⟩, .reentrant, none, 0⟩
    let b : Request := ⟨"k", 2, ⟨"app", "b"⟩, .reentrant, none, 0⟩
    let t := (opening .reentrant false .absent .widest).run
      [.tryAcquire a, .acquire "" b, .acquire "" b, .release a]
    ¬ ∀ key h, t.holder? key = some h → ∀ w ∈ t.queue key, w.request.owner ≠ h.request.owner := by
  intro a b t never
  have held : t.holder? "k" = some ⟨b, 2, 1, 0, none⟩ := by decide +kernel
  have waits : (⟨1, b⟩ : Waiter) ∈ t.queue "k" := by decide +kernel
  exact never "k" _ held _ waits rfl

end Table

end KeyedLocks
