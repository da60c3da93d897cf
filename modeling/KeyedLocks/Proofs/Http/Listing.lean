/-
The times that a listing tells.

A time is told in whole milliseconds and in a 64-bit word, and nothing looks whether it fits. Of a
time that does not fit the word holds the remainder, so a lock with more time left may show less of
it than another one. A lease may be that long: the clock can follow one to its end that lasts
almost 2^63 seconds, and the word can tell of 2^64 milliseconds.

Below that all times are told as they are. Two facts about runs carry this: a lock has been held
since some moment that is past (`acquiredAt_le_now`), and where locks end by themselves every lock
has a deadline.
-/
import Mathlib.Algebra.Group.Nat.Defs
import KeyedLocks.Proofs.Http.Runs
import KeyedLocks.Proofs.Table.Leases
import KeyedLocks.Service.Status

set_option autoImplicit false

namespace KeyedLocks

/-! ## Words of milliseconds -/

/-- The shortest time that a word of milliseconds cannot tell. -/
def beyondWord : Nat := 2 ^ 64 * millisecond

/-- A word keeps the milliseconds up to a multiple of 2^64. -/
theorem toNat_millisecondsWord (ns : Nat) :
    (millisecondsWord ns).toNat = ns / millisecond % 2 ^ 64 :=
  UInt64.toNat_ofNat'

/-- The word tells all milliseconds exactly if the time is short enough. -/
theorem toNat_millisecondsWord_eq_iff (ns : Nat) :
    (millisecondsWord ns).toNat = ns / millisecond ↔ ns < beyondWord := by
  have pos : 0 < millisecond := by decide
  rw [toNat_millisecondsWord, beyondWord, ← Nat.div_lt_iff_lt_mul pos]
  constructor
  · intro same
    rw [← same]
    exact Nat.mod_lt _ (by decide)
  · exact Nat.mod_eq_of_lt

/-! ## Nobody holds a key from the future -/

namespace Table

variable {t u : Table} {kind : LockKind} {leased : Bool} {reaper : Reaper} {horizon : Horizon}

/-- The clock never goes back. -/
theorem Way.now_le {e : Event} {o : Outcome} (w : Way t e o u) : t.now ≤ u.now := by
  by_cases quiet : o = .done
  · subst quiet
    cases w with
    | refuse refuses => cases refuses
    | aside same => exact same.now
  · exact (congrArg Scene.now (w.scene quiet)).ge

/-- **A key is held since a moment that is past.** -/
theorem acquiredAt_le_now (es : List Event) {key : String} {h : Holder}
    (held : ((opening kind leased reaper horizon).run es).holder? key = some h) :
    h.acquiredAt ≤ ((opening kind leased reaper horizon).run es).now := by
  refine opening_induction kind leased reaper horizon
    (P := fun _ t => ∀ key h, t.holder? key = some h → h.acquiredAt ≤ t.now)
    (fun key h held => by cases held) (fun ms m s ih => ?_) es key h held
  intro key h now
  refine Nat.le_trans ?_ (m.way s).now_le
  rcases (m.way s).keeps_or_makes s.toQueued now with ⟨h₀, before, alike⟩ | made
  · rw [alike.acquiredAt]
    exact ih key h₀ before
  · exact made.acquiredAt.le

end Table

/-! ## The entries of a listing -/

namespace Service

variable {s : Service}

/-- The listing shows every slot of every table, as it looks at the present moment. -/
theorem mem_listing_iff {e : ListingEntry} :
    e ∈ s.listing.locks ↔ ∃ kind key slot, (s.table kind).slots.get? key = some slot
      ∧ e = (Table.HeldKey.ofSlot (s.table kind).now key slot).toEntry kind := by
  simp only [listing, status, Table.snapshot, List.mem_map, List.mem_flatMap]
  constructor
  · rintro ⟨⟨kind, h⟩, ⟨k, -, ⟨h', ⟨⟨key, slot⟩, member, rfl⟩, same⟩⟩, rfl⟩
    cases same
    exact ⟨kind, key, slot, KeyMap.get?_eq_some_iff.2 member, rfl⟩
  · rintro ⟨kind, key, slot, held, rfl⟩
    exact ⟨(kind, _), ⟨kind, kind.mem_all, _, ⟨(key, slot), KeyMap.get?_eq_some_iff.1 held, rfl⟩,
      rfl⟩, rfl⟩

end Service

namespace Http

/-- A word tells a length of time in whole milliseconds: what is left of them after 2^64, so it
tells all of them exactly if the time is short enough. -/
structure Shows (w : UInt64) (ns : Nat) : Prop where
  rest : w.toNat = ns / millisecond % 2 ^ 64
  exact_iff : w.toNat = ns / millisecond ↔ ns < beyondWord

theorem shows_millisecondsWord (ns : Nat) : Shows (millisecondsWord ns) ns :=
  ⟨toNat_millisecondsWord ns, toNat_millisecondsWord_eq_iff ns⟩

/-- Of two times that are told the longer one is told to be no less, if the word can tell it. -/
theorem Shows.le {w w' : UInt64} {ns ns' : Nat} (shows : Shows w ns) (shows' : Shows w' ns')
    (le : ns ≤ ns') (fits : ns' < beyondWord) : w ≤ w' := by
  rw [UInt64.le_iff_toNat_le, shows'.exact_iff.2 fits,
    shows.exact_iff.2 (Nat.lt_of_le_of_lt le fits)]
  exact Nat.div_le_div_right le

/-- An entry tells of a lock since when it is held, and of a timed one how much time is left. Time
that is over counts as none. -/
structure Tells (t : Table) (h : Holder) (e : ListingEntry) : Prop where
  held : t.holder? e.key = some h
  since : h.acquiredAt ≤ t.now
  heldFor : Shows e.heldFor (t.now - h.acquiredAt)
  left : e.kind = .timeout →
    ∃ d w, h.expiresAt = some d ∧ e.expiresIn = some w ∧ Shows w (d - t.now)
  unlimited : e.kind ≠ .timeout → e.expiresIn = none

/-- Only timed entries tell of time that is left. -/
theorem Tells.of_expiresIn {t : Table} {h : Holder} {e : ListingEntry} (tells : Tells t h e)
    {d : Nat} {w : UInt64} (ends : h.expiresAt = some d) (told : e.expiresIn = some w) :
    e.kind = .timeout ∧ Shows w (d - t.now) := by
  have timed : e.kind = .timeout := by
    by_contra other
    rw [tells.unlimited other] at told
    cases told
  obtain ⟨d', w', ends', told', shows⟩ := tells.left timed
  obtain rfl := Option.some.inj (ends.symm.trans ends')
  obtain rfl := Option.some.inj (told.symm.trans told')
  exact ⟨timed, shows⟩

/-- **Every entry tells of a lock.** -/
theorem tells_of_mem_listing (horizon : Horizon) (es : List ServerEvent) {e : ListingEntry}
    (member : e ∈ ((Server.start horizon).run es).service.listing.locks) :
    ∃ h, Tells (((Server.start horizon).run es).service.table e.kind) h e := by
  obtain ⟨kind, key, slot, found, rfl⟩ := Service.mem_listing_iff.1 member
  obtain ⟨fs, same, -⟩ := Server.exists_run es kind
  have held := Table.holder?_of_slot found
  have ends := (Server.sound_run es kind).expiry_eq key slot.holder held
  rw [Server.leased_run] at ends
  refine ⟨slot.holder, held, ?_, shows_millisecondsWord _, fun timed => ?_, fun other => ?_⟩
  -- That the holder is not from the future needs the run of its table; all else can be read off its
  -- slot.
  · change slot.holder.acquiredAt ≤ (((Server.start horizon).run es).service.table kind).now
    rw [same] at held ⊢
    exact Table.acquiredAt_le_now fs held
  · have timed : kind = .timeout := timed
    rw [timed] at ends
    refine ⟨_, _, ends, ?_, shows_millisecondsWord _⟩
    change (slot.holder.expiresAt.map _).map _ = _
    rw [ends]
    rfl
  · have other : kind ≠ .timeout := other
    rw [decide_eq_false other] at ends
    change (slot.holder.expiresAt.map _).map _ = _
    rw [ends]
    rfl

/-- **A listing is exact below 2^64 milliseconds.** Whatever has happened to a server: who asks
for its listing is told of every lock that is held and of no other. Of each the listing tells for
how many whole milliseconds it has been held, and of timed locks, and only of these, how many are
left. A time of 2^64 milliseconds or more is told without what 2^64 goes into, any other as it is,
and as far as that a lock with more time left never shows less of it. -/
theorem listing_is_exact_below_the_word (horizon : Horizon) (es : List ServerEvent) :
    let s := ((Server.start horizon).run es).service
    (∀ m : Message, m.method = "GET" → m.path = "/locks" →
        handle s m = (.answered (jsonAnswer (Wire.listingValue s.listing)), s))
      ∧ (∀ kind key, ((s.table kind).holder? key).isSome = true →
        ∃ e ∈ s.listing.locks, e.kind = kind ∧ e.key = key)
      ∧ (∀ e ∈ s.listing.locks, ∃ h, Tells (s.table e.kind) h e)
      ∧ ∀ e ∈ s.listing.locks, ∀ e' ∈ s.listing.locks, ∀ h h' d d' w w',
        (s.table e.kind).holder? e.key = some h → (s.table e'.kind).holder? e'.key = some h' →
        h.expiresAt = some d → h'.expiresAt = some d' →
        e.expiresIn = some w → e'.expiresIn = some w' →
        d ≤ d' → d' - s.timeout.now < beyondWord → w ≤ w' := by
  intro s
  refine ⟨fun m get path => ?_, fun kind key held => ?_,
    fun e member => tells_of_mem_listing horizon es member, ?_⟩
  · have other : ¬ m.method = "OPTIONS" := by
      rw [get]
      decide
    have route : Route.ofPath? m.path = some .locks := by
      rw [path]
      decide
    rw [handle, if_neg other, route]
    exact if_pos get
  · obtain ⟨h, held⟩ := Option.isSome_iff_exists.1 held
    have found := Table.slot_of_holder held
    exact ⟨_, Service.mem_listing_iff.2 ⟨kind, key, _, found, rfl⟩, rfl, rfl⟩
  · intro e member e' member' h h' d d' w w' held held' ends ends' told told' le fits
    obtain ⟨_, tells⟩ := tells_of_mem_listing horizon es member
    obtain ⟨_, tells'⟩ := tells_of_mem_listing horizon es member'
    obtain rfl := Option.some.inj (held.symm.trans tells.held)
    obtain rfl := Option.some.inj (held'.symm.trans tells'.held)
    obtain ⟨timed, shows⟩ := tells.of_expiresIn ends told
    obtain ⟨timed', shows'⟩ := tells'.of_expiresIn ends' told'
    rw [timed] at shows
    rw [timed'] at shows'
    -- Within the word the order of times is the order of words, and the earlier deadline is within
    -- it if the later is.
    exact shows.le shows' (Nat.sub_le_sub_right le _) fits

/-- A lease of 18446744073709552 seconds is 384 milliseconds longer than the word can tell, and so
it shows less than one of a second. -/
theorem long_lease_shows_little :
    let ask (key : String) (magnitude : Int64) : Message :=
      ⟨"POST", "/locks/try-lock", [("content-type", "application/json")],
        Text.encode (Wire.requestValue
          ⟨key, 1, ⟨"app", "main"⟩, .timeout, some ⟨magnitude, .seconds⟩, 0⟩).chars⟩
    let s := ((Server.start .widest).run
      [.receive (ask "a" 1), .receive (ask "b" 18446744073709552)]).service
    ¬ ∀ e ∈ s.listing.locks, ∀ h d, (s.table e.kind).holder? e.key = some h →
      h.expiresAt = some d →
      e.expiresIn.map UInt64.toNat = some ((d - (s.table e.kind).now) / millisecond) := by
  intro ask s always
  have listed : s.listing.locks = [⟨.timeout, "a", ⟨"app", "main"⟩, 1, 0, 0, some 1000⟩,
      ⟨.timeout, "b", ⟨"app", "main"⟩, 1, 0, 0, some 384⟩] := by
    decide +kernel
  have held : (s.timeout.holder? "b").bind Holder.expiresAt
      = some (18446744073709552 * second) := by
    decide +kernel
  have now : s.timeout.now = 0 := by decide +kernel
  -- Nothing else is needed of the server.
  clear_value s
  obtain ⟨h, held, ends⟩ := Option.bind_eq_some_iff.1 held
  rw [listed] at always
  have told := always _ (List.mem_cons_of_mem _ List.mem_cons_self)
  have told := told h _ held ends
  change some 384 = some ((18446744073709552 * second - s.timeout.now) / millisecond) at told
  rw [now] at told
  exact absurd told (by decide)

end Http

end KeyedLocks
