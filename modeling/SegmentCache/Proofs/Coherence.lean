import SegmentCache.Proofs.Moves

/-!
# Coherence of the state

The table, its index and counters, the copy for clients and the locks are written by separate
steps, and a message may fail between them. `Coherent` says how they belong together. Every move
keeps it, so it holds in every state that a cache can get into.
-/

namespace SegmentCache

/-- The later entry agrees with the earlier one in every field but the hits, and these have not
gone down. -/
def Entry.SameObject (earlier later : Entry) : Prop :=
  later = { earlier with hits := later.hits } ∧ earlier.hits ≤ later.hits

/-- Every entry describes its own object. -/
theorem Entry.SameObject.refl (entry : Entry) : entry.SameObject entry :=
  ⟨rfl, UInt64.le_refl _⟩

/-- An object stays the same over two stretches if it does over each. -/
theorem Entry.SameObject.trans {first second third : Entry} (hfirst : first.SameObject second)
    (hsecond : second.SameObject third) : first.SameObject third := by
  obtain ⟨hsame, hgrown⟩ := hfirst
  obtain ⟨hsame', hgrown'⟩ := hsecond
  refine ⟨?_, UInt64.le_trans hgrown hgrown'⟩
  rw [hsame', hsame]

/-- Counting a hit leaves the object as it is. -/
theorem Entry.sameObject_hit (entry : Entry) :
    entry.SameObject { entry with hits := Word.addSat entry.hits 1 } := by
  refine ⟨rfl, ?_⟩
  have hbound := entry.hits.toNat_lt
  rw [UInt64.le_iff_toNat_le, Word.toNat_addSat, Word.size_eq]
  omega

/-- Whether a message asks to unlock a name. -/
def Message.unlocks (name : String) : Message → Bool
  | .unlock fileName => entryKey fileName = name
  | _ => false

namespace State

/-- The parts of a state belong together. -/
structure Coherent (state : State) : Prop where
  /-- The index agrees with the entries. -/
  indexed : state.table.Indexed
  /-- The byte counters are exact. -/
  counted : state.table.Counted
  /-- Clients see the entries as they are. -/
  replica : state.replica = state.table.entries
  /-- Only entries that are there are locked. -/
  locked : ∀ {name}, state.locks.isLocked name = true → state.table.contains name = true

/-- A cache that holds nothing yet is coherent. -/
theorem Coherent.initial (config : Config) (store : Store) (files : FileTree) (clock : String) :
    (State.initial config store files clock).Coherent where
  indexed := Table.Indexed.empty
  counted := Table.Counted.empty
  replica := rfl
  locked h := by simp [State.initial, LockSet.empty, LockSet.isLocked] at h

/-- Locking adds the name to those that are locked. -/
theorem isLocked_of_lock {locks next : LockSet} {name other : String}
    (hlock : locks.lock name = .ok next) :
    next.isLocked other = true ↔ other = name ∨ locks.isLocked other = true := by
  unfold LockSet.lock at hlock
  split at hlock
  · cases hlock
  · cases hlock
    simp [LockSet.isLocked, @eq_comm _ other name]

/-- Unlocking takes the name from those that are locked. -/
theorem isLocked_of_unlock {locks next : LockSet} {name other : String}
    (hunlock : locks.unlock name = .ok next) :
    next.isLocked other = true ↔ other ≠ name ∧ locks.isLocked other = true := by
  unfold LockSet.unlock at hunlock
  split at hunlock
  · cases hunlock
    simp [LockSet.isLocked, @eq_comm _ other name]
  · cases hunlock

/-- The entry under a locked name outlasts every move and stays the same object. -/
theorem Move.entry_kept {message : Message} {state next : State} (hmove : Move message state next)
    {name : String} (hlocked : state.locks.isLocked name = true) {entry : Entry}
    (hfound : state.table.get? name = some entry) :
    ∃ later, next.table.get? name = some later ∧ entry.SameObject later := by
  cases hmove with
  | beside => exact ⟨entry, hfound, .refl entry⟩
  | lock => exact ⟨entry, hfound, .refl entry⟩
  | unlock => exact ⟨entry, hfound, .refl entry⟩
  | @hit hitName table hits hhit =>
    obtain ⟨counted, hcounted, hhits, -⟩ := Table.recordHit_eq_some hhit
    by_cases hname : hitName = name
    · subst hname
      obtain rfl : entry = counted := Option.some.inj (hfound.symm.trans hcounted)
      refine ⟨{ entry with hits := hits }, ?_, ?_⟩
      · simp [Table.get?_recordHit hhit hcounted]
      · rw [hhits]
        exact entry.sameObject_hit
    · refine ⟨entry, ?_, .refl entry⟩
      simpa [Table.get?_recordHit hhit hcounted, hname] using hfound
  | @drop dropped table gone hunlocked hremove =>
    have hname : dropped ≠ name := by
      rintro rfl
      simp [hunlocked] at hlocked
    refine ⟨entry, ?_, .refl entry⟩
    simpa [release_state, Table.get?_remove hremove, hname] using hfound
  | @add added hfree hhits hfits =>
    have hname : added.name ≠ name := by
      rintro rfl
      simp [Table.contains_eq_false_iff.mp hfree] at hfound
    refine ⟨entry, ?_, .refl entry⟩
    simpa [Table.get?_put hfree, hname] using hfound

/-- A move unlocks a name only when its message asks for it. -/
theorem Move.stays_locked {message : Message} {state next : State}
    (hmove : Move message state next) {name : String} (hlocked : state.locks.isLocked name = true)
    (hkept : message.unlocks name = false) : next.locks.isLocked name = true := by
  cases hmove with
  | beside => exact hlocked
  | hit => exact hlocked
  | drop => simpa [release_state] using hlocked
  | add => exact hlocked
  | lock hknown hlock => exact (isLocked_of_lock hlock).mpr (Or.inr hlocked)
  | @unlock fileName locks hmessage hunlock =>
    refine (isLocked_of_unlock hunlock).mpr ⟨?_, hlocked⟩
    rintro rfl
    simp [hmessage, Message.unlocks] at hkept

/-- A move locks only a name that is there, and then leaves the table as it is. -/
theorem Move.was_locked {message : Message} {state next : State} (hmove : Move message state next)
    {name : String} (hlocked : next.locks.isLocked name = true) :
    state.locks.isLocked name = true ∨ next.table.contains name = true := by
  cases hmove with
  | beside => exact Or.inl hlocked
  | hit => exact Or.inl hlocked
  | drop => exact Or.inl (by simpa [release_state] using hlocked)
  | add => exact Or.inl hlocked
  | lock hknown hlock =>
    rcases (isLocked_of_lock hlock).mp hlocked with rfl | hbefore
    · exact Or.inr hknown
    · exact Or.inl hbefore
  | unlock hmessage hunlock => exact Or.inl ((isLocked_of_unlock hunlock).mp hlocked).2

/-- Every move writes to the copy for clients what it writes to the table. -/
theorem Move.replica_eq {message : Message} {state next : State} (hmove : Move message state next)
    (hindexed : state.table.Indexed) (hreplica : state.replica = state.table.entries) :
    next.replica = next.table.entries := by
  cases hmove with
  | beside => exact hreplica
  | lock => exact hreplica
  | unlock => exact hreplica
  | @hit name table hits hhit =>
    obtain ⟨entry, hfound, -, htable⟩ := Table.recordHit_eq_some hhit
    have hfound' : state.table.entries[name]? = some entry := hfound
    apply Std.ExtTreeMap.ext_getElem?
    intro other
    by_cases hname : name = other
    · subst hname
      simp [htable, hreplica, hfound']
    · simp [htable, hreplica, hname, Std.ExtTreeMap.getElem?_modify,
        Std.ExtTreeMap.getElem?_insert]
  | @drop name table entry hunlocked hremove =>
    obtain ⟨hfound, hentries, -, -⟩ := Table.remove_eq_ok hremove
    simp [release_state, hreplica, hentries, hindexed.named hfound]
  | @add entry hfree hhits hfits =>
    have hentry : { entry with hits := 0 } = entry := by rw [← hhits]
    simp [Table.put_of_free hfree, hreplica, hentry]

/-- Where the counters are exact, a move leaves the table alone or operates on it exactly. -/
theorem Move.table_step {message : Message} {state next : State} (hmove : Move message state next)
    (hcounted : state.table.Counted) :
    next.table = state.table ∨ Table.ExactStep state.table next.table := by
  cases hmove with
  | beside => exact Or.inl rfl
  | lock => exact Or.inl rfl
  | unlock => exact Or.inl rfl
  | hit hhit => exact Or.inr (.recordHit hhit)
  | @drop name table entry hunlocked hremove =>
    have hexact := hcounted.toNat_usedBytes_remove hremove entry.locality
    refine Or.inr ?_
    rw [release_state]
    exact .remove hremove (by simpa [Entry.bytesAt] using hexact)
  | @add entry hfree hhits hfits =>
    have hexact := Table.toNat_usedBytes_put hfree hfits entry.locality
    exact Or.inr (.put hfree (by simpa [Entry.bytesAt] using hexact))

/-- Every move keeps the state coherent. -/
theorem Move.coherent {message : Message} {state next : State} (hmove : Move message state next)
    (hcoherent : state.Coherent) : next.Coherent where
  indexed := by
    rcases hmove.table_step hcoherent.counted with hsame | hstep
    · exact hsame ▸ hcoherent.indexed
    · exact hstep.indexed hcoherent.indexed
  counted := by
    rcases hmove.table_step hcoherent.counted with hsame | hstep
    · exact hsame ▸ hcoherent.counted
    · exact hstep.counted hcoherent.counted
  replica := hmove.replica_eq hcoherent.indexed hcoherent.replica
  locked := by
    intro name hlocked
    rcases hmove.was_locked hlocked with hbefore | hthere
    · obtain ⟨entry, hfound⟩ := Table.contains_iff.mp (hcoherent.locked hbefore)
      obtain ⟨later, hlater, -⟩ := hmove.entry_kept hbefore hfound
      exact Table.contains_iff.mpr ⟨later, hlater⟩
    · exact hthere

end State

end SegmentCache
