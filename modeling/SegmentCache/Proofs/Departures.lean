import SegmentCache.Proofs.EvictionPrefix
import SegmentCache.Proofs.Incarnations
import SegmentCache.Proofs.Ownership

/-!
# What leaves, and what is read of the store

A message takes out of the table the entry it removes or replaces and the entries it evicts, and
discards their segments. `leaving` lists these entries. Which they are does not depend on the
store. Of the store a message reads one thing only: the segment that it copies to a device.
`handle_withStore` and `handle_settles` say so, for messages that bring in no object and for those
that do: handled on another store, a message does the same, with the segments of the entries that
leave discarded there.
-/

namespace SegmentCache

namespace Store

/-- The store without segments. -/
def discardAll (store : Store) (handles : List String) : Store :=
  handles.foldl discard store

/-- Discarding a segment shows under its handle only. -/
theorem get?_discard (store : Store) (handle other : String) :
    (store.discard handle).get? other = if handle = other then none else store.get? other := by
  simp [get?, discard, Std.ExtTreeMap.getElem?_erase]

/-- Discarding segments shows under their handles only. -/
theorem get?_discardAll (store : Store) (handles : List String) (other : String) :
    (store.discardAll handles).get? other =
      if other ∈ handles then none else store.get? other := by
  induction handles generalizing store with
  | nil => simp [discardAll]
  | cons handle handles ih =>
    have hlater := ih (store.discard handle)
    rw [discardAll, List.foldl_cons]
    rw [discardAll] at hlater
    rw [hlater, get?_discard]
    by_cases hsame : other = handle
    · simp [hsame]
    · simp [hsame, Ne.symm hsame]

/-- Segments can be discarded in two stretches. -/
theorem discardAll_append (store : Store) (earlier later : List String) :
    store.discardAll (earlier ++ later) = (store.discardAll earlier).discardAll later :=
  List.foldl_append

/-- Discarding segments keeps the counter and the limit. -/
theorem discardAll_frame (store : Store) (handles : List String) :
    (store.discardAll handles).next = store.next ∧
      (store.discardAll handles).limit = store.limit := by
  induction handles generalizing store with
  | nil => exact ⟨rfl, rfl⟩
  | cons handle handles ih => exact ih (store.discard handle)

end Store

/-- The key that a message is about. -/
def Message.key? (message : Message) : Option String :=
  message.fileName?.map entryKey

namespace State

/-- The state on another store. -/
def withStore (state : State) (store : Store) : State :=
  { state with store := store }

/-- The entries that have to leave for an object when its name is free. -/
def evictedFor (state : State) (insertion : Insertion) : List Entry :=
  match state.config.capacityFor insertion.locality with
  | none => []
  | some capacity =>
    (state.table.makeRoom state.locks insertion.locality insertion.size capacity).evicted

/-- The entries that leave the table when a message is handled, in the order in which they do: the
one that is removed or replaced, unless it is locked, and those that are evicted. -/
def leaving (state : State) (message : Message) : List Entry :=
  match message with
  | .remove fileName => if state.isLocked fileName then [] else (state.entry? fileName).toList
  | message =>
    match state.insertion? message with
    | none => []
    | some insertion =>
      if state.table.contains insertion.name && state.locks.isLocked insertion.name then []
      else
        (state.table.get? insertion.name).toList ++
          (state.vacate insertion.name).1.evictedFor insertion

/-- The handles of the segments that are discarded when a message is handled. -/
def released (state : State) (message : Message) : List String :=
  (state.leaving message).map (·.handle)

/-- The handle of the buffer that a message is to copy its object to. -/
def buffer? (state : State) : Message → Option String
  | .putGpu offer =>
    (state.config.deviceAt offer.bus).map fun device => state.store.nextBuffer device.id
  | _ => none

variable {state : State} {message : Message} {insertion : Insertion}

/-- Letting go of entries does the same on any store, and discards their segments there. -/
theorem releaseAll_withStore (entries : List Entry) (state : State) (store : Store) :
    ((state.withStore store).releaseAll entries).1 =
      (state.releaseAll entries).1.withStore (store.discardAll (entries.map (·.handle))) := by
  induction entries generalizing state store with
  | nil => rfl
  | cons entry entries ih =>
    have hlater := ih (state.release entry).1 (store.discard entry.handle)
    simp only [release_state] at hlater
    simp only [releaseAll, release_state]
    exact hlater

/-- Letting go of entries does not touch the table, which they have left before. -/
theorem releaseAll_table (entries : List Entry) (state : State) :
    (state.releaseAll entries).1.table = state.table := by
  induction entries generalizing state with
  | nil => rfl
  | cons entry entries ih =>
    have hlater := ih (state.release entry).1
    rw [release_state] at hlater
    simpa only [releaseAll, release_state] using hlater

/-- The table when room has been made. -/
theorem makeRoom_table (state : State) (name : String) (locality : Locality)
    (size capacity : UInt64) :
    (state.makeRoom name locality size capacity).1.table =
      (state.table.makeRoom state.locks locality size capacity).table := by
  rw [makeRoom_state, ← releaseAll_evict, releaseAll_table]
  rfl

/-- Letting go of the entry under a name does the same on any store, and discards its segment
there. -/
theorem vacate_withStore (state : State) (name : String) (store : Store) :
    ((state.withStore store).vacate name).1 =
      (state.vacate name).1.withStore
        (store.discardAll ((state.table.get? name).toList.map (·.handle))) := by
  unfold vacate
  cases hfound : state.table.get? name with
  | none => simp [withStore, Table.remove, hfound, Store.discardAll]
  | some entry => simp [withStore, Table.remove, hfound, release_state, Store.discardAll]

/-- Making room does the same on any store, and discards the segments of what leaves there. -/
theorem makeRoom_withStore (state : State) (name : String) (locality : Locality)
    (size capacity : UInt64) (store : Store) :
    ((state.withStore store).makeRoom name locality size capacity).1 =
      (state.makeRoom name locality size capacity).1.withStore
        (store.discardAll
          ((state.table.makeRoom state.locks locality size capacity).evicted.map (·.handle))) := by
  rw [makeRoom_state, makeRoom_state, ← releaseAll_evict, ← releaseAll_evict]
  exact releaseAll_withStore _
    { state with table := (state.table.makeRoom state.locks locality size capacity).table } store

/-- A name has a locked entry, or an object may come in under it. -/
theorem locked_or_open (state : State) (name : String) :
    (state.table.contains name = true ∧ state.locks.isLocked name = true) ∨
      (state.table.contains name = true → state.locks.isLocked name = false) := by
  cases state.table.contains name <;> cases state.locks.isLocked name <;> simp

/-- An object comes in under the key that its message is about. -/
theorem key?_of_insertion? (hbrings : state.insertion? message = some insertion) :
    message.key? = some insertion.name := by
  obtain ⟨offer, rfl, -, rfl⟩ | ⟨offer, device, rfl, -, -, rfl⟩ | ⟨offer, rfl, rfl⟩ :=
    insertion?_cases hbrings
  all_goals rfl

/-- A message brings in the same object on any store. -/
theorem insertion?_withStore (state : State) (message : Message) (store : Store) :
    (state.withStore store).insertion? message = state.insertion? message := by
  cases message <;> rfl

/-- What a message that is refused for a locked entry leaves, or one that brings in no object and
does not remove: nothing. -/
theorem leaving_of_none (hremove : ∀ fileName, message ≠ .remove fileName)
    (hnone : state.insertion? message = none) : state.leaving message = [] := by
  cases message with
  | remove fileName => exact absurd rfl (hremove fileName)
  | _ => simp [leaving, hnone]

/-- What leaves for an object: the entry that it replaces, and what is evicted when that is
gone. -/
theorem leaving_of_insertion (hbrings : state.insertion? message = some insertion)
    (hopen : state.table.contains insertion.name = true →
      state.locks.isLocked insertion.name = false) {capacity : UInt64}
    (hcapacity : state.config.capacityFor insertion.locality = some capacity) :
    state.leaving message =
      (state.table.get? insertion.name).toList ++
        ((state.vacate insertion.name).1.table.makeRoom state.locks insertion.locality
          insertion.size capacity).evicted := by
  have hfree : ¬ (state.table.contains insertion.name && state.locks.isLocked insertion.name) =
      true := by
    simpa using hopen
  have hconfig : (state.vacate insertion.name).1.config = state.config := by
    obtain ⟨table, replica, store, hframe⟩ := state.vacate_frame insertion.name
    rw [hframe]
  have hleaving : state.leaving message = (state.table.get? insertion.name).toList ++
      (state.vacate insertion.name).1.evictedFor insertion := by
    obtain ⟨offer, rfl, -⟩ | ⟨offer, device, rfl, -⟩ | ⟨offer, rfl, -⟩ := insertion?_cases hbrings
    all_goals simp only [leaving, hbrings, if_neg hfree]
  rw [hleaving, evictedFor, hconfig, hcapacity, vacate_locks]

/-- Nothing leaves where a locked entry is in the way. -/
theorem leaving_of_locked (hbrings : state.insertion? message = some insertion)
    (hthere : state.table.contains insertion.name = true)
    (hlocked : state.locks.isLocked insertion.name = true) : state.leaving message = [] := by
  obtain ⟨offer, rfl, -⟩ | ⟨offer, device, rfl, -⟩ | ⟨offer, rfl, -⟩ := insertion?_cases hbrings
  all_goals simp [leaving, hbrings, hthere, hlocked]

/-- Handled on another store, a removal does the same and discards the same segment there. -/
theorem remove_withStore (state : State) (fileName : String) (store : Store) :
    ((state.withStore store).remove fileName).state =
        (state.remove fileName).state.withStore
          (store.discardAll (state.released (.remove fileName))) ∧
      ((state.withStore store).remove fileName).result = (state.remove fileName).result := by
  unfold remove released leaving isLocked entry?
  cases hlocked : state.locks.isLocked (entryKey fileName) with
  | true => simp [withStore, hlocked, fail, Store.discardAll]
  | false =>
    cases hfound : state.table.get? (entryKey fileName) with
    | none => simp [withStore, hlocked, Table.remove, hfound, fail, Store.discardAll]
    | some entry =>
      simp [withStore, hlocked, Table.remove, hfound, release_state, done, Store.discardAll]

/-- A message that neither brings in an object nor removes one has nothing to do with the store. -/
theorem handle_withStore_beside (hremove : ∀ fileName, message ≠ .remove fileName)
    (hnone : state.insertion? message = none) (store : Store) :
    ((state.withStore store).handle message).state =
        (state.handle message).state.withStore store ∧
      ((state.withStore store).handle message).result = (state.handle message).result := by
  cases message with
  | remove fileName => exact absurd rfl (hremove fileName)
  | replace offer => cases hnone
  | get fileName parameter function =>
    simp only [handle, get, withStore]
    cases state.table.recordHit (entryKey fileName) <;> exact ⟨rfl, rfl⟩
  | put offer =>
    cases hname : state.table.contains (entryKey offer.fileName) with
    | true =>
      simp only [handle, put, withStore, hname]
      exact ⟨rfl, rfl⟩
    | false => simp [insertion?, isInCache, hname] at hnone
  | putGpu offer =>
    cases hdevice : state.config.deviceAt offer.bus with
    | none =>
      simp only [handle, putGpu, withStore, hdevice]
      exact ⟨rfl, rfl⟩
    | some device =>
      cases hname : state.table.contains (entryKey offer.fileName) with
      | true =>
        simp only [handle, putGpu, withStore, hdevice, hname]
        exact ⟨rfl, rfl⟩
      | false => simp [insertion?, isInCache, hdevice, hname] at hnone
  | lock fileName =>
    cases hname : state.table.contains (entryKey fileName) with
    | true =>
      cases hlock : state.locks.lock (entryKey fileName) <;>
        simp [handle, lock, withStore, hname, hlock, fail, done]
    | false =>
      simp only [handle, lock, withStore, hname]
      exact ⟨rfl, rfl⟩
  | unlock fileName =>
    cases hunlock : state.locks.unlock (entryKey fileName) <;>
      simp [handle, unlock, withStore, hunlock, fail, done]
  | endProfiling =>
    cases hprofile : state.profile with
    | none => simp [handle, endProfiling, withStore, hprofile, done]
    | some profile =>
      cases hdirectory : state.config.logDir with
      | none => simp [handle, endProfiling, withStore, hprofile, hdirectory, done]
      | some directory =>
        cases hflush : profile.flush state.clock directory state.files with
        | mk written files =>
          cases written <;>
            simp [handle, endProfiling, withStore, hprofile, hdirectory, writeReport, hflush]
  | isLocked | isInCache | quit => exact ⟨rfl, rfl⟩

/-- Handled on another store, a message that brings in no object does the same, and discards there
the segments of the entries that leave. -/
theorem handle_withStore (hnone : state.insertion? message = none) (store : Store) :
    ((state.withStore store).handle message).state =
        (state.handle message).state.withStore (store.discardAll (state.released message)) ∧
      ((state.withStore store).handle message).result = (state.handle message).result := by
  by_cases hremove : ∃ fileName, message = .remove fileName
  · obtain ⟨fileName, rfl⟩ := hremove
    exact state.remove_withStore fileName store
  · have hother := not_exists.mp hremove
    rw [released, leaving_of_none hother hnone]
    exact handle_withStore_beside hother hnone store

/-- Handled on another store, a message that is refused for a locked entry does the same. -/
theorem handle_withStore_of_locked (hbrings : state.insertion? message = some insertion)
    (hthere : state.table.contains insertion.name = true)
    (hlocked : state.locks.isLocked insertion.name = true) (store : Store) :
    ((state.withStore store).handle message).state =
        (state.handle message).state.withStore (store.discardAll (state.released message)) ∧
      ((state.withStore store).handle message).result = (state.handle message).result := by
  have hbrings' := (state.insertion?_withStore message store).trans hbrings
  rw [handle_of_locked hbrings hthere hlocked, handle_of_locked hbrings' hthere hlocked, released,
    leaving_of_locked hbrings hthere hlocked]
  exact ⟨rfl, rfl⟩

/-- What is reported before an object is settled does not matter to what follows. -/
theorem settle_events (state : State) (insertion : Insertion) (events : List Event) :
    (state.settle insertion events).state = (state.settle insertion []).state ∧
      (state.settle insertion events).result = (state.settle insertion []).result := by
  simp only [settle]
  split
  · exact ⟨rfl, rfl⟩
  · split <;> exact ⟨rfl, rfl⟩

/-- What settling an object comes to: the counter cannot take it, no segment is found for it, looking
for one crashes, or its entry is added. -/
theorem settle_cases (state : State) (insertion : Insertion) :
    let settled := state.settle insertion []
    (∃ used, settled.state = state ∧ settled.result =
      .error (.sizeOverflow insertion.name insertion.locality used insertion.size)) ∨
    (∃ failure store, place state.store insertion = (.error failure, store) ∧
      settled.state = state.withStore store ∧ settled.result = .error (.segment failure)) ∨
    (∃ store, place state.store insertion = (.crashed, store) ∧
      settled.state = state.withStore store ∧ settled.result = .crashed) ∨
    ∃ handle store, place state.store insertion = (.ok handle, store) ∧
      settled.state = (state.withStore store).add insertion handle ∧
      settled.result = .ok .none := by
  simp only [settle]
  split
  · exact Or.inl ⟨_, rfl, rfl⟩
  · cases hplace : place state.store insertion with
    | mk placed store =>
      cases placed with
      | error failure => exact Or.inr (Or.inl ⟨failure, store, rfl, rfl, rfl⟩)
      | crashed => exact Or.inr (Or.inr (Or.inl ⟨store, rfl, rfl, rfl⟩))
      | ok handle => exact Or.inr (Or.inr (Or.inr ⟨handle, store, rfl, rfl, rfl⟩))

/-- A message that brings in an object settles it in the room that was made for it, on any store
and always in the same room: the segments of the entries that leave have been discarded. -/
theorem handle_settles (hbrings : state.insertion? message = some insertion)
    (hopen : state.table.contains insertion.name = true →
      state.locks.isLocked insertion.name = false) {capacity : UInt64}
    (hcapacity : state.config.capacityFor insertion.locality = some capacity) :
    ∃ room : State, room.locks = state.locks ∧
      room.table = ((state.vacate insertion.name).1.table.makeRoom state.locks insertion.locality
        insertion.size capacity).table ∧
      ∀ store,
        let settled :=
          (room.withStore (store.discardAll (state.released message))).settle insertion []
        ((state.withStore store).handle message).state = settled.state ∧
          ((state.withStore store).handle message).result = settled.result := by
  obtain ⟨function, parameter, -, hpurpose, -, -⟩ := handle_eq_insert hbrings hopen
  let base := (state.vacate insertion.name).1.countPut function parameter insertion.name
  have hlocks : base.locks = state.locks := state.vacate_locks insertion.name
  refine ⟨(base.makeRoom insertion.name insertion.locality insertion.size capacity).1,
    (base.makeRoom_locks _ _ _ _).trans hlocks, ?_, ?_⟩
  · rw [makeRoom_table, hlocks]
    rfl
  · intro store
    have hbrings' := (state.insertion?_withStore message store).trans hbrings
    obtain ⟨function', parameter', events, hpurpose', hhandle, -⟩ :=
      handle_eq_insert hbrings' hopen
    obtain ⟨rfl, rfl⟩ := Prod.mk.inj (Option.some.inj (hpurpose'.symm.trans hpurpose))
    let cleared := store.discardAll ((state.table.get? insertion.name).toList.map (·.handle))
    have hbase : ((state.withStore store).vacate insertion.name).1.countPut function' parameter'
        insertion.name = base.withStore cleared := by
      rw [vacate_withStore]
      rfl
    have hcapacity' : (base.withStore cleared).config.capacityFor insertion.locality =
        some capacity := by
      obtain ⟨table, replica, rest, hframe⟩ := state.vacate_frame insertion.name
      rw [← hcapacity]
      simp only [withStore, base, countPut, hframe]
    have hroom := base.makeRoom_withStore insertion.name insertion.locality insertion.size capacity
      cleared
    rw [hlocks, ← Store.discardAll_append] at hroom
    rw [hhandle, hbase, Outcome.after_state, Outcome.after_result, insert_eq_settle _ _ hcapacity',
      released, leaving_of_insertion hbrings hopen hcapacity, List.map_append]
    dsimp only
    rw [hroom]
    exact settle_events _ insertion _

end State

end SegmentCache
