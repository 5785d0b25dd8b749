import SegmentCache.Proofs.Breaches
import SegmentCache.Proofs.Departures
import SegmentCache.Proofs.Overflow

/-!
# What a message leaves alone

A message is about one key. Entries under other keys stay as they are, unless they are evicted for
an object that does not fit. An insertion can fail after entries have left: on the counter, or on
the segment. Then the key is free, and what has left is gone from the table, from the index and
from the clients' view alike.
-/

namespace SegmentCache.State

/-- What there is under a name, in the table, in the buckets of the index and for clients. -/
structure Shows (state : State) (name : String) (found : Option Entry) : Prop where
  /-- The table holds the entry. -/
  table : state.table.get? name = found
  /-- The name is in the bucket of its hits and in no other. -/
  index : ∀ hits, state.table.index.contains name hits = true ↔
    ∃ entry, found = some entry ∧ entry.hits = hits
  /-- Clients see the entry. -/
  replica : state.replica[name]? = found

variable {state : State} {message : Message} {insertion : Insertion}

/-- A coherent state shows everywhere what its table holds. -/
theorem Coherent.shows (hcoherent : state.Coherent) {name : String} {found : Option Entry}
    (hfound : state.table.get? name = found) : state.Shows name found where
  table := hfound
  index hits := by rw [hcoherent.indexed.agrees, hfound]
  replica := by
    rw [hcoherent.replica]
    exact hfound

/-- A message asks for what it is about. -/
theorem key?_of_gets {name : String} (hgets : message.gets name = true) :
    message.key? = some name := by
  cases message <;> simp_all [Message.gets, Message.key?, Message.fileName?]

/-- A message removes what it is about. -/
theorem key?_of_removes {name : String} (hremoves : message.removes name = true) :
    message.key? = some name := by
  cases message <;> simp_all [Message.removes, Message.key?, Message.fileName?]

/-- A message that brings in no object leaves the entries under other keys as they are. -/
theorem get?_handle_of_aside (hnone : state.insertion? message = none) {name : String}
    (hother : message.key? ≠ some name) :
    (state.handle message).state.table.get? name = state.table.get? name := by
  have haside := handle_aside hnone
  generalize state.handle message = outcome at haside ⊢
  cases haside with
  | stays _ htable => rw [htable]
  | @hit next asked hits hhit _ _ _ hasks =>
    obtain ⟨entry, hfound, -, -⟩ := Table.recordHit_eq_some hhit
    have hname : asked ≠ name := by
      rintro rfl
      exact hother (key?_of_gets hasks)
    exact (Table.get?_recordHit hhit hfound name).trans (if_neg hname)
  | vacates gone hremoves =>
    have hname : gone ≠ name := by
      rintro rfl
      exact hother (key?_of_removes hremoves)
    exact (state.get?_vacate gone name).trans (if_neg hname)

/-- What is evicted for an object was at its locality and not locked, and the object did not fit
beside what was there. -/
theorem Coherent.mem_evicted (hcoherent : state.Coherent) {locality : Locality}
    {size capacity : UInt64} {entry : Entry}
    (hentry : entry ∈ (state.table.makeRoom state.locks locality size capacity).evicted) :
    state.table.get? entry.name = some entry ∧ entry.locality = locality ∧
      state.locks.isLocked entry.name = false ∧
      capacity.toNat < min (2 ^ 64 - 1) (bytesAt state.table.entries locality + size.toNat) := by
  have hleast := hcoherent.counted.leastPrefix_makeRoom hcoherent.indexed state.locks locality size
    capacity
  obtain ⟨hfound, hplace, hunlocked⟩ :=
    hcoherent.indexed.mem_evictable.mp (hleast.front.subset hentry)
  refine ⟨hfound, hplace, hunlocked, ?_⟩
  by_contra hfits
  have henough : state.table.FitsWithout locality size capacity [] := by
    rw [Table.FitsWithout, hcoherent.counted]
    simp only [bytesOf, List.map_nil, List.sum_nil, Nat.sub_zero]
    omega
  rw [← hleast.needed List.nil_prefix henough] at hentry
  cases hentry

/-- The entries when room has been made for an object: those under other names are as before, unless
they have been evicted. -/
theorem Coherent.get?_room (hcoherent : state.Coherent)
    (hopen : state.table.contains insertion.name = true →
      state.locks.isLocked insertion.name = false) (capacity : UInt64) {name : String}
    (hother : insertion.name ≠ name) :
    let room := (state.vacate insertion.name).1.table.makeRoom state.locks insertion.locality
      insertion.size capacity
    room.table.get? name =
      if name ∈ room.evicted.map (·.name) then none else state.table.get? name := by
  have hvacated := Moves.coherent (vacate_moves .quit (hcoherent.not_locked hopen)) hcoherent
  have hget : (state.vacate insertion.name).1.table.get? name = state.table.get? name :=
    (state.get?_vacate insertion.name name).trans (if_neg hother)
  rw [← hget]
  exact hvacated.indexed.get?_evict insertion.locality insertion.size capacity _ name

/-- What is evicted for an object was there under another name, at the locality of the object and
not locked, and the object did not fit beside what was there. -/
theorem Coherent.mem_evicted_for (hcoherent : state.Coherent)
    (hopen : state.table.contains insertion.name = true →
      state.locks.isLocked insertion.name = false) {capacity : UInt64} {entry : Entry}
    (hentry : entry ∈ ((state.vacate insertion.name).1.table.makeRoom state.locks
      insertion.locality insertion.size capacity).evicted) :
    insertion.name ≠ entry.name ∧ state.table.get? entry.name = some entry ∧
      entry.locality = insertion.locality ∧ state.locks.isLocked entry.name = false ∧
      capacity.toNat < min (2 ^ 64 - 1)
        (bytesAt (state.table.entries.erase insertion.name) insertion.locality +
          insertion.size.toNat) := by
  have hvacated := Moves.coherent (vacate_moves .quit (hcoherent.not_locked hopen)) hcoherent
  rw [← state.vacate_locks insertion.name] at hentry
  obtain ⟨hfound, hplace, hunlocked, hscarce⟩ := hvacated.mem_evicted hentry
  rw [vacate_locks] at hunlocked
  rw [entries_vacate] at hscarce
  rw [get?_vacate] at hfound
  split at hfound
  · cases hfound
  · rename_i hother
    exact ⟨hother, hfound, hplace, hunlocked, hscarce⟩

/-- A segment that is live stays so while a segment is found for an object. -/
theorem contains_place {store : Store} {handle : String}
    (hlive : store.contains handle = true) (insertion : Insertion) :
    (place store insertion).2.contains handle = true := by
  rcases (placing store insertion).store_eq with
    hsame | ⟨device, hcounted⟩ | ⟨device, contents, hadded⟩
  · rw [hsame]
    exact hlive
  · rw [hcounted]
    exact hlive
  · rw [hadded]
    exact (store.contains_withBuffer device contents handle).mpr (Or.inr hlive)

/-- Only a message that locks or unlocks touches the locks. -/
theorem handle_locks (hlock : message.action ≠ .lock) (hunlock : message.action ≠ .unlock) :
    (state.handle message).state.locks = state.locks := by
  cases hbrings : state.insertion? message with
  | some insertion =>
    rcases handle_refused_or_insert hbrings with
      ⟨-, -, hhandle⟩ | ⟨function, parameter, events, -, hhandle⟩
    · rw [hhandle]
      rfl
    · obtain ⟨table, replica, store, hframe⟩ :=
        ((state.vacate insertion.name).1.countPut function parameter
          insertion.name).insert_frame insertion
      rw [hhandle, Outcome.after_state, hframe]
      exact state.vacate_locks insertion.name
  | none =>
    cases message with
    | lock fileName => exact absurd rfl hlock
    | unlock fileName => exact absurd rfl hunlock
    | replace offer => cases hbrings
    | get fileName parameter function =>
      simp only [handle, get]
      split <;> rfl
    | put offer =>
      simp only [handle, put]
      split
      · rfl
      · rename_i hfree
        simp [insertion?, isInCache, hfree] at hbrings
    | putGpu offer =>
      simp only [handle, putGpu]
      split
      · rfl
      · rename_i device hdevice
        split
        · rfl
        · rename_i hfree
          simp [insertion?, isInCache, hdevice, hfree] at hbrings
    | remove fileName =>
      simp only [handle, remove]
      split
      · rfl
      · split
        · rfl
        · rw [release_state]
          rfl
    | endProfiling =>
      simp only [handle, endProfiling, writeReport]
      split
      · split <;> rfl
      · rfl
    | isLocked | isInCache | quit => rfl

/-- A message changes the locks only if it locks or unlocks with success, and then at no other key
than its own. -/
theorem locks_changed (hchanged : (state.handle message).state.locks ≠ state.locks) :
    (message.action = .lock ∨ message.action = .unlock) ∧
      (state.handle message).result = .ok .none ∧
      ∀ name, message.key? ≠ some name →
        (state.handle message).state.locks.isLocked name = state.locks.isLocked name := by
  by_cases hlock : message.action = .lock
  · cases message with
    | lock fileName =>
      rw [handle] at hchanged ⊢
      cases hthere : state.isInCache fileName with
      | false => exact absurd (by rw [lock_of_free hthere]; rfl) hchanged
      | true =>
        cases hlocked : state.isLocked fileName with
        | true => exact absurd (by rw [lock_of_locked hthere hlocked]; rfl) hchanged
        | false =>
          rw [lock_of_unlocked hthere hlocked]
          refine ⟨Or.inl rfl, rfl, fun name hother => ?_⟩
          have hname : entryKey fileName ≠ name := fun hsame => hother (congrArg some hsame)
          simp [done, LockSet.isLocked, hname]
    | _ => cases hlock
  · by_cases hunlock : message.action = .unlock
    · cases message with
      | unlock fileName =>
        rw [handle] at hchanged ⊢
        cases hlocked : state.isLocked fileName with
        | false => exact absurd (by rw [unlock_of_unlocked hlocked]; rfl) hchanged
        | true =>
          rw [unlock_of_locked hlocked]
          refine ⟨Or.inr rfl, rfl, fun name hother => ?_⟩
          have hname : entryKey fileName ≠ name := fun hsame => hother (congrArg some hsame)
          simp [done, LockSet.isLocked, hname]
      | _ => cases hunlock
    · exact absurd (handle_locks hlock hunlock) hchanged

/-- A message that gets as far as inserting settles its object in a room where its name is free, and
from where the segments of what has left are gone. -/
theorem handle_in_room (hbrings : state.insertion? message = some insertion)
    (hopen : state.table.contains insertion.name = true →
      state.locks.isLocked insertion.name = false) :
    ∃ (room : State) (capacity : UInt64),
      state.config.capacityFor insertion.locality = some capacity ∧
      room.table = ((state.vacate insertion.name).1.table.makeRoom state.locks insertion.locality
        insertion.size capacity).table ∧
      room.table.contains insertion.name = false ∧
      room.store = state.store.discardAll (state.released message) ∧
      (state.handle message).state = (room.settle insertion []).state ∧
      (state.handle message).result = (room.settle insertion []).result := by
  obtain ⟨capacity, hcapacity⟩ := capacityFor_of_insertion? hbrings
  obtain ⟨room, -, htable, hsettles⟩ := handle_settles hbrings hopen hcapacity
  obtain ⟨hstate, hresult⟩ := hsettles state.store
  have hfree : room.table.contains insertion.name = false := by
    rw [htable]
    refine Table.evict_induction (P := fun table => table.contains insertion.name = false) ?_
      insertion.locality insertion.size capacity _ (state.contains_vacate insertion.name)
    intro table rest name entry hfree hremove
    rw [Table.contains_eq_false_iff] at hfree ⊢
    rw [Table.get?_remove hremove, hfree, ite_self]
  exact ⟨room.withStore (state.store.discardAll (state.released message)), capacity, hcapacity,
    htable, hfree, rfl, hstate, hresult⟩

/-- Settling an object does not touch the entries under other names. -/
theorem get?_settle_of_ne (hfree : state.table.contains insertion.name = false) {name : String}
    (hother : insertion.name ≠ name) :
    (state.settle insertion []).state.table.get? name = state.table.get? name := by
  rcases state.settle_cases insertion with
    ⟨used, hstate, -⟩ | ⟨failure, store, -, hstate, -⟩ | ⟨store, -, hstate, -⟩ |
      ⟨handle, store, -, hstate, -⟩
  · rw [hstate]
  · rw [hstate]
    rfl
  · rw [hstate]
    rfl
  · rw [hstate]
    exact (@get?_add (state.withStore store) insertion hfree handle name).trans (if_neg hother)

/-- An object that could not be settled has no entry. -/
theorem get?_settle_of_not_ok (hfree : state.table.contains insertion.name = false)
    (hbad : (state.settle insertion []).result.isOk = false) :
    (state.settle insertion []).state.table.get? insertion.name = none := by
  have hnone := Table.contains_eq_false_iff.mp hfree
  rcases state.settle_cases insertion with
    ⟨used, hstate, -⟩ | ⟨cause, store, -, hstate, -⟩ | ⟨store, -, hstate, -⟩ |
      ⟨handle, store, -, -, hresult⟩
  · rw [hstate]
    exact hnone
  · rw [hstate]
    exact hnone
  · rw [hstate]
    exact hnone
  · rw [hresult] at hbad
    cases hbad

/-- Settling an object keeps live segments alive. -/
theorem contains_settle {handle : String} (hlive : state.store.contains handle = true) :
    (state.settle insertion []).state.store.contains handle = true := by
  have hplaced := contains_place hlive insertion
  rcases state.settle_cases insertion with
    ⟨used, hstate, -⟩ | ⟨failure, store, hplace, hstate, -⟩ | ⟨store, hplace, hstate, -⟩ |
      ⟨buffer, store, hplace, hstate, -⟩
  · rw [hstate]
    exact hlive
  · rw [hplace] at hplaced
    rw [hstate]
    exact hplaced
  · rw [hplace] at hplaced
    rw [hstate]
    exact hplaced
  · rw [hplace] at hplaced
    rw [hstate]
    exact hplaced

/-- A segment that a message frees belonged to an entry that leaves. -/
theorem mem_released_of_freed {handle : String} (hlive : state.store.contains handle = true)
    (hdead : (state.handle message).state.store.contains handle = false) :
    handle ∈ state.released message := by
  by_contra hkept
  have hstill : (state.store.discardAll (state.released message)).contains handle = true := by
    obtain ⟨segment, hsegment⟩ := Store.contains_iff.mp hlive
    exact Store.contains_iff.mpr
      ⟨segment, (Store.get?_discardAll _ _ _).trans ((if_neg hkept).trans hsegment)⟩
  refine Bool.eq_false_iff.mp hdead ?_
  cases hbrings : state.insertion? message with
  | none =>
    have hstate : (state.handle message).state = _ := (handle_withStore hbrings state.store).1
    rw [hstate]
    exact hstill
  | some insertion =>
    rcases state.locked_or_open insertion.name with ⟨hthere, hlocked⟩ | hopen
    · rw [handle_of_locked hbrings hthere hlocked]
      exact hlive
    · obtain ⟨room, capacity, -, -, -, hstore, hstate, -⟩ := handle_in_room hbrings hopen
      rw [hstate]
      exact contains_settle (hstore ▸ hstill)

/-- A message that brings in an object under a taken name puts it in place of another. -/
theorem action_of_replaced (hbrings : state.insertion? message = some insertion)
    (htaken : state.table.contains insertion.name = true) : message.action = .replace := by
  obtain ⟨offer, rfl, hfree, rfl⟩ | ⟨offer, device, rfl, -, hfree, rfl⟩ | ⟨offer, rfl, rfl⟩ :=
    insertion?_cases hbrings
  · exact absurd htaken (Bool.eq_false_iff.mp hfree)
  · exact absurd htaken (Bool.eq_false_iff.mp hfree)
  · rfl

/-- What leaves for a message is gone afterwards, unless the message has put an object in its
place. -/
theorem Coherent.left_or_replaced (hcoherent : state.Coherent) {entry : Entry}
    (hleaves : entry ∈ state.leaving message) :
    state.table.get? entry.name = some entry ∧
      ((state.handle message).state.table.get? entry.name = none ∨
        (message.action = .replace ∧ message.key? = some entry.name ∧
          (state.handle message).result = .ok .none)) := by
  cases hbrings : state.insertion? message with
  | none =>
    by_cases hremove : ∃ fileName, message = .remove fileName
    · obtain ⟨fileName, rfl⟩ := hremove
      cases hlocked : state.isLocked fileName with
      | true => simp [leaving, hlocked] at hleaves
      | false =>
        have hfound : state.table.get? (entryKey fileName) = some entry := by
          simpa [leaving, hlocked, entry?] using hleaves
        rw [hcoherent.indexed.named hfound]
        refine ⟨hfound, Or.inl ?_⟩
        rw [handle, remove_of_unlocked hlocked (Table.contains_iff.mpr ⟨entry, hfound⟩)]
        exact (state.get?_vacate (entryKey fileName) (entryKey fileName)).trans (if_pos rfl)
    · rw [leaving_of_none (not_exists.mp hremove) hbrings] at hleaves
      cases hleaves
  | some insertion =>
    rcases state.locked_or_open insertion.name with ⟨hthere, hlocked⟩ | hopen
    · rw [leaving_of_locked hbrings hthere hlocked] at hleaves
      cases hleaves
    · obtain ⟨room, capacity, hcapacity, htable, hfree, -, hstate, hresult⟩ :=
        handle_in_room hbrings hopen
      rw [leaving_of_insertion hbrings hopen hcapacity, List.mem_append, Option.mem_toList]
        at hleaves
      rw [hstate, hresult]
      rcases hleaves with hreplaced | hevicted
      · have hfound : state.table.get? insertion.name = some entry := hreplaced
        rw [hcoherent.indexed.named hfound]
        refine ⟨hfound, ?_⟩
        rcases room.settle_cases insertion with
          ⟨_, -, hends⟩ | ⟨_, _, -, -, hends⟩ | ⟨_, -, -, hends⟩ | ⟨_, _, -, -, hok⟩
        · exact Or.inl (get?_settle_of_not_ok hfree (hends ▸ rfl))
        · exact Or.inl (get?_settle_of_not_ok hfree (hends ▸ rfl))
        · exact Or.inl (get?_settle_of_not_ok hfree (hends ▸ rfl))
        · exact Or.inr ⟨action_of_replaced hbrings (Table.contains_iff.mpr ⟨entry, hfound⟩),
            key?_of_insertion? hbrings, hok⟩
      · obtain ⟨hother, hfound, -⟩ := hcoherent.mem_evicted_for hopen hevicted
        refine ⟨hfound, Or.inl ?_⟩
        rw [get?_settle_of_ne hfree hother, htable]
        exact (hcoherent.get?_room hopen capacity hother).trans
          (if_pos (List.mem_map_of_mem hevicted))

/-- A message that fails while it inserts its object leaves no entry under its key. Where it is for
want of a segment, the message was to copy to a device. -/
theorem handle_no_half_insert {failure : CacheFailure}
    (herror : (state.handle message).result = .error failure)
    (hinserting : failure.onInsertion = true) :
    (∃ name, message.key? = some name ∧ (state.handle message).state.table.get? name = none) ∧
      ∀ cause, failure = .segment cause → message.action = .putGpu := by
  cases hbrings : state.insertion? message with
  | none =>
    rcases handle_error_of_aside hbrings herror with ⟨hbreach, -⟩ | ⟨_, rfl, -⟩ | ⟨_, _, _, rfl, -⟩
    · cases hbreach <;> cases hinserting
    · cases hinserting
    · cases hinserting
  | some insertion =>
    rcases state.locked_or_open insertion.name with ⟨hthere, hlocked⟩ | hopen
    · rw [handle_of_locked hbrings hthere hlocked] at herror
      cases herror
      cases hinserting
    · obtain ⟨room, capacity, -, -, hfree, -, hstate, hresult⟩ := handle_in_room hbrings hopen
      rw [hresult] at herror
      rw [hstate]
      refine ⟨⟨insertion.name, key?_of_insertion? hbrings,
        get?_settle_of_not_ok hfree (herror ▸ rfl)⟩, ?_⟩
      rintro cause rfl
      rcases room.settle_cases insertion with
        ⟨_, -, hfails⟩ | ⟨_, _, hplace, -, -⟩ | ⟨_, -, -, hcrashes⟩ | ⟨_, _, -, -, hok⟩
      · cases herror.symm.trans hfails
      · obtain ⟨offer, -, -, rfl⟩ | ⟨offer, device, rfl, -⟩ | ⟨offer, -, rfl⟩ :=
          insertion?_cases hbrings
        · simp [place, Offer.insertion] at hplace
        · rfl
        · simp [place, Offer.insertion] at hplace
      · cases herror.symm.trans hcrashes
      · cases herror.symm.trans hok

/-- An overflow arises while an object is inserted. -/
theorem onInsertion_of_overflows {outcome : Outcome} (hoverflows : outcome.overflows = true) :
    ∃ failure, outcome.result = .error failure ∧ failure.onInsertion = true := by
  unfold Outcome.overflows at hoverflows
  split at hoverflows
  · rename_i hresult
    exact ⟨_, hresult, rfl⟩
  · cases hoverflows

/-- Under another key than its own, a message leaves things as they are or evicts the entry. -/
theorem Coherent.get?_handle_of_ne (hcoherent : state.Coherent) {name : String}
    (hother : message.key? ≠ some name) :
    (state.handle message).state.table.get? name = state.table.get? name ∨
      ((state.handle message).state.table.get? name = none ∧ ∃ entry insertion capacity,
        state.table.get? name = some entry ∧ state.insertion? message = some insertion ∧
        state.config.capacityFor insertion.locality = some capacity ∧
        capacity.toNat < min (2 ^ 64 - 1)
          (bytesAt (state.table.entries.erase insertion.name) insertion.locality +
            insertion.size.toNat) ∧
        entry.locality = insertion.locality ∧ state.locks.isLocked name = false) := by
  cases hbrings : state.insertion? message with
  | none => exact Or.inl (get?_handle_of_aside hbrings hother)
  | some insertion =>
    rcases state.locked_or_open insertion.name with ⟨hthere, hlocked⟩ | hopen
    · rw [handle_of_locked hbrings hthere hlocked]
      exact Or.inl rfl
    · obtain ⟨room, capacity, hcapacity, htable, hfree, -, hstate, -⟩ :=
        handle_in_room hbrings hopen
      have hname : insertion.name ≠ name := by
        rintro rfl
        exact hother (key?_of_insertion? hbrings)
      rw [hstate, get?_settle_of_ne hfree hname, htable, hcoherent.get?_room hopen capacity hname]
      split
      · rename_i hgone
        obtain ⟨entry, hentry, rfl⟩ := List.mem_map.mp hgone
        obtain ⟨-, hfound, hplace, hunlocked, hscarce⟩ := hcoherent.mem_evicted_for hopen hentry
        exact Or.inr ⟨rfl, entry, insertion, capacity, hfound, rfl, hcapacity, hscarce, hplace,
          hunlocked⟩
      · exact Or.inl rfl

/-- Whatever comes of a message, what there is under other keys than its own stays as it is, or is
gone everywhere at once. It can be gone only if the message brings in an object that does not fit,
and it was at the locality of that object and not locked. Only a message that locks or unlocks with
success changes the locks, and only at its key. A segment is freed only when an entry that had it
leaves. After a message that fails on the counter or on a segment there is nothing under its key,
and only a copy to a device fails on a segment. -/
theorem handle_leaves_rest_alone (hreach : Reachable state) (message : Message) :
    let outcome := state.handle message
    (∀ name, message.key? ≠ some name →
      outcome.state.Shows name (state.table.get? name) ∨
      (outcome.state.Shows name none ∧ ∃ entry insertion capacity,
        state.table.get? name = some entry ∧ state.insertion? message = some insertion ∧
        state.config.capacityFor insertion.locality = some capacity ∧
        capacity.toNat < min (2 ^ 64 - 1)
          (bytesAt (state.table.entries.erase insertion.name) insertion.locality +
            insertion.size.toNat) ∧
        entry.locality = insertion.locality ∧ state.locks.isLocked name = false)) ∧
    (outcome.state.locks ≠ state.locks →
      (message.action = .lock ∨ message.action = .unlock) ∧ outcome.result = .ok .none ∧
        ∀ name, message.key? ≠ some name →
          outcome.state.locks.isLocked name = state.locks.isLocked name) ∧
    (∀ handle, state.store.contains handle = true →
      outcome.state.store.contains handle = false →
        ∃ name entry, state.table.get? name = some entry ∧ entry.handle = handle ∧
          (outcome.state.table.get? name = none ∨
            (message.action = .replace ∧ message.key? = some name ∧
              outcome.result = .ok .none))) ∧
    (outcome.overflows = true ∨ (∃ cause, outcome.result = .error (.segment cause)) →
      ∃ name, message.key? = some name ∧ outcome.state.Shows name none) ∧
    ∀ cause, outcome.result = .error (.segment cause) → message.action = .putGpu := by
  intro outcome
  have hcoherent := hreach.coherent
  have hafter : outcome.state.Coherent := (hreach.message message).coherent
  refine ⟨?_, locks_changed, ?_, ?_, ?_⟩
  · intro name hother
    rcases hcoherent.get?_handle_of_ne hother with hkept | ⟨hgone, hevicted⟩
    · exact Or.inl (hafter.shows hkept)
    · exact Or.inr ⟨hafter.shows hgone, hevicted⟩
  · intro handle hlive hdead
    obtain ⟨entry, hentry, hhandle⟩ := List.mem_map.mp (mem_released_of_freed hlive hdead)
    obtain ⟨hfound, hleft⟩ := hcoherent.left_or_replaced hentry
    exact ⟨entry.name, entry, hfound, hhandle, hleft⟩
  · intro hfails
    obtain ⟨failure, herror, hinserting⟩ : ∃ failure, outcome.result = .error failure ∧
        failure.onInsertion = true := by
      rcases hfails with hoverflows | ⟨cause, herror⟩
      · exact onInsertion_of_overflows hoverflows
      · exact ⟨.segment cause, herror, rfl⟩
    obtain ⟨⟨name, hkey, hgone⟩, -⟩ := handle_no_half_insert herror hinserting
    exact ⟨name, hkey, hafter.shows hgone⟩
  · intro cause herror
    exact (handle_no_half_insert herror rfl).2 cause rfl

/-- A copy to a device evicts another one and then fails for want of its source. What it was to copy
has no entry, and the evicted entry does not come back. -/
theorem handle_leaves_rest_alone_uncopied :
    let config : Config := { devices := [{ id := 0, bus := "b", capacity := 10 }] }
    let store := (Store.empty none).register "s" { locality := .cpu, contents := .zeros 8 }
    let state := ((State.initial config store FileTree.empty "").handle
      (.putGpu { fileName := "a", handle := "s", bus := "b", size := 8 })).state
    let message : Message := .putGpu { fileName := "c", handle := "t", bus := "b", size := 8 }
    Reachable state ∧ state.table.contains "a" = true ∧
      (state.handle message).result = .error (.segment (.unknown "t")) ∧
      (state.handle message).state.table.contains "a" = false ∧
      ∃ name, message.key? = some name ∧ (state.handle message).state.Shows name none := by
  intro config store state message
  have hreach : Reachable state := (Reachable.initial _ _ _ _).message _
  have hthere : state.table.contains "a" = true := by decide +kernel
  have hfails : (state.handle message).result = .error (.segment (.unknown "t")) := by
    decide +kernel
  have hgone : (state.handle message).state.table.contains "a" = false := by decide +kernel
  obtain ⟨-, -, -, hfree, -⟩ := handle_leaves_rest_alone hreach message
  exact ⟨hreach, hthere, hfails, hgone, hfree (Or.inr ⟨_, hfails⟩)⟩

end SegmentCache.State
