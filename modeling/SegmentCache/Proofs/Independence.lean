import SegmentCache.Proofs.AnyOrder
import SegmentCache.Proofs.Breaches
import SegmentCache.Proofs.Capacity
import SegmentCache.Proofs.Determined
import SegmentCache.Proofs.UsageCounts

/-!
# Messages about different files

As long as there is room in host memory, a message about a file looks at nothing but the entry and
the lock under the key of that file. `Message.touch` says what comes of it from these two alone, and
`handle_touches` that handling it does this and nothing else. Beyond its own key it discards a
segment, moves the counter of a locality or counts a use, which can be done in any order. So
messages about different files can change places.
-/

namespace SegmentCache

/-- What the cache has under a key. -/
structure Spot where
  /-- The entry, if there is one. -/
  entry : Option Entry
  /-- Whether the key is locked. -/
  locked : Bool

/-- What comes of a message about a file, as long as there is room. -/
structure Touch where
  /-- What the message gives back, or why it failed. -/
  result : Attempt CacheFailure Response
  /-- What the cache has under the key afterwards. -/
  spot : Spot
  /-- The size of the object that comes into host memory. -/
  adds : Option UInt64 := none
  /-- The segment that is discarded. -/
  discarded : Option String := none
  /-- The use that is counted. -/
  usage : Usage := .nothing

namespace Message

/-- The key of a message about one file in host memory. Copies to a device, reports and the wish to
stop have none. -/
def hostKey? : Message → Option String
  | .get fileName _ _ | .remove fileName | .lock fileName | .unlock fileName
  | .isLocked fileName | .isInCache fileName => some (entryKey fileName)
  | .put offer | .replace offer => some (entryKey offer.fileName)
  | .putGpu _ | .endProfiling | .quit => none

/-- The bytes that a message offers to host memory. -/
def hostBytes : Message → Nat
  | .put offer | .replace offer => offer.size.toNat
  | _ => 0

/-- What comes of an object that is put under a key, in place of what the cache has there. -/
def settles (offer : Offer) (name : String) (spot : Spot) : Touch where
  result := .ok .none
  spot := { spot with entry := some ((offer.insertion name).entry offer.handle) }
  adds := some offer.size
  discarded := spot.entry.map (·.handle)
  usage := .offered offer.function offer.parameter

/-- What comes of a message, from what the cache has under its key. -/
def touch (name : String) (spot : Spot) : Message → Touch
  | .get _ parameter function =>
    match spot.entry with
    | none => { result := .ok .none, spot }
    | some entry =>
      { result := .ok .none
        spot := { spot with entry := some { entry with hits := Word.addSat entry.hits 1 } }
        usage := .served function parameter }
  | .put offer =>
    if spot.entry.isSome then { result := .ok .none, spot } else settles offer name spot
  | .replace offer =>
    if spot.entry.isSome && spot.locked then { result := .error (.removeLocked name), spot }
    else settles offer name spot
  | .remove _ =>
    match spot.locked, spot.entry with
    | true, _ => { result := .error (.removeLocked name), spot }
    | false, none => { result := .error (.unknownEntry name), spot }
    | false, some entry =>
      { result := .ok .none, spot := { spot with entry := none }, discarded := entry.handle }
  | .lock _ =>
    match spot.entry, spot.locked with
    | none, _ => { result := .error (.lockUnknownEntry name), spot }
    | some _, true => { result := .error (.alreadyLocked name), spot }
    | some _, false => { result := .ok .none, spot := { spot with locked := true } }
  | .unlock _ =>
    if spot.locked then { result := .ok .none, spot := { spot with locked := false } }
    else { result := .error (.notLocked name), spot }
  | .isLocked _ => { result := .ok (.answer spot.locked), spot }
  | .isInCache _ => { result := .ok (.answer spot.entry.isSome), spot }
  | .putGpu _ | .endProfiling | .quit => { result := .ok .none, spot }

/-- No more comes into host memory than the message offers. -/
theorem adds_touch_le (message : Message) (name : String) (spot : Spot) :
    (message.touch name spot).adds.elim 0 UInt64.toNat ≤ message.hostBytes := by
  cases message with
  | put offer =>
    simp only [touch]
    split
    · exact Nat.zero_le _
    · exact Nat.le_refl _
  | replace offer =>
    simp only [touch]
    split
    · exact Nat.zero_le _
    · exact Nat.le_refl _
  | get | remove | lock | unlock =>
    simp only [touch]
    split <;> exact Nat.zero_le _
  | putGpu | isLocked | isInCache | endProfiling | quit => exact Nat.zero_le _

end Message

namespace State

/-- What the cache has under a key. -/
def spot (state : State) (name : String) : Spot where
  entry := state.table.get? name
  locked := state.locks.isLocked name

/-- The later state differs from the earlier one by what comes of a message about a file. -/
structure Touched (state next : State) (name : String) (touch : Touch) : Prop where
  /-- Entries change under the key only. -/
  entries : ∀ other, next.table.get? other =
    if name = other then touch.spot.entry else state.table.get? other
  /-- Locks change under the key only. -/
  locks : ∀ other, next.locks.isLocked other =
    if name = other then touch.spot.locked else state.locks.isLocked other
  /-- The counter of host memory is opened for an object that comes in. -/
  localities : ∀ locality, locality ∈ next.table.used ↔
    (touch.adds.isSome = true ∧ locality = .cpu) ∨ locality ∈ state.table.used
  /-- That counter goes up by no more than the size of the object. -/
  used : (next.usedBytes .cpu).toNat ≤
    (state.usedBytes .cpu).toNat + touch.adds.elim 0 UInt64.toNat
  /-- A segment is discarded. -/
  store : next.store = touch.discarded.elim state.store state.store.discard
  /-- A use is counted. -/
  profile : next.profile = state.profile.map (·.record name touch.usage)
  /-- Nothing else changes. -/
  rest : next.config = state.config ∧ next.files = state.files ∧ next.clock = state.clock

variable {state next : State} {name : String} {touch : Touch}

/-- What the cache has under another key does not change. -/
theorem Touched.spot_of_ne (htouched : state.Touched next name touch) {other : String}
    (hother : name ≠ other) : next.spot other = state.spot other := by
  simp only [spot, htouched.entries, htouched.locks, if_neg hother]

/-- A message of which nothing comes but a result. -/
theorem Touched.refl (state : State) (name : String) (result : Attempt CacheFailure Response) :
    state.Touched state name { result, spot := state.spot name } where
  entries other := by
    split
    · rename_i hname
      exact hname ▸ rfl
    · rfl
  locks other := by
    split
    · rename_i hname
      exact hname ▸ rfl
    · rfl
  localities locality := by simp
  used := Nat.le_refl _
  store := rfl
  profile := by simp [Profile.record]
  rest := ⟨rfl, rfl, rfl⟩

/-- A message that changes a lock and nothing else. -/
theorem Touched.relock (state : State) (name : String) (locked : Bool) {locks : LockSet}
    (hlocks : ∀ other, locks.isLocked other =
      if name = other then locked else state.locks.isLocked other)
    (result : Attempt CacheFailure Response) :
    state.Touched { state with locks := locks } name
      { result, spot := { state.spot name with locked := locked } } :=
  { Touched.refl state name result with locks := hlocks }

/-- Which names are locked when one more is. -/
theorem isLocked_insert (locks : LockSet) (name other : String) :
    LockSet.isLocked { names := locks.names.insert name } other =
      if name = other then true else locks.isLocked other := by
  rw [Bool.eq_iff_iff]
  by_cases hname : name = other <;> simp [LockSet.isLocked, hname]

/-- Which names are locked when one no longer is. -/
theorem isLocked_erase (locks : LockSet) (name other : String) :
    LockSet.isLocked { names := locks.names.erase name } other =
      if name = other then false else locks.isLocked other := by
  rw [Bool.eq_iff_iff]
  by_cases hname : name = other <;> simp [LockSet.isLocked, hname]

/-- What letting go of an entry does. -/
theorem Touched.vacate (state : State) (name : String) (result : Attempt CacheFailure Response) :
    state.Touched (state.vacate name).1 name
      { result
        spot := { state.spot name with entry := none }
        discarded := (state.table.get? name).map (·.handle) } := by
  cases hfound : state.table.get? name with
  | none =>
    have hfree := Table.contains_eq_false_iff.mpr hfound
    rw [vacate_of_free hfree]
    have hsame := Touched.refl state name result
    simp only [spot, hfound] at hsame
    exact hsame
  | some entry =>
    obtain ⟨table, hremove⟩ := Table.exists_remove_eq_ok hfound
    have hvacated : (state.vacate name).1 = { state with
        table := table
        replica := state.replica.erase entry.name
        store := state.store.discard entry.handle } := by
      simp [State.vacate, hremove, release_state]
    rw [hvacated]
    refine { Touched.refl state name result with
      entries := Table.get?_remove hremove
      localities := fun locality => ?_
      used := ?_
      store := rfl }
    · simpa using Table.mem_used_remove hremove
    · have hshrunk := (state.vacate_recedes name).used .cpu
      rw [hvacated] at hshrunk
      exact UInt64.le_iff_toNat_le.mp hshrunk

/-- As long as there is room, an object for host memory is added as it is. -/
theorem insert_of_room {insertion : Insertion} (hhost : insertion.locality = .cpu)
    (hroom : (state.usedBytes .cpu).toNat + insertion.size.toNat ≤ state.config.cpuCapacity.toNat) :
    state.insert insertion =
      (state.add insertion insertion.handle).done
        [Event.added (insertion.entry insertion.handle)] := by
  have hbound := state.config.cpuCapacity.toNat_lt
  have hcapacity : state.config.capacityFor insertion.locality = some state.config.cpuCapacity := by
    rw [hhost]
    rfl
  have hfits : state.table.fits insertion.locality insertion.size state.config.cpuCapacity =
      true := by
    rw [Table.fits, hhost, decide_eq_true_eq, UInt64.le_iff_toNat_le, Word.toNat_addSat]
    exact (Nat.min_le_left _ _).trans hroom
  have hmade : state.makeRoom insertion.name insertion.locality insertion.size
      state.config.cpuCapacity = (state, []) := if_pos hfits
  obtain ⟨sum, hsum⟩ : ∃ sum, Word.addChecked (state.table.usedBytes insertion.locality)
      insertion.size = some sum := by
    rw [← Option.ne_none_iff_exists', ne_eq, Word.addChecked_eq_none_iff, Word.size_eq, hhost]
    simp only [usedBytes] at hroom
    omega
  have hplace : place state.store insertion = (.ok insertion.handle, state.store) := by
    rw [place, hhost]
  rw [insert_eq_settle state insertion hcapacity]
  simp only [hmade, settle, hsum, hplace]
  rfl

/-- What putting an object in place of what is under its key does, as long as there is room. -/
theorem Touched.settles (offer : Offer)
    (hroom : (state.usedBytes .cpu).toNat + offer.size.toNat ≤ state.config.cpuCapacity.toNat) :
    let base := (state.vacate name).1.countPut offer.function offer.parameter name
    (base.insert (offer.insertion name)).result = .ok .none ∧
      state.Touched (base.insert (offer.insertion name)).state name
        (Message.settles offer name (state.spot name)) := by
  intro base
  have hvacated := Touched.vacate state name (.ok .none)
  have hfree : base.table.contains name = false := state.contains_vacate name
  have hshrunk : (base.usedBytes .cpu).toNat ≤ (state.usedBytes .cpu).toNat := hvacated.used
  have hconfig : base.config = state.config := hvacated.rest.1
  have hinsert := @insert_of_room base (offer.insertion name) rfl
    (hconfig ▸ (Nat.add_le_add_right hshrunk _).trans hroom)
  rw [hinsert]
  refine ⟨rfl, ?_, hvacated.locks, ?_, ?_, hvacated.store, ?_, hvacated.rest⟩
  · intro other
    have hadded := @get?_add base (offer.insertion name) hfree offer.handle other
    have hleft := hvacated.entries other
    refine hadded.trans ?_
    show (if name = other then _ else base.table.get? other) = _
    split
    · rfl
    · rename_i hother
      rwa [if_neg hother] at hleft
  · intro locality
    have hadded := @Table.mem_used_put base.table ((offer.insertion name).entry offer.handle) hfree
      locality
    have hleft := hvacated.localities locality
    refine hadded.trans ?_
    simp only [Option.isSome_none, Bool.false_eq_true, false_and, false_or] at hleft
    exact or_congr (by simp [Message.settles, Offer.insertion, Insertion.entry]) hleft
  · have hadded := @usedBytes_add base (offer.insertion name) hfree offer.handle .cpu
    rw [if_pos (show (offer.insertion name).locality = .cpu from rfl)] at hadded
    show ((base.add (offer.insertion name) offer.handle).usedBytes .cpu).toNat ≤ _
    rw [hadded, Word.toNat_addSat]
    exact (Nat.min_le_left _ _).trans (Nat.add_le_add_right hshrunk _)
  · show (state.vacate name).1.profile.map _ = _
    rw [state.profile_vacate]
    rfl

/-- What a use of a file does. -/
theorem Touched.get (state : State) (fileName parameter function : String) :
    let touch := (Message.get fileName parameter function).touch (entryKey fileName)
      (state.spot (entryKey fileName))
    (state.get fileName parameter function).result = touch.result ∧
      state.Touched (state.get fileName parameter function).state (entryKey fileName) touch := by
  cases hfound : state.table.get? (entryKey fileName) with
  | none =>
    rw [get_of_free hfound]
    simp only [Message.touch, spot, hfound]
    have hsame := Touched.refl state (entryKey fileName) (.ok .none)
    simp only [spot, hfound] at hsame
    exact ⟨rfl, hsame⟩
  | some entry =>
    obtain ⟨table, hhit, hget⟩ := get_of_there hfound parameter function
    rw [hget]
    simp only [Message.touch, spot, hfound]
    refine ⟨rfl, Table.get?_recordHit hhit hfound, ?_, ?_, ?_, rfl, rfl, rfl, rfl, rfl⟩
    · exact (Touched.refl state (entryKey fileName) (.ok .none)).locks
    · intro locality
      have hused := Table.used_recordHit hhit
      simp [done, hused]
    · have hused := Table.used_recordHit hhit
      simp [done, usedBytes, Table.usedBytes, hused]

/-- Whether there is an entry under a key can be told from what the cache has there. -/
theorem isSome_spot_entry (state : State) (name : String) :
    (state.spot name).entry.isSome = state.table.contains name := by
  rw [spot, Table.contains, Std.ExtTreeMap.contains_eq_isSome_getElem?]
  rfl

/-- What offering an object does, as long as there is room. -/
theorem Touched.put (offer : Offer)
    (hroom : (state.usedBytes .cpu).toNat + offer.size.toNat ≤ state.config.cpuCapacity.toNat) :
    let touch := (Message.put offer).touch (entryKey offer.fileName)
      (state.spot (entryKey offer.fileName))
    (state.put offer).result = touch.result ∧
      state.Touched (state.put offer).state (entryKey offer.fileName) touch := by
  simp only [Message.touch, isSome_spot_entry]
  cases hname : state.table.contains (entryKey offer.fileName) with
  | true =>
    simp only [State.put, hname, if_true]
    exact ⟨rfl, .refl state _ _⟩
  | false =>
    have hsettles := @Touched.settles state (entryKey offer.fileName) offer hroom
    rw [vacate_of_free hname] at hsettles
    rw [put_of_free hname]
    exact hsettles

/-- What offering an object in place of another does, as long as there is room. -/
theorem Touched.replace (offer : Offer)
    (hroom : (state.usedBytes .cpu).toNat + offer.size.toNat ≤ state.config.cpuCapacity.toNat) :
    let touch := (Message.replace offer).touch (entryKey offer.fileName)
      (state.spot (entryKey offer.fileName))
    (state.replace offer).result = touch.result ∧
      state.Touched (state.replace offer).state (entryKey offer.fileName) touch := by
  have hsettles := @Touched.settles state (entryKey offer.fileName) offer hroom
  simp only [Message.touch, isSome_spot_entry]
  cases hname : state.table.contains (entryKey offer.fileName) with
  | false =>
    rw [vacate_of_free hname] at hsettles
    rw [replace_of_free hname]
    exact hsettles
  | true =>
    cases hlocked : (state.spot (entryKey offer.fileName)).locked with
    | true =>
      rw [replace_of_locked hname hlocked]
      exact ⟨rfl, .refl state _ _⟩
    | false =>
      rw [replace_of_unlocked hname hlocked]
      exact hsettles

/-- What a request to remove does. -/
theorem Touched.remove (state : State) (fileName : String) :
    let touch := (Message.remove fileName).touch (entryKey fileName)
      (state.spot (entryKey fileName))
    (state.remove fileName).result = touch.result ∧
      state.Touched (state.remove fileName).state (entryKey fileName) touch := by
  cases hlocked : (state.spot (entryKey fileName)).locked with
  | true =>
    rw [remove_of_locked hlocked]
    simp only [Message.touch, hlocked]
    exact ⟨rfl, .refl state _ _⟩
  | false =>
    have hthere := state.isSome_spot_entry (entryKey fileName)
    cases hfound : (state.spot (entryKey fileName)).entry with
    | none =>
      rw [hfound] at hthere
      rw [remove_of_free hlocked hthere.symm]
      simp only [Message.touch, hlocked, hfound]
      exact ⟨rfl, .refl state _ _⟩
    | some entry =>
      have hvacated := Touched.vacate state (entryKey fileName) (.ok .none)
      rw [hfound] at hthere
      rw [remove_of_unlocked hlocked hthere.symm]
      simp only [Message.touch, hlocked, hfound]
      rw [show state.table.get? (entryKey fileName) = some entry from hfound] at hvacated
      simp only [hlocked] at hvacated
      exact ⟨rfl, hvacated⟩

/-- What a request to lock does. -/
theorem Touched.lock (state : State) (fileName : String) :
    let touch := (Message.lock fileName).touch (entryKey fileName) (state.spot (entryKey fileName))
    (state.lock fileName).result = touch.result ∧
      state.Touched (state.lock fileName).state (entryKey fileName) touch := by
  have hthere := state.isSome_spot_entry (entryKey fileName)
  cases hfound : (state.spot (entryKey fileName)).entry with
  | none =>
    rw [hfound] at hthere
    rw [lock_of_free hthere.symm]
    simp only [Message.touch, hfound]
    exact ⟨rfl, .refl state _ _⟩
  | some entry =>
    rw [hfound] at hthere
    cases hlocked : (state.spot (entryKey fileName)).locked with
    | true =>
      rw [lock_of_locked hthere.symm hlocked]
      simp only [Message.touch, hfound, hlocked]
      exact ⟨rfl, .refl state _ _⟩
    | false =>
      have hrelocked := Touched.relock state (entryKey fileName) true
        (isLocked_insert state.locks (entryKey fileName)) (.ok .none)
      rw [lock_of_unlocked hthere.symm hlocked]
      simp only [Message.touch, hfound, hlocked]
      simp only [hfound] at hrelocked
      exact ⟨rfl, hrelocked⟩

/-- What a request to unlock does. -/
theorem Touched.unlock (state : State) (fileName : String) :
    let touch := (Message.unlock fileName).touch (entryKey fileName)
      (state.spot (entryKey fileName))
    (state.unlock fileName).result = touch.result ∧
      state.Touched (state.unlock fileName).state (entryKey fileName) touch := by
  cases hlocked : (state.spot (entryKey fileName)).locked with
  | true =>
    rw [unlock_of_locked hlocked]
    simp only [Message.touch, hlocked]
    exact ⟨rfl, .relock state _ false (isLocked_erase state.locks _) _⟩
  | false =>
    rw [unlock_of_unlocked hlocked]
    simp only [Message.touch, hlocked]
    exact ⟨rfl, .refl state _ _⟩

/-- As long as there is room, handling a message about a file does what comes of it from the entry
and the lock under its key, and nothing else. -/
theorem handle_touches {message : Message} (hkey : message.hostKey? = some name)
    (hroom : (state.usedBytes .cpu).toNat + message.hostBytes ≤ state.config.cpuCapacity.toNat) :
    (state.handle message).result = (message.touch name (state.spot name)).result ∧
      state.Touched (state.handle message).state name (message.touch name (state.spot name)) := by
  cases message with
  | putGpu | endProfiling | quit => cases hkey
  | get fileName parameter function =>
    cases hkey
    exact Touched.get state fileName parameter function
  | put offer =>
    cases hkey
    exact Touched.put offer hroom
  | replace offer =>
    cases hkey
    exact Touched.replace offer hroom
  | remove fileName =>
    cases hkey
    exact Touched.remove state fileName
  | lock fileName =>
    cases hkey
    exact Touched.lock state fileName
  | unlock fileName =>
    cases hkey
    exact Touched.unlock state fileName
  | isLocked fileName =>
    cases hkey
    exact ⟨rfl, .refl state _ _⟩
  | isInCache fileName =>
    cases hkey
    refine ⟨?_, .refl state _ _⟩
    simp only [Message.touch, isSome_spot_entry]
    rfl

/-- Changes that come of messages about different files lead to the same state in either order. -/
theorem Touched.swap {first second firstSecond secondFirst : State} {other : String}
    {touch' : Touch} (hother : name ≠ other) (hfirst : state.Touched first name touch)
    (hfirstSecond : first.Touched firstSecond other touch')
    (hsecond : state.Touched second other touch')
    (hsecondFirst : second.Touched secondFirst name touch) (hreach : Reachable firstSecond)
    (hreach' : Reachable secondFirst) : firstSecond = secondFirst := by
  apply hreach.eq_of_entries hreach'
  · rw [hfirstSecond.rest.1, hfirst.rest.1, hsecondFirst.rest.1, hsecond.rest.1]
  · intro found
    rw [hfirstSecond.entries, hfirst.entries, hsecondFirst.entries, hsecond.entries]
    by_cases hname : name = found
    · rw [if_pos hname, if_pos hname, if_neg (fun hsame => hother (hname.trans hsame.symm))]
    · rw [if_neg hname, if_neg hname]
  · intro locality
    rw [hfirstSecond.localities, hfirst.localities, hsecondFirst.localities, hsecond.localities]
    exact or_left_comm
  · intro found
    rw [hfirstSecond.locks, hfirst.locks, hsecondFirst.locks, hsecond.locks]
    by_cases hname : name = found
    · rw [if_pos hname, if_pos hname, if_neg (fun hsame => hother (hname.trans hsame.symm))]
    · rw [if_neg hname, if_neg hname]
  · rw [hfirstSecond.store, hfirst.store, hsecondFirst.store, hsecond.store]
    cases touch.discarded <;> cases touch'.discarded
    · rfl
    · rfl
    · rfl
    · exact Store.discard_comm _ _ _
  · rw [hfirstSecond.profile, hfirst.profile, hsecondFirst.profile, hsecond.profile,
      Option.map_map, Option.map_map]
    exact congrArg (fun change => state.profile.map change)
      (funext fun profile => profile.record_comm hother.symm touch'.usage touch.usage)
  · rw [hfirstSecond.rest.2.1, hfirst.rest.2.1, hsecondFirst.rest.2.1, hsecond.rest.2.1]
  · rw [hfirstSecond.rest.2.2, hfirst.rest.2.2, hsecondFirst.rest.2.2, hsecond.rest.2.2]

/-- Messages about different files for which there is room in host memory can change places. Each
has the result that it has on its own, and the whole state is the same in the end: the entries with
their index and counters, the locks, what clients see, the segments and the counted uses. -/
theorem independent_messages_commute (hreach : Reachable state) {first second : Message}
    {key other : String} (hfirst : first.hostKey? = some key)
    (hsecond : second.hostKey? = some other) (hother : key ≠ other)
    (hroom : (state.usedBytes .cpu).toNat + first.hostBytes + second.hostBytes ≤
      state.config.cpuCapacity.toNat) :
    ((state.handle second).state.handle first).result = (state.handle first).result ∧
      ((state.handle first).state.handle second).result = (state.handle second).result ∧
      ((state.handle first).state.handle second).state =
        ((state.handle second).state.handle first).state := by
  obtain ⟨hresult, htouched⟩ := @handle_touches state key first hfirst (by omega)
  obtain ⟨hresult', htouched'⟩ := @handle_touches state other second hsecond (by omega)
  have hused := htouched.used.trans (Nat.add_le_add_left (first.adds_touch_le key _) _)
  have hused' := htouched'.used.trans (Nat.add_le_add_left (second.adds_touch_le other _) _)
  obtain ⟨hlater, htouchedLater⟩ := @handle_touches (state.handle first).state other second hsecond
    (by rw [htouched.rest.1]; omega)
  obtain ⟨hlater', htouchedLater'⟩ := @handle_touches (state.handle second).state key first hfirst
    (by rw [htouched'.rest.1]; omega)
  -- Neither message changes what the other one looks at.
  rw [htouched.spot_of_ne hother] at hlater htouchedLater
  rw [htouched'.spot_of_ne hother.symm] at hlater' htouchedLater'
  refine ⟨hlater'.trans hresult.symm, hlater.trans hresult'.symm, ?_⟩
  exact htouched.swap hother htouchedLater htouched' htouchedLater'
    ((hreach.message first).message second) ((hreach.message second).message first)

/-- Of two objects in one segment the first is replaced and the second removed. There is just enough
room, and both orders lead to the same state, although each discards the segment first. -/
theorem independent_messages_commute_shared :
    let start := State.initial
      { cpuCapacity := 20, profiling := true, logDir := some "log" } (Store.empty none)
      FileTree.empty ""
    let state := start.handleAll
      [.put { fileName := "data/a", handle := "h", size := 4 }, .get "a" "x" "f",
        .put { fileName := "b", handle := "h", size := 4, function := "f", parameter := "x" }]
    let first : Message :=
      .replace { fileName := "a", handle := "k", size := 12, function := "f", parameter := "x" }
    let second : Message := .remove "tmp/b"
    Reachable state ∧ first.hostKey? = some "a" ∧ second.hostKey? = some "b" ∧
      (state.usedBytes .cpu).toNat + first.hostBytes + second.hostBytes =
        state.config.cpuCapacity.toNat ∧
      ((state.handle first).state.handle second).result = .ok .none ∧
      ((state.handle first).state.handle second).state =
        ((state.handle second).state.handle first).state := by
  intro start state first second
  have hreach : Reachable state := (Reachable.initial _ _ _ _).handleAll _
  have hfirst : first.hostKey? = some "a" := by decide
  have hsecond : second.hostKey? = some "b" := by decide
  have hroom : (state.usedBytes .cpu).toNat + first.hostBytes + second.hostBytes =
      state.config.cpuCapacity.toNat := by decide +kernel
  obtain ⟨-, hresult, hstate⟩ :=
    independent_messages_commute hreach hfirst hsecond (by decide) hroom.le
  exact ⟨hreach, hfirst, hsecond, hroom, hresult.trans (by decide +kernel), hstate⟩

end State

end SegmentCache
