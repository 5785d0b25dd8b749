import SegmentCache.State
import SegmentCache.Proofs.Table

/-!
# The moves of a message

Handling a message makes a sequence of small changes, some of them before it fails. `Move` lists
the changes there are, each with what is known when it is made, and `handle_moves` says that a
message does nothing else. What every move keeps, every message keeps.

Making room is the one loop among the handlers. `makeRoom_induction` carries to its end what is
kept whenever an entry leaves.
-/

namespace SegmentCache

/-- A checked sum that succeeds is in the range of a word. -/
theorem Word.lt_of_addChecked_eq_some {a b sum : UInt64} (hsum : addChecked a b = some sum) :
    a.toNat + b.toNat < 2 ^ 64 := by
  unfold addChecked at hsum
  split at hsum
  · assumption
  · cases hsum

/-- The store without a segment. A handle that is not live leaves the store as it is. -/
def Store.discard (store : Store) (handle : String) : Store :=
  { store with segments := store.segments.erase handle }

/-- Discarding a handle that is not live changes nothing. -/
theorem Store.discard_of_not_contains {store : Store} {handle : String}
    (habsent : store.contains handle = false) : store.discard handle = store := by
  have hsegments : store.segments.erase handle = store.segments := by
    apply Std.ExtTreeMap.ext_getElem?
    intro other
    by_cases hhandle : handle = other
    · subst hhandle
      simp [Std.ExtTreeMap.getElem?_eq_none_of_contains_eq_false habsent]
    · simp [Std.ExtTreeMap.getElem?_erase, hhandle]
  unfold discard
  rw [hsegments]

/-- The entry of an object that is in its segment. -/
def Insertion.entry (insertion : Insertion) (handle : String) : Entry where
  name := insertion.name
  handle := handle
  shape := insertion.shape
  dtype := insertion.dtype
  size := insertion.size
  hits := 0
  locality := insertion.locality
  kind := insertion.kind

namespace State

/-- Letting go of an entry hides it from clients and discards its segment, live or not. -/
theorem release_state (state : State) (entry : Entry) :
    (state.release entry).1 =
      { state with
        replica := state.replica.erase entry.name
        store := state.store.discard entry.handle } := by
  unfold release
  cases hlive : state.store.contains entry.handle with
  | true => simp [Store.free, hlive, Store.discard]
  | false => simp [Store.free, hlive, Store.discard_of_not_contains hlive]

/-- Takes out the named entries one by one until the request fits, and lets go of each at once. -/
def evictInTurn (locality : Locality) (requested capacity : UInt64) :
    List String → State → State
  | [], state => state
  | name :: names, state =>
    if state.table.fits locality requested capacity then state
    else
      match state.table.remove name with
      | .error _ => evictInTurn locality requested capacity names state
      | .ok (table, entry) =>
        evictInTurn locality requested capacity names
          ({ state with table := table }.release entry).1

/-- Letting go of the evicted entries after all of them have left the table comes to the same as
letting go of each when it leaves. -/
theorem releaseAll_evict (locality : Locality) (requested capacity : UInt64) (names : List String)
    (state : State) :
    ({ state with
        table := (Table.evict locality requested capacity names state.table).table }.releaseAll
      (Table.evict locality requested capacity names state.table).evicted).1 =
      evictInTurn locality requested capacity names state := by
  induction names generalizing state with
  | nil => rfl
  | cons name names ih =>
    unfold Table.evict evictInTurn
    split
    · rfl
    · cases hremove : state.table.remove name with
      | error failure => exact ih state
      | ok removed =>
        obtain ⟨table, entry⟩ := removed
        have hlater := ih ({ state with table := table }.release entry).1
        simp only [release_state] at hlater
        simp only [releaseAll, release_state]
        exact hlater

/-- Making room takes out the candidates in turn until the request fits. -/
theorem makeRoom_state (state : State) (name : String) (locality : Locality)
    (size capacity : UInt64) :
    (state.makeRoom name locality size capacity).1 =
      evictInTurn locality size capacity (state.table.candidates state.locks locality) state := by
  unfold makeRoom
  split
  · rename_i hfits
    cases state.table.candidates state.locks locality <;> simp [evictInTurn, hfits]
  · rw [← releaseAll_evict]
    exact (apply_ite Prod.fst _ _ _).trans (ite_self _)

/-- The state with the entry of an object that is in its segment. -/
def add (state : State) (insertion : Insertion) (handle : String) : State :=
  { state with
    replica := state.replica.insert insertion.name (insertion.entry handle)
    table := (state.table.put (insertion.entry handle)).1 }

/-- Adds an object for which room has been made. -/
def settle (state : State) (insertion : Insertion) (events : List Event) : Outcome :=
  let used := state.table.usedBytes insertion.locality
  match Word.addChecked used insertion.size with
  | none => state.fail (.sizeOverflow insertion.name insertion.locality used insertion.size) events
  | some _ =>
    match place state.store insertion with
    | (.error failure, store) => { state with store := store }.fail (.segment failure) events
    | (.crashed, store) => { state with store := store }.crash events
    | (.ok handle, store) =>
      ({ state with store := store }.add insertion handle).done
        (events ++ [Event.added (insertion.entry handle)])

/-- Adding an object makes room for it and then adds it. -/
theorem insert_eq_settle (state : State) (insertion : Insertion) {capacity : UInt64}
    (hcapacity : state.config.capacityFor insertion.locality = some capacity) :
    state.insert insertion =
      let made := state.makeRoom insertion.name insertion.locality insertion.size capacity
      made.1.settle insertion made.2 := by
  rw [insert, hcapacity]
  rfl

/-- One change that a message makes to the state. -/
inductive Move (message : Message) : State → State → Prop
  /-- Something beside the entries changes: segments, counted uses or written reports. -/
  | beside (state : State) (store : Store) (profile : Option Profile) (files : FileTree) :
      Move message state { state with store := store, profile := profile, files := files }
  /-- A hit is counted in the table and shown to clients. -/
  | hit {state : State} {name : String} {table : Table} {hits : UInt64}
      (hhit : state.table.recordHit name = some (table, hits)) :
      Move message state { state with
        table := table
        replica := state.replica.modify name fun entry => { entry with hits := hits } }
  /-- An entry that is not locked leaves the table and is let go of. -/
  | drop {state : State} {name : String} {table : Table} {entry : Entry}
      (hunlocked : state.locks.isLocked name = false)
      (hremove : state.table.remove name = .ok (table, entry)) :
      Move message state ({ state with table := table }.release entry).1
  /-- An entry that has not been asked for yet is added under a free name, and its bytes still
  fit the counter of its locality. -/
  | add {state : State} {entry : Entry} (hfree : state.table.contains entry.name = false)
      (hhits : entry.hits = 0)
      (hfits : (state.table.usedBytes entry.locality).toNat + entry.size.toNat < 2 ^ 64) :
      Move message state { state with
        replica := state.replica.insert entry.name entry
        table := (state.table.put entry).1 }
  /-- An entry that is there is locked. -/
  | lock {state : State} {name : String} {locks : LockSet}
      (hknown : state.table.contains name = true) (hlock : state.locks.lock name = .ok locks) :
      Move message state { state with locks := locks }
  /-- A name is unlocked, because the message asks for it. -/
  | unlock {state : State} {fileName : String} {locks : LockSet}
      (hmessage : message = .unlock fileName)
      (hunlock : state.locks.unlock (entryKey fileName) = .ok locks) :
      Move message state { state with locks := locks }

/-- A sequence of moves. -/
abbrev Moves (message : Message) : State → State → Prop :=
  Relation.ReflTransGen (Move message)

/-- What holds of the state to begin with and is kept whenever one of the names leaves holds when
eviction has come to its end. -/
theorem evictInTurn_induction {motive : State → Prop} (locality : Locality)
    (requested capacity : UInt64) {names : List String} {state : State} (hstart : motive state)
    (hdrop : ∀ {next : State} {name : String} {table : Table} {entry : Entry}, name ∈ names →
      next.table.remove name = .ok (table, entry) → motive next →
      motive ({ next with table := table }.release entry).1) :
    motive (evictInTurn locality requested capacity names state) := by
  induction names generalizing state with
  | nil => exact hstart
  | cons name names ih =>
    have hlater {next : State} (hnext : motive next) :
        motive (evictInTurn locality requested capacity names next) :=
      ih hnext fun hname => hdrop (List.mem_cons_of_mem name hname)
    unfold evictInTurn
    split
    · exact hstart
    · split
      · exact hlater hstart
      · rename_i hremove
        exact hlater (hdrop List.mem_cons_self hremove hstart)

/-- Evicting names leaves a free name free. -/
theorem contains_evictInTurn (locality : Locality) (requested capacity : UInt64)
    {names : List String} {state : State} {free : String}
    (hfree : state.table.contains free = false) :
    (evictInTurn locality requested capacity names state).table.contains free = false := by
  refine evictInTurn_induction (motive := fun next => next.table.contains free = false) locality
    requested capacity hfree ?_
  intro next name table entry _ hremove hnext
  rw [release_state, Table.contains_eq_false_iff, Table.get?_remove hremove]
  split
  · rfl
  · exact Table.contains_eq_false_iff.mp hnext

/-- A candidate for eviction is not locked. -/
theorem isLocked_of_mem_candidates {table : Table} {locks : LockSet} {locality : Locality}
    {name : String} (hname : name ∈ table.candidates locks locality) :
    locks.isLocked name = false := by
  simp only [Table.candidates, List.mem_filter, Bool.and_eq_true, Bool.not_eq_eq_eq_not,
    Bool.not_true] at hname
  exact hname.2.1

/-- What holds of the state to begin with and is kept whenever an entry leaves that is not locked
holds when room has been made. -/
theorem makeRoom_induction {motive : State → Prop} {state : State} (name : String)
    (locality : Locality) (size capacity : UInt64) (hstart : motive state)
    (hdrop : ∀ {next : State} {victim : String} {table : Table} {entry : Entry},
      next.locks.isLocked victim = false → next.table.remove victim = .ok (table, entry) →
      motive next → motive ({ next with table := table }.release entry).1) :
    motive (state.makeRoom name locality size capacity).1 := by
  rw [makeRoom_state]
  -- The candidates are not locked to begin with, and the locks stay as they are.
  refine (evictInTurn_induction (motive := fun next => motive next ∧ next.locks = state.locks)
    locality size capacity ⟨hstart, rfl⟩ ?_).1
  intro next victim table entry hvictim hremove ⟨hnext, hlocks⟩
  refine ⟨hdrop (hlocks ▸ isLocked_of_mem_candidates hvictim) hremove hnext, ?_⟩
  rw [release_state]
  exact hlocks

/-- Making room is a sequence of moves. -/
theorem makeRoom_moves (message : Message) (state : State) (name : String) (locality : Locality)
    (size capacity : UInt64) :
    Moves message state (state.makeRoom name locality size capacity).1 :=
  makeRoom_induction name locality size capacity .refl fun hunlocked hremove hmoves =>
    hmoves.tail (.drop hunlocked hremove)

/-- Making room changes the entries, what clients see of them and the store, and nothing else. -/
theorem makeRoom_frame (state : State) (name : String) (locality : Locality)
    (size capacity : UInt64) :
    ∃ table replica store, (state.makeRoom name locality size capacity).1 =
      { state with table := table, replica := replica, store := store } := by
  refine makeRoom_induction (motive := fun next => ∃ table replica store,
    next = { state with table := table, replica := replica, store := store }) name locality size
    capacity ⟨_, _, _, rfl⟩ ?_
  rintro _ victim rest entry - - ⟨table, replica, store, rfl⟩
  exact ⟨_, _, _, release_state _ entry⟩

/-- Making room leaves the locks alone. -/
theorem makeRoom_locks (state : State) (name : String) (locality : Locality)
    (size capacity : UInt64) :
    (state.makeRoom name locality size capacity).1.locks = state.locks := by
  obtain ⟨table, replica, store, hroom⟩ := state.makeRoom_frame name locality size capacity
  rw [hroom]

/-- Making room leaves a free name free. -/
theorem contains_makeRoom {state : State} {free : String}
    (hfree : state.table.contains free = false) (name : String) (locality : Locality)
    (size capacity : UInt64) :
    (state.makeRoom name locality size capacity).1.table.contains free = false := by
  rw [makeRoom_state]
  exact contains_evictInTurn locality size capacity hfree

/-- Adding an object for which room has been made is a sequence of moves, also when it fails on
the way. -/
theorem settle_moves (message : Message) {state : State} {insertion : Insertion}
    (hfree : state.table.contains insertion.name = false) (events : List Event) :
    Moves message state (state.settle insertion events).state := by
  simp only [settle]
  split
  · exact .refl
  · rename_i total htotal
    have hfits : (state.table.usedBytes insertion.locality).toNat + insertion.size.toNat <
        2 ^ 64 := Word.lt_of_addChecked_eq_some htotal
    split
    · rename_i store _
      exact .single (.beside state store state.profile state.files)
    · rename_i store _
      exact .single (.beside state store state.profile state.files)
    · rename_i handle store _
      refine .head (.beside state store state.profile state.files) (.single ?_)
      exact .add hfree rfl hfits

/-- Adding an object under a free name is a sequence of moves, also when it fails on the way. -/
theorem insert_moves (message : Message) {state : State} {insertion : Insertion}
    (hfree : state.table.contains insertion.name = false) :
    Moves message state (state.insert insertion).state := by
  cases hcapacity : state.config.capacityFor insertion.locality with
  | none =>
    rw [insert, hcapacity]
    exact .refl
  | some capacity =>
    rw [insert_eq_settle state insertion hcapacity]
    exact (makeRoom_moves message state _ _ _ _).trans
      (settle_moves message (contains_makeRoom hfree _ _ _ _) _)

/-- An offered object is added by a sequence of moves. -/
theorem put_moves (message : Message) (state : State) (offer : Offer) :
    Moves message state (state.put offer).state := by
  simp only [put]
  split
  · exact .refl
  · rename_i hfree
    refine .head (.beside state state.store _ state.files) (insert_moves message ?_)
    simpa [countPut] using hfree

/-- A copy on a device is added by a sequence of moves. -/
theorem putGpu_moves (message : Message) (state : State) (offer : DeviceOffer) :
    Moves message state (state.putGpu offer).state := by
  unfold putGpu
  split
  · exact .refl
  · simp only
    split
    · exact .refl
    · rename_i hfree
      refine .head (.beside state state.store _ state.files) (insert_moves message ?_)
      simpa [countPut] using hfree

/-- An entry is removed by a sequence of moves. -/
theorem remove_moves (message : Message) (state : State) (fileName : String) :
    Moves message state (state.remove fileName).state := by
  simp only [remove]
  split
  · exact .refl
  · rename_i hunlocked
    split
    · exact .refl
    · rename_i table entry hremove
      exact .single (.drop (by simpa using hunlocked) hremove)

/-- An entry is replaced by a sequence of moves, also when only its removal succeeds. -/
theorem replace_moves (message : Message) (state : State) (offer : Offer) :
    Moves message state (state.replace offer).state := by
  have hremoved := remove_moves message state (entryKey offer.fileName)
  simp only [replace]
  split
  · split
    · exact hremoved
    · exact hremoved
    · exact hremoved.trans (put_moves message _ _)
  · exact put_moves message _ _

/-- A message changes the state by moves only, whether or not it succeeds. -/
theorem handle_moves (state : State) (message : Message) :
    Moves message state (state.handle message).state := by
  cases message with
  | get fileName parameter function =>
    simp only [handle, get]
    split
    · exact .refl
    · rename_i table hits hhit
      exact .head (.hit hhit) (.single (.beside _ state.store _ state.files))
  | put offer => exact put_moves _ state offer
  | putGpu offer => exact putGpu_moves _ state offer
  | replace offer => exact replace_moves _ state offer
  | remove fileName => exact remove_moves _ state fileName
  | lock fileName =>
    simp only [handle, lock]
    split
    · rename_i hknown
      split
      · exact .refl
      · rename_i locks hlock
        exact .single (.lock hknown hlock)
    · exact .refl
  | unlock fileName =>
    simp only [handle, unlock]
    split
    · exact .refl
    · rename_i locks hunlock
      exact .single (.unlock rfl hunlock)
  | isLocked fileName => exact .refl
  | isInCache fileName => exact .refl
  | endProfiling =>
    simp only [handle, endProfiling]
    split
    · rename_i profile directory _ _
      unfold writeReport
      split <;> exact .single (.beside state state.store state.profile _)
    · exact .refl
  | quit => exact .refl

end State

end SegmentCache
