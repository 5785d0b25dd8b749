import SegmentCache.Proofs.Key
import SegmentCache.Proofs.PlainCache
import SegmentCache.Proofs.Runs

/-!
# The cache behaves like the plain cache

Forgetting the index, the counters and the copy for clients turns a state into a plain cache. On
coherent states each message does the same before and after forgetting, so the two machines give
the same results and show the same contents on every run.
-/

namespace SegmentCache

namespace State

/-- The state without what it keeps in step with its entries. -/
def view (state : State) : PlainCache where
  config := state.config
  entries := state.table.entries
  locked := state.locks.names
  store := state.store
  profile := state.profile
  files := state.files
  clock := state.clock

/-- The plain cache has the configuration. -/
@[simp] theorem view_config (state : State) : state.view.config = state.config := rfl

/-- The plain cache has the store. -/
@[simp] theorem view_store (state : State) : state.view.store = state.store := rfl

/-- The entries of the plain cache are those of the table. -/
@[simp] theorem view_entries_getElem? (state : State) (name : String) :
    state.view.entries[name]? = state.table.get? name := rfl

/-- The plain cache has an entry where the table has one. -/
@[simp] theorem view_entries_contains (state : State) (name : String) :
    state.view.entries.contains name = state.table.contains name := rfl

/-- The locked files of the plain cache are those with a lock. -/
@[simp] theorem view_locked_contains (state : State) (name : String) :
    state.view.locked.contains name = state.locks.isLocked name := rfl

end State

/-- The outcome without its events and what the state keeps in step. -/
def Outcome.view (outcome : Outcome) : PlainCache × Attempt CacheFailure Response :=
  (outcome.state.view, outcome.result)

namespace State

/-- With exact counters, a request fits unless it exceeds the capacity beside the added up
sizes. -/
theorem fits_iff_not_exceeds {state : State} (hcounted : state.table.Counted) (locality : Locality)
    (size capacity : UInt64) :
    state.table.fits locality size capacity = true ↔
      ¬ state.view.Exceeds locality size capacity := by
  have hused : (state.table.usedBytes locality).toNat = state.view.used locality :=
    hcounted locality
  rw [Table.fits, decide_eq_true_eq, UInt64.le_iff_toNat_le, Word.toNat_addSat, Word.size_eq, hused,
    PlainCache.Exceeds]
  omega

/-- Taking an entry out and letting go of it drops it. -/
theorem view_release {state : State} {table : Table} {entry : Entry}
    (hremove : state.table.remove entry.name = .ok (table, entry)) :
    ({ state with table := table }.release entry).1.view = state.view.drop entry := by
  obtain ⟨-, hentries, -, -⟩ := Table.remove_eq_ok hremove
  simp [release_state, view, PlainCache.drop, hentries]

/-- Evicting entries that are there drops them in turn. -/
theorem view_evictInTurn (locality : Locality) (size capacity : UInt64) {entries : List Entry}
    {state : State} (hcounted : state.table.Counted)
    (hthere : ∀ entry ∈ entries, state.table.get? entry.name = some entry)
    (hdistinct : entries.Pairwise fun a b => a.name ≠ b.name) :
    (evictInTurn locality size capacity (entries.map (·.name)) state).view =
      PlainCache.shrink locality size capacity entries state.view := by
  induction entries generalizing state with
  | nil => rfl
  | cons entry entries ih =>
    obtain ⟨hothers, hdistinct⟩ := List.pairwise_cons.mp hdistinct
    obtain ⟨table, hremove⟩ := Table.exists_remove_eq_ok (hthere entry (by simp))
    have hfits := fits_iff_not_exceeds hcounted locality size capacity
    rw [List.map_cons, evictInTurn, PlainCache.shrink]
    by_cases hexceeds : state.view.Exceeds locality size capacity
    · have hfull : ¬ state.table.fits locality size capacity = true := by
        rw [hfits]
        exact not_not_intro hexceeds
      rw [if_neg hfull, if_pos hexceeds, hremove, ← view_release hremove]
      apply ih
      · rw [release_state]
        exact hcounted.remove hremove
      · intro other hother
        rw [release_state, Table.get?_remove hremove, if_neg (hothers other hother)]
        exact hthere other (by simp [hother])
      · exact hdistinct
    · rw [if_pos (hfits.mpr hexceeds), if_neg hexceeds]

/-- Making room is the same before and after forgetting. -/
theorem view_makeRoom {state : State} (hcoherent : state.Coherent) (name : String)
    (locality : Locality) (size capacity : UInt64) :
    (state.makeRoom name locality size capacity).1.view =
      state.view.makeRoom locality size capacity := by
  rw [makeRoom_state, hcoherent.indexed.candidates_eq]
  apply view_evictInTurn locality size capacity hcoherent.counted
  · intro entry hentry
    exact (hcoherent.indexed.mem_evictable.mp hentry).1
  · exact hcoherent.indexed.pairwise_evictable _ _

/-- A new entry under a free name is added to what is kept. -/
theorem view_add {state : State} {insertion : Insertion}
    (hfree : state.table.contains insertion.name = false) (handle : String) :
    (state.add insertion handle).view = state.view.add insertion handle := by
  have hput : (state.table.put (insertion.entry handle)).1.entries =
      state.table.entries.insert insertion.name (insertion.entry handle) := by
    rw [Table.put_of_free hfree]
    rfl
  simp only [add, view, PlainCache.add, hput]

/-- Adding an object for which there is room is the same before and after forgetting. -/
theorem view_settle {state : State} (hcounted : state.table.Counted) {insertion : Insertion}
    (hfree : state.table.contains insertion.name = false) (events : List Event) :
    (state.settle insertion events).view = state.view.settle insertion := by
  have hused : (state.table.usedBytes insertion.locality).toNat =
      state.view.used insertion.locality := hcounted insertion.locality
  have hword : UInt64.ofNat (state.view.used insertion.locality) =
      state.table.usedBytes insertion.locality := by
    rw [← hused, UInt64.ofNat_toNat]
  simp only [settle, PlainCache.settle]
  cases hsum : Word.addChecked (state.table.usedBytes insertion.locality) insertion.size with
  | none =>
    have hover := (Word.addChecked_eq_none_iff _ _).mp hsum
    rw [hused, Word.size_eq] at hover
    rw [if_pos hover, hword]
    rfl
  | some sum =>
    have hfits := Word.lt_of_addChecked_eq_some hsum
    rw [hused] at hfits
    rw [if_neg (by omega)]
    cases hlocality : insertion.locality with
    | cpu =>
      simp only [place, hlocality]
      exact congrArg (·, Attempt.ok Response.none) (view_add hfree insertion.handle)
    | gpu device =>
      simp only [place, hlocality, view_store]
      obtain ⟨allocated, store⟩ := state.store.allocate (.gpu device) insertion.size
      cases allocated with
      | error failure => rfl
      | crashed => rfl
      | ok buffer =>
        dsimp only
        cases store.copy buffer insertion.handle with
        | error failure => rfl
        | ok copied =>
          have hadd := @view_add { state with store := copied } insertion hfree buffer
          exact congrArg (·, Attempt.ok Response.none) hadd

/-- Adding an object under a free name is the same before and after forgetting. -/
theorem view_insert {state : State} (hcoherent : state.Coherent) {insertion : Insertion}
    (hfree : state.table.contains insertion.name = false) :
    (state.insert insertion).view = state.view.insert insertion := by
  rw [PlainCache.insert, view_config]
  cases hcapacity : state.config.capacityFor insertion.locality with
  | none =>
    rw [insert, hcapacity]
    rfl
  | some capacity =>
    have hroom := Moves.coherent (makeRoom_moves .quit state insertion.name insertion.locality
      insertion.size capacity) hcoherent
    rw [insert_eq_settle state insertion hcapacity,
      view_settle hroom.counted (contains_makeRoom hfree _ _ _ _), view_makeRoom hcoherent]

/-- Adding an offered object unless its name is taken is the same before and after forgetting. -/
theorem view_offer {state : State} (hcoherent : state.Coherent) (insertion : Insertion)
    (function parameter : String) (events : List Event) :
    (if state.table.contains insertion.name then state.done events
      else (state.countPut function parameter insertion.name).insert insertion).view =
      state.view.offer function parameter insertion := by
  rw [PlainCache.offer, view_entries_contains]
  cases hfree : state.table.contains insertion.name with
  | true => rfl
  | false =>
    have hcounting : (state.countPut function parameter insertion.name).Coherent :=
      ⟨hcoherent.indexed, hcoherent.counted, hcoherent.replica, hcoherent.locked⟩
    exact view_insert hcounting hfree

/-- Putting an object is the same before and after forgetting. -/
theorem view_put {state : State} (hcoherent : state.Coherent) (offer : Offer) :
    (state.put offer).view =
      state.view.offer offer.function offer.parameter
        (offer.insertion (entryKey offer.fileName)) :=
  view_offer hcoherent (offer.insertion (entryKey offer.fileName)) offer.function offer.parameter _

/-- Counting a use is the same before and after forgetting. -/
theorem view_get (state : State) (fileName parameter function : String) :
    (state.get fileName parameter function).view =
      state.view.get (entryKey fileName) parameter function := by
  simp only [get, PlainCache.get, view_entries_getElem?, Table.recordHit]
  cases state.table.get? (entryKey fileName) <;> rfl

/-- Removing an entry is the same before and after forgetting. -/
theorem view_remove {state : State} (hindexed : state.table.Indexed) (fileName : String) :
    (state.remove fileName).view = state.view.remove (entryKey fileName) := by
  simp only [remove, PlainCache.remove]
  rw [view_locked_contains, view_entries_getElem?]
  split
  · rfl
  · cases hfound : state.table.get? (entryKey fileName) with
    | none =>
      simp only [Table.remove, hfound]
      rfl
    | some entry =>
      obtain ⟨table, hremove⟩ := Table.exists_remove_eq_ok hfound
      rw [hremove]
      rw [← hindexed.named hfound] at hremove
      exact congrArg (·, Attempt.ok Response.none) (view_release hremove)

/-- Putting an object under a key that was already taken of its name is the same before and after
forgetting. -/
theorem view_put_key {state : State} (hcoherent : state.Coherent) (offer : Offer) :
    (state.put { offer with fileName := entryKey offer.fileName }).view =
      state.view.offer offer.function offer.parameter
        (offer.insertion (entryKey offer.fileName)) := by
  rw [view_put hcoherent, entryKey_entryKey]
  rfl

/-- Replacing an entry is the same before and after forgetting. -/
theorem view_replace {state : State} (hcoherent : state.Coherent) (offer : Offer) :
    (state.replace offer).view =
      state.view.replace offer.function offer.parameter
        (offer.insertion (entryKey offer.fileName)) := by
  have hname : (offer.insertion (entryKey offer.fileName)).name = entryKey offer.fileName := rfl
  simp only [replace, PlainCache.replace]
  rw [hname, view_entries_getElem?, view_locked_contains]
  cases hfound : state.table.get? (entryKey offer.fileName) with
  | none =>
    rw [if_neg (by simp [Table.contains_eq_false_iff.mpr hfound])]
    exact view_put_key hcoherent offer
  | some entry =>
    rw [if_pos (Table.contains_iff.mpr ⟨entry, hfound⟩)]
    have hremoved := view_remove hcoherent.indexed (entryKey offer.fileName)
    rw [entryKey_entryKey, PlainCache.remove, view_locked_contains, view_entries_getElem?,
      hfound] at hremoved
    have hrest := Moves.coherent (remove_moves .quit state (entryKey offer.fileName)) hcoherent
    generalize state.remove (entryKey offer.fileName) = removed at hremoved hrest ⊢
    obtain ⟨rest, result, events⟩ := removed
    by_cases hlocked : state.locks.isLocked (entryKey offer.fileName) = true
    · rw [if_pos hlocked] at hremoved
      have hresult : result = _ := congrArg Prod.snd hremoved
      subst hresult
      exact hremoved.trans (if_pos hlocked).symm
    · rw [if_neg hlocked] at hremoved
      have hresult : result = _ := congrArg Prod.snd hremoved
      have hdropped : rest.view = state.view.drop entry := congrArg Prod.fst hremoved
      subst hresult
      have hput := view_put_key hrest offer
      rw [hdropped] at hput
      exact hput.trans (if_neg hlocked).symm

/-- Locking is the same before and after forgetting. -/
theorem view_lock (state : State) (fileName : String) :
    (state.lock fileName).view = state.view.lock (entryKey fileName) := by
  simp only [lock, PlainCache.lock, LockSet.lock]
  rw [view_entries_contains, view_locked_contains]
  cases state.table.contains (entryKey fileName) with
  | false => rfl
  | true => cases state.locks.isLocked (entryKey fileName) <;> rfl

/-- Unlocking is the same before and after forgetting. -/
theorem view_unlock (state : State) (fileName : String) :
    (state.unlock fileName).view = state.view.unlock (entryKey fileName) := by
  simp only [unlock, PlainCache.unlock, LockSet.unlock]
  rw [view_locked_contains]
  cases state.locks.isLocked (entryKey fileName) <;> rfl

/-- Writing the usage report is the same before and after forgetting. -/
theorem view_endProfiling (state : State) :
    state.endProfiling.view = state.view.endProfiling := by
  obtain ⟨config, table, locks, replica, store, profile, files, clock⟩ := state
  cases profile with
  | none => rfl
  | some profile =>
    simp only [endProfiling, PlainCache.endProfiling, view, writeReport]
    cases config.logDir with
    | none => rfl
    | some directory =>
      dsimp only
      obtain ⟨written, after⟩ := profile.flush clock directory files
      cases written <;> rfl

/-- A message does the same to a coherent state before and after forgetting. -/
theorem view_handle {state : State} (hcoherent : state.Coherent) (message : Message) :
    (state.handle message).view = state.view.handle message := by
  cases message with
  | get fileName parameter function => exact view_get state fileName parameter function
  | put offer => exact view_put hcoherent offer
  | putGpu offer =>
    simp only [handle, putGpu, PlainCache.handle, view_config]
    cases state.config.deviceAt offer.bus with
    | none => rfl
    | some device =>
      exact view_offer hcoherent (offer.insertion device.id (entryKey offer.fileName))
        offer.function offer.parameter _
  | replace offer => exact view_replace hcoherent offer
  | remove fileName => exact view_remove hcoherent.indexed fileName
  | lock fileName => exact view_lock state fileName
  | unlock fileName => exact view_unlock state fileName
  | isLocked fileName => rfl
  | isInCache fileName => rfl
  | endProfiling => exact view_endProfiling state
  | quit => rfl

end State

/-- What can be seen of a cache once a message has been handled. -/
structure Observation where
  /-- What the message gave back, or why it failed. -/
  result : Attempt CacheFailure Response
  /-- The entries by key. -/
  entries : Std.ExtTreeMap String Entry
  /-- The locked keys. -/
  locked : Std.ExtTreeSet String
  /-- The entries as clients see them. -/
  replica : Std.ExtTreeMap String Entry
  /-- The segments. -/
  store : Store
  /-- The uses so far, if they are counted. -/
  profile : Option Profile
  /-- The files reports are written to. -/
  files : FileTree

/-- What is seen of a cache after each of the messages. -/
def State.trace (state : State) : List Message → List Observation
  | [] => []
  | message :: messages =>
    let outcome := state.handle message
    { result := outcome.result
      entries := outcome.state.table.entries
      locked := outcome.state.locks.names
      replica := outcome.state.replica
      store := outcome.state.store
      profile := outcome.state.profile
      files := outcome.state.files } :: outcome.state.trace messages

/-- What is seen of a plain cache after each of the messages. It shows clients its entries. -/
def PlainCache.trace (cache : PlainCache) : List Message → List Observation
  | [] => []
  | message :: messages =>
    let (cache, result) := cache.handle message
    { result := result
      entries := cache.entries
      locked := cache.locked
      replica := cache.entries
      store := cache.store
      profile := cache.profile
      files := cache.files } :: cache.trace messages

namespace State

/-- From a coherent state on, the cache shows what the plain cache shows. -/
theorem Coherent.trace_eq {state : State} (hcoherent : state.Coherent) (messages : List Message) :
    state.trace messages = state.view.trace messages := by
  induction messages generalizing state with
  | nil => rfl
  | cons message messages ih =>
    have hnext : (state.handle message).state.Coherent :=
      Moves.coherent (handle_moves state message) hcoherent
    rw [trace, PlainCache.trace, ← view_handle hcoherent message, ih hnext, hnext.replica]
    rfl

/-- On every run from the start, also over messages that fail, the cache gives the results of the
plain cache and shows the same entries, locks, client copy, segments, uses and files after every
message. -/
theorem trace_initial_eq_plainCache (config : Config) (store : Store) (files : FileTree)
    (clock : String) (messages : List Message) :
    (State.initial config store files clock).trace messages =
      (PlainCache.initial config store files clock).trace messages :=
  (Coherent.initial config store files clock).trace_eq messages

end State

end SegmentCache
