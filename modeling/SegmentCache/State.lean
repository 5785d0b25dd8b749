import SegmentCache.Config
import SegmentCache.Event
import SegmentCache.Eviction
import SegmentCache.Key
import SegmentCache.Profile
import SegmentCache.Store
import SegmentCache.Text.Quoted

/-!
# The state of the cache

The cache holds the table and the locks, a copy of the entries for clients to look at, the segment
store it shares with producers, and the usage profile. `State.handle` applies one message. A
message that fails or crashes still yields a state, since what it did before that stays done.
-/

namespace SegmentCache

/-- Everything a cache works with. -/
structure State where
  /-- How the cache is set up. -/
  config : Config
  /-- The entries. -/
  table : Table
  /-- The locked names. -/
  locks : LockSet
  /-- The entries as clients see them. -/
  replica : Std.ExtTreeMap String Entry
  /-- The segments, shared with producers. -/
  store : Store
  /-- The uses so far, if they are counted. -/
  profile : Option Profile
  /-- The files reports are written to. -/
  files : FileTree
  /-- The time with which reports are marked. -/
  clock : String

/-- What a message that succeeded gives back. -/
inductive Response where
  /-- Nothing. -/
  | none
  /-- The answer to a question. -/
  | answer (value : Bool)
  /-- The wish to stop. -/
  | terminate
  deriving DecidableEq, Repr

/-- What applying a message leads to. -/
structure Outcome where
  /-- The state afterwards. -/
  state : State
  /-- What the message gives back, or why it failed, unless it crashed. -/
  result : Attempt CacheFailure Response
  /-- What happened on the way. -/
  events : List Event

/-- An object on its way into the table. -/
structure Insertion where
  /-- The key to add it under. -/
  name : String
  /-- Where it is to live. -/
  locality : Locality
  /-- The segment it is in, or is to be copied from. -/
  handle : String
  /-- What kind of object it is. -/
  kind : ObjectKind
  /-- Its bytes. -/
  size : UInt64
  /-- Its element type. -/
  dtype : String
  /-- Its extents. -/
  shape : List UInt64

namespace Outcome

/-- The same outcome with events before its own. -/
def after (events : List Event) (outcome : Outcome) : Outcome :=
  { outcome with events := events ++ outcome.events }

end Outcome

namespace State

/-- A cache that holds nothing yet. -/
def initial (config : Config) (store : Store) (files : FileTree) (clock : String) : State where
  config := config
  table := Table.empty
  locks := LockSet.empty
  replica := ∅
  store := store
  profile := if config.profiling then some Profile.empty else none
  files := files
  clock := clock

/-- The state with a message that succeeded without an answer. -/
def done (state : State) (events : List Event) : Outcome :=
  { state, result := .ok .none, events }

/-- The state with a message that failed. -/
def fail (state : State) (failure : CacheFailure) (events : List Event) : Outcome :=
  { state, result := .error failure, events }

/-- The state with a message that crashed. -/
def crash (state : State) (events : List Event) : Outcome :=
  { state, result := .crashed, events }

/-- The entry of a file. -/
def entry? (state : State) (fileName : String) : Option Entry :=
  state.table.get? (entryKey fileName)

/-- Whether the entry of a file is locked. -/
def isLocked (state : State) (fileName : String) : Bool :=
  state.locks.isLocked (entryKey fileName)

/-- Whether a file is cached. -/
def isInCache (state : State) (fileName : String) : Bool :=
  state.table.contains (entryKey fileName)

/-- The bytes used at a locality. -/
def usedBytes (state : State) (locality : Locality) : UInt64 :=
  state.table.usedBytes locality

/-- How full the cache is. -/
def summary (state : State) : Summary where
  entries := state.table.size
  maxSize := state.config.totalCapacity
  usedSize := state.table.totalBytes

/-- A short description of the state. -/
def describe (state : State) : String :=
  "CacheState \x7b process: " ++ Text.quoted state.config.processName ++
    s!", entries: {state.table.size}, locked: {state.locks.size} \x7d"

/-- Counts a file that was served, if uses are counted. -/
def countGet (state : State) (function parameter name : String) : State :=
  { state with profile := state.profile.map (·.recordGet function parameter name) }

/-- Counts a file that was offered, if uses are counted. -/
def countPut (state : State) (function parameter name : String) : State :=
  { state with profile := state.profile.map (·.recordPut function parameter name) }

/-- Lets go of an entry that left the table: clients no longer see it and its segment is freed. -/
def release (state : State) (entry : Entry) : State × List Event :=
  let state := { state with replica := state.replica.erase entry.name }
  match state.store.free entry.handle with
  | .ok store => ({ state with store := store }, [])
  | .error _ => (state, [.segmentGone entry.name entry.handle])

/-- Lets go of entries in turn. -/
def releaseAll (state : State) : List Entry → State × List Event
  | [] => (state, [])
  | entry :: entries =>
    let (state, events) := state.release entry
    let (state, later) := state.releaseAll entries
    (state, events ++ later)

/-- Makes room for a new object at a locality, as far as that is possible. -/
def makeRoom (state : State) (name : String) (locality : Locality) (size capacity : UInt64) :
    State × List Event :=
  if state.table.fits locality size capacity then (state, [])
  else
    let used := state.table.usedBytes locality
    let room := state.table.makeRoom state.locks locality size capacity
    let (state, released) := { state with table := room.table }.releaseAll room.evicted
    let used' := state.table.usedBytes locality
    let events :=
      .roomNeeded locality size used capacity ::
        .roomMade locality room.evicted.length room.freed :: released
    if state.table.fits locality size capacity then (state, events)
    else (state, events ++ [.overCapacity name locality used' size capacity])

/-- The segment in which an object is cached. An object in host memory stays in the segment it is
in; an object on a device is copied to a buffer of its own. -/
def place (store : Store) (insertion : Insertion) : Attempt SegmentFailure String × Store :=
  match insertion.locality with
  | .cpu => (.ok insertion.handle, store)
  | .gpu _ =>
    match store.allocate insertion.locality insertion.size with
    | (.error failure, store) => (.error failure, store)
    | (.crashed, store) => (.crashed, store)
    | (.ok buffer, store) =>
      match store.copy buffer insertion.handle with
      | .error failure => (.error failure, store)
      | .ok store => (.ok buffer, store)

/-- Adds an object under a name that is free. -/
def insert (state : State) (insertion : Insertion) : Outcome :=
  match state.config.capacityFor insertion.locality with
  | none => state.fail (.unconfiguredDevice (insertion.locality.device?.getD 0)) []
  | some capacity =>
    let (state, events) :=
      state.makeRoom insertion.name insertion.locality insertion.size capacity
    let used := state.table.usedBytes insertion.locality
    match Word.addChecked used insertion.size with
    | none =>
      state.fail (.sizeOverflow insertion.name insertion.locality used insertion.size) events
    | some _ =>
      match place state.store insertion with
      | (.error failure, store) =>
        { state with store := store }.fail (.segment failure) events
      | (.crashed, store) => { state with store := store }.crash events
      | (.ok handle, store) =>
        let entry : Entry :=
          { name := insertion.name
            handle := handle
            shape := insertion.shape
            dtype := insertion.dtype
            size := insertion.size
            hits := 0
            locality := insertion.locality
            kind := insertion.kind }
        { state with
          store := store
          replica := state.replica.insert entry.name entry
          table := (state.table.put entry).1 }.done (events ++ [Event.added entry])

/-- Counts a use of a file. -/
def get (state : State) (fileName parameter function : String) : Outcome :=
  let name := entryKey fileName
  match state.table.recordHit name with
  | none => state.done [.miss name]
  | some (table, hits) =>
    { state.countGet function parameter name with
      table := table
      replica := state.replica.modify name fun entry => { entry with hits := hits } }.done
      [.hit name hits]

/-- Adds an offered object unless its name is taken. -/
def put (state : State) (offer : Offer) : Outcome :=
  let name := entryKey offer.fileName
  if state.table.contains name then state.done [.duplicate name offer.handle]
  else
    (state.countPut offer.function offer.parameter name).insert
      { name := name
        locality := .cpu
        handle := offer.handle
        kind := offer.kind
        size := offer.size
        dtype := offer.dtype
        shape := offer.shape }

/-- Adds a copy of an object on a device unless its name is taken. -/
def putGpu (state : State) (offer : DeviceOffer) : Outcome :=
  match state.config.deviceAt offer.bus with
  | none => state.fail (.unknownDevice offer.bus) []
  | some device =>
    let name := entryKey offer.fileName
    if state.table.contains name then state.done [.deviceDuplicate name device.id]
    else
      (state.countPut offer.function offer.parameter name).insert
        { name := name
          locality := .gpu device.id
          handle := offer.handle
          kind := .deviceBuffer
          size := offer.size
          dtype := offer.dtype
          shape := offer.shape }

/-- Removes the entry of a file. -/
def remove (state : State) (fileName : String) : Outcome :=
  let name := entryKey fileName
  if state.locks.isLocked name then state.fail (.removeLocked name) [.removing name]
  else
    match state.table.remove name with
    | .error failure => state.fail failure [.removing name]
    | .ok (table, entry) =>
      let (state, events) := { state with table := table }.release entry
      state.done (.removing name :: events)

/-- Adds an offered object in place of the one its name has. -/
def replace (state : State) (offer : Offer) : Outcome :=
  let name := entryKey offer.fileName
  if state.table.contains name then
    let removed := state.remove name
    match removed.result with
    | .error _ | .crashed => removed
    | .ok _ => (removed.state.put { offer with fileName := name }).after removed.events
  else state.put { offer with fileName := name }

/-- Locks the entry of a file. -/
def lock (state : State) (fileName : String) : Outcome :=
  let name := entryKey fileName
  if state.table.contains name then
    match state.locks.lock name with
    | .error failure => state.fail failure []
    | .ok locks => { state with locks := locks }.done [.locking name]
  else state.fail (.lockUnknownEntry name) []

/-- Unlocks the entry of a file. -/
def unlock (state : State) (fileName : String) : Outcome :=
  let name := entryKey fileName
  match state.locks.unlock name with
  | .error failure => state.fail failure [.unlocking name]
  | .ok locks => { state with locks := locks }.done [.unlocking name]

/-- Writes the report of a profile into a directory, and gives the path it went to. -/
def writeReport (state : State) (profile : Profile) (directory : String) :
    State × Except CacheFailure String × List Event :=
  match profile.flush state.clock directory state.files with
  | (.error failure, files) => ({ state with files := files }, .error failure, [])
  | (.ok path, files) =>
    ({ state with files := files }, .ok path, [.reportWritten path profile.functions])

/-- Writes the usage report, if there is one to write and a place for it. -/
def endProfiling (state : State) : Outcome :=
  match state.profile, state.config.logDir with
  | some profile, some directory =>
    let (state, result, events) := state.writeReport profile directory
    { state, result := .ofExcept (result.map fun _ => .none), events }
  | _, _ => state.done [.profilingOff]

/-- The entries by hits, as they are reported when the cache stops. -/
def statusEvents (state : State) : List Event :=
  state.table.index.ascending.flatMap fun (hits, names) =>
    .statusBucket hits :: names.map fun name =>
      .statusEntry name (((state.table.get? name).map (·.size)).getD 0)

/-- Reports what is cached and asks to stop. -/
def quit (state : State) : Outcome where
  state := state
  result := .ok .terminate
  events := .statusBegins :: state.statusEvents ++ [.stopping state.summary]

/-- Applies a message. -/
def handle (state : State) : Message → Outcome
  | .get fileName parameter function => state.get fileName parameter function
  | .put offer => state.put offer
  | .putGpu offer => state.putGpu offer
  | .replace offer => state.replace offer
  | .remove fileName => state.remove fileName
  | .lock fileName => state.lock fileName
  | .unlock fileName => state.unlock fileName
  | .isLocked fileName =>
    { state, result := .ok (.answer (state.isLocked fileName)), events := [] }
  | .isInCache fileName =>
    { state, result := .ok (.answer (state.isInCache fileName)), events := [] }
  | .endProfiling => state.endProfiling
  | .quit => state.quit

end State

end SegmentCache
