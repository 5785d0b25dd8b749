import SegmentCache.Proofs.EvictionOrder
import SegmentCache.Proofs.Moves

/-!
# A cache without bookkeeping

The plain cache keeps its entries and the locked names, and nothing that could be worked out from
them: no index, no counters and no copy for clients. It adds up the sizes of the entries at a
locality whenever it has to know how full that is, and sorts them whenever it needs room. It is
slow and easy to read, and says what the cache is meant to do.
-/

namespace SegmentCache

/-- A cache that works everything out from its entries. -/
structure PlainCache where
  /-- How the cache is set up. -/
  config : Config
  /-- The entries by key. -/
  entries : Std.ExtTreeMap String Entry
  /-- The locked keys. -/
  locked : Std.ExtTreeSet String
  /-- The segments, shared with producers. -/
  store : Store
  /-- The uses so far, if they are counted. -/
  profile : Option Profile
  /-- The files reports are written to. -/
  files : FileTree
  /-- The time with which reports are marked. -/
  clock : String

/-- An offered object on its way into host memory under a key. -/
def Offer.insertion (offer : Offer) (key : String) : Insertion where
  name := key
  locality := .cpu
  handle := offer.handle
  kind := offer.kind
  size := offer.size
  dtype := offer.dtype
  shape := offer.shape

/-- An offered object on its way to a device under a key. -/
def DeviceOffer.insertion (offer : DeviceOffer) (device : UInt32) (key : String) : Insertion where
  name := key
  locality := .gpu device
  handle := offer.handle
  kind := .deviceBuffer
  size := offer.size
  dtype := offer.dtype
  shape := offer.shape

namespace PlainCache

/-- A plain cache that holds nothing yet. -/
def initial (config : Config) (store : Store) (files : FileTree) (clock : String) :
    PlainCache where
  config := config
  entries := ∅
  locked := ∅
  store := store
  profile := if config.profiling then some Profile.empty else none
  files := files
  clock := clock

/-- The bytes used at a locality, added up afresh. -/
def used (cache : PlainCache) (locality : Locality) : Nat :=
  bytesAt cache.entries locality

/-- Whether a request exceeds the capacity beside what is used. The sum stops at the largest word,
which is the largest capacity there is. -/
def Exceeds (cache : PlainCache) (locality : Locality) (size capacity : UInt64) : Prop :=
  min (2 ^ 64 - 1) (cache.used locality + size.toNat) > capacity.toNat

instance (cache : PlainCache) (locality : Locality) (size capacity : UInt64) :
    Decidable (cache.Exceeds locality size capacity) :=
  inferInstanceAs (Decidable (_ > _))

/-- The cache without an entry and its segment. -/
def drop (cache : PlainCache) (entry : Entry) : PlainCache :=
  { cache with
    entries := cache.entries.erase entry.name
    store := cache.store.discard entry.handle }

/-- Drops the entries in turn while the request exceeds the capacity. -/
def shrink (locality : Locality) (size capacity : UInt64) :
    List Entry → PlainCache → PlainCache
  | [], cache => cache
  | entry :: entries, cache =>
    if cache.Exceeds locality size capacity then
      shrink locality size capacity entries (cache.drop entry)
    else cache

/-- Makes room for a request at a locality, as far as that is possible. -/
def makeRoom (cache : PlainCache) (locality : Locality) (size capacity : UInt64) : PlainCache :=
  shrink locality size capacity (evictable cache.entries cache.locked locality) cache

/-- The cache with the entry of an object that is in its segment. -/
def add (cache : PlainCache) (insertion : Insertion) (handle : String) : PlainCache :=
  { cache with entries := cache.entries.insert insertion.name (insertion.entry handle) }

/-- Adds an object for which room has been made. An object on a device is copied to a buffer of its
own, which stays allocated when the copy fails. One that is longer than any buffer takes a handle
off the counter and crashes. -/
def settle (cache : PlainCache) (insertion : Insertion) :
    PlainCache × Attempt CacheFailure Response :=
  let used := cache.used insertion.locality
  if 2 ^ 64 ≤ used + insertion.size.toNat then
    (cache, .error (.sizeOverflow insertion.name insertion.locality (UInt64.ofNat used)
      insertion.size))
  else
    match insertion.locality with
    | .cpu => (cache.add insertion insertion.handle, .ok .none)
    | .gpu _ =>
      match cache.store.allocate insertion.locality insertion.size with
      | (.error failure, store) => ({ cache with store := store }, .error (.segment failure))
      | (.crashed, store) => ({ cache with store := store }, .crashed)
      | (.ok buffer, store) =>
        match store.copy buffer insertion.handle with
        | .error failure => ({ cache with store := store }, .error (.segment failure))
        | .ok store => ({ cache with store := store }.add insertion buffer, .ok .none)

/-- Adds an object under a key that is free. -/
def insert (cache : PlainCache) (insertion : Insertion) :
    PlainCache × Attempt CacheFailure Response :=
  match cache.config.capacityFor insertion.locality with
  | none => (cache, .error (.unconfiguredDevice (insertion.locality.device?.getD 0)))
  | some capacity =>
    (cache.makeRoom insertion.locality insertion.size capacity).settle insertion

/-- Adds an offered object unless its key is taken. -/
def offer (cache : PlainCache) (function parameter : String) (insertion : Insertion) :
    PlainCache × Attempt CacheFailure Response :=
  if cache.entries.contains insertion.name then (cache, .ok .none)
  else
    let profile := cache.profile.map fun profile =>
      profile.recordPut function parameter insertion.name
    { cache with profile := profile }.insert insertion

/-- Counts a use of the entry with a key. -/
def get (cache : PlainCache) (key parameter function : String) :
    PlainCache × Attempt CacheFailure Response :=
  match cache.entries[key]? with
  | none => (cache, .ok .none)
  | some entry =>
    ({ cache with
       entries := cache.entries.insert key { entry with hits := Word.addSat entry.hits 1 }
       profile := cache.profile.map fun profile => profile.recordGet function parameter key },
     .ok .none)

/-- Drops the entry with a key unless it is locked. -/
def remove (cache : PlainCache) (key : String) : PlainCache × Attempt CacheFailure Response :=
  if cache.locked.contains key then (cache, .error (.removeLocked key))
  else
    match cache.entries[key]? with
    | none => (cache, .error (.unknownEntry key))
    | some entry => (cache.drop entry, .ok .none)

/-- Adds an offered object in place of the entry its key has, unless that is locked. -/
def replace (cache : PlainCache) (function parameter : String) (insertion : Insertion) :
    PlainCache × Attempt CacheFailure Response :=
  match cache.entries[insertion.name]? with
  | none => cache.offer function parameter insertion
  | some entry =>
    if cache.locked.contains insertion.name then (cache, .error (.removeLocked insertion.name))
    else (cache.drop entry).offer function parameter insertion

/-- Locks the entry with a key. -/
def lock (cache : PlainCache) (key : String) : PlainCache × Attempt CacheFailure Response :=
  if !cache.entries.contains key then (cache, .error (.lockUnknownEntry key))
  else if cache.locked.contains key then (cache, .error (.alreadyLocked key))
  else ({ cache with locked := cache.locked.insert key }, .ok .none)

/-- Unlocks a key. -/
def unlock (cache : PlainCache) (key : String) : PlainCache × Attempt CacheFailure Response :=
  if cache.locked.contains key then ({ cache with locked := cache.locked.erase key }, .ok .none)
  else (cache, .error (.notLocked key))

/-- Writes the usage report, if there is one to write and a place for it. -/
def endProfiling (cache : PlainCache) : PlainCache × Attempt CacheFailure Response :=
  match cache.profile, cache.config.logDir with
  | some profile, some directory =>
    let (written, files) := profile.flush cache.clock directory cache.files
    ({ cache with files := files }, .ofExcept (written.map fun _ => .none))
  | _, _ => (cache, .ok .none)

/-- Applies a message. -/
def handle (cache : PlainCache) : Message → PlainCache × Attempt CacheFailure Response
  | .get fileName parameter function => cache.get (entryKey fileName) parameter function
  | .put offer =>
    cache.offer offer.function offer.parameter (offer.insertion (entryKey offer.fileName))
  | .putGpu offer =>
    match cache.config.deviceAt offer.bus with
    | none => (cache, .error (.unknownDevice offer.bus))
    | some device =>
      cache.offer offer.function offer.parameter
        (offer.insertion device.id (entryKey offer.fileName))
  | .replace offer =>
    cache.replace offer.function offer.parameter (offer.insertion (entryKey offer.fileName))
  | .remove fileName => cache.remove (entryKey fileName)
  | .lock fileName => cache.lock (entryKey fileName)
  | .unlock fileName => cache.unlock (entryKey fileName)
  | .isLocked fileName => (cache, .ok (.answer (cache.locked.contains (entryKey fileName))))
  | .isInCache fileName => (cache, .ok (.answer (cache.entries.contains (entryKey fileName))))
  | .endProfiling => cache.endProfiling
  | .quit => (cache, .ok .terminate)

end PlainCache

end SegmentCache
