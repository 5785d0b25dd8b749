import SegmentCache.Failure
import SegmentCache.Message

/-!
# Events

What the cache reports about its work. An event is a value of its own type; its level, wording and
fields as they go to a log are read off by `Event.record`.
-/

namespace SegmentCache

/-- How full the cache is when it stops. -/
structure Summary where
  /-- How many entries there are. -/
  entries : Nat
  /-- All capacities together. -/
  maxSize : UInt64
  /-- The bytes of all entries together. -/
  usedSize : UInt64
  deriving DecidableEq, Repr, Inhabited

/-- Something worth reporting. -/
inductive Event where
  /-- A file was asked for that is not cached. -/
  | miss (name : String)
  /-- A cached file was asked for. -/
  | hit (name : String) (hits : UInt64)
  /-- An object was offered under a name that is taken. -/
  | duplicate (name handle : String)
  /-- A copy to a device was asked for under a name that is taken. -/
  | deviceDuplicate (name : String) (device : UInt32)
  /-- A request does not fit as things stand. -/
  | roomNeeded (locality : Locality) (requested used capacity : UInt64)
  /-- Entries left to make room. -/
  | roomMade (locality : Locality) (evicted : Nat) (freed : UInt64)
  /-- A request is admitted although it does not fit. -/
  | overCapacity (name : String) (locality : Locality) (used requested capacity : UInt64)
  /-- An entry was added. -/
  | added (entry : Entry)
  /-- An entry is about to be removed. -/
  | removing (name : String)
  /-- An entry was locked. -/
  | locking (name : String)
  /-- An entry is about to be unlocked. -/
  | unlocking (name : String)
  /-- There is no profile to write. -/
  | profilingOff
  /-- An entry left whose segment is gone. -/
  | segmentGone (name handle : String)
  /-- A list of the entries by hits follows. -/
  | statusBegins
  /-- The entries with a number of hits follow. -/
  | statusBucket (hits : UInt64)
  /-- An entry of the list. -/
  | statusEntry (name : String) (size : UInt64)
  /-- The cache stops. -/
  | stopping (summary : Summary)
  /-- The usage report was written. -/
  | reportWritten (path : String) (functions : Nat)
  /-- The cache starts. -/
  | starting (cpuCapacity : UInt64) (devices : Nat) (profiling : Bool)
  /-- Nobody is left to send messages. -/
  | abandoned
  /-- A question was answered. -/
  | answered (action : Action) (fileName : String) (answer : Bool)
  /-- A question was asked by nobody who waits. -/
  | unasked (action : Action) (fileName : String)
  /-- A message failed. -/
  | failed (action : Action) (fileName : String) (failure : CacheFailure)
  /-- A message came after the cache stopped. -/
  | dropped (action : Action)
  /-- A question came after the cache stopped. -/
  | unanswered (action : Action)
  deriving DecidableEq, Repr

/-- How much an event matters. -/
inductive Level where
  | trace | debug | info | warn | error
  deriving DecidableEq, Repr

namespace Level

/-- Every level, from the least to the most important. -/
def all : List Level :=
  [.trace, .debug, .info, .warn, .error]

/-- The name of a level on the command line. -/
def option : Level → String
  | .trace => "trace"
  | .debug => "debug"
  | .info => "info"
  | .warn => "warn"
  | .error => "error"

/-- The name of a level in a log. -/
def text : Level → String
  | .trace => "TRACE"
  | .debug => "DEBUG"
  | .info => "INFO"
  | .warn => "WARN"
  | .error => "ERROR"

/-- The level with a name on the command line. -/
def ofOption? (name : String) : Option Level :=
  all.find? fun level => level.option == name

end Level

/-- The value of a field. -/
inductive FieldValue where
  | text (value : String)
  | number (value : Nat)
  | flag (value : Bool)
  deriving DecidableEq, Repr

/-- An event as it goes to a log. -/
structure LogRecord where
  /-- How much the event matters. -/
  level : Level
  /-- The wording of the event. -/
  message : String
  /-- The named particulars of the event. -/
  fields : List (String × FieldValue)
  deriving DecidableEq, Repr

/-- The event as logged by a process of the given name. -/
def Event.record (process : String) : Event → LogRecord
  | .miss name => ⟨.debug, "Cache miss", [own, file name]⟩
  | .hit name hits => ⟨.debug, "Cache hit", [own, file name, word "hits" hits]⟩
  | .duplicate name handle =>
    ⟨.debug, "The object already exists, not adding", [own, file name, text "handle" handle]⟩
  | .deviceDuplicate name device =>
    ⟨.debug, "The object already exists, not adding",
      [own, file name, number "device_id" device.toNat]⟩
  | .roomNeeded locality requested used capacity =>
    ⟨.debug, "Checking cache status",
      [text "locality" locality.text, word "requested_bytes" requested, word "used_bytes" used,
        word "capacity_bytes" capacity]⟩
  | .roomMade locality evicted freed =>
    ⟨.debug, "Evicting entries",
      [text "locality" locality.text, number "evicted" evicted, word "bytes_freed" freed]⟩
  | .overCapacity name locality used requested capacity =>
    ⟨.warn, "Cache over capacity after eviction, inserting anyway",
      [own, file name, text "locality" locality.text, word "used_bytes" used,
        word "requested_bytes" requested, word "capacity_bytes" capacity]⟩
  | .added entry =>
    ⟨.debug, "Cache add entry",
      [own, file entry.name, text "handle" entry.handle, word "size" entry.size,
        text "locality" entry.locality.text]⟩
  | .removing name => ⟨.debug, "Removing", [own, file name]⟩
  | .locking name => ⟨.debug, "Locking", [own, file name]⟩
  | .unlocking name => ⟨.debug, "Unlocking", [own, file name]⟩
  | .profilingOff => ⟨.debug, "Profiling disabled, nothing to flush", [own]⟩
  | .segmentGone name handle =>
    ⟨.warn, "Segment already released", [own, file name, text "handle" handle]⟩
  | .statusBegins => ⟨.debug, "Cache hits status:", [own]⟩
  | .statusBucket hits => ⟨.debug, s!"{hits} hits:", [own]⟩
  | .statusEntry name size => ⟨.debug, s!"\t- {name} {size}", [own]⟩
  | .stopping summary =>
    ⟨.info, "Stopping cache manager",
      [own, number "entries" summary.entries, word "max_size" summary.maxSize,
        word "used_size" summary.usedSize]⟩
  | .reportWritten path functions =>
    ⟨.info, "Cache profiler flushed", [text "path" path, number "functions" functions]⟩
  | .starting cpuCapacity devices profiling =>
    ⟨.debug, "Starting cache manager",
      [own, word "cpu_capacity" cpuCapacity, number "gpu_devices" devices,
        flag "profiling" profiling]⟩
  | .abandoned => ⟨.info, "All cache clients gone, stopping cache manager", [own]⟩
  | .answered action fileName answer =>
    ⟨.debug, "Query answered", [own, act action, file fileName, flag "answer" answer]⟩
  | .unasked action fileName =>
    ⟨.warn, "Query without reply channel", [act action, file fileName]⟩
  | .failed action fileName failure =>
    ⟨.error, "Exception " ++ failure.message,
      [own, act action, file fileName, flag "coherence" failure.isCoherence]⟩
  | .dropped action =>
    ⟨.debug, "Cache manager unavailable, dropping message", [act action]⟩
  | .unanswered action =>
    ⟨.debug, "Cache manager unavailable, treating query as miss", [act action]⟩
where
  text (name value : String) : String × FieldValue := (name, .text value)
  number (name : String) (value : Nat) : String × FieldValue := (name, .number value)
  word (name : String) (value : UInt64) : String × FieldValue := (name, .number value.toNat)
  flag (name : String) (value : Bool) : String × FieldValue := (name, .flag value)
  own : String × FieldValue := ("process", .text process)
  file (name : String) : String × FieldValue := ("file_name", .text name)
  act (action : Action) : String × FieldValue := ("action", .text action.text)

end SegmentCache
