import SegmentCache.Entry

/-!
# Messages

Workers talk to the cache in messages. Most name a file; the cache works with the key of that
name. Two of them are questions, which are answered with yes or no.
-/

namespace SegmentCache

/-- An object in host memory that a worker offers to the cache. -/
structure Offer where
  /-- The file the object was made from. -/
  fileName : String
  /-- The segment that holds the object. -/
  handle : String
  /-- What kind of object it is. -/
  kind : ObjectKind := .sharedMemory
  /-- The parameter the object is meant for. -/
  parameter : String := ""
  /-- The function the object is meant for. -/
  function : String := ""
  /-- The bytes of the object. -/
  size : UInt64
  /-- The element type of an array. -/
  dtype : String := ""
  /-- The extents of an array. -/
  shape : List UInt64 := []
  deriving DecidableEq, Repr, Inhabited

/-- An object that the cache is asked to copy to a device. -/
structure DeviceOffer where
  /-- The file the object was made from. -/
  fileName : String
  /-- The segment to copy from. -/
  handle : String
  /-- The bus address of the device. -/
  bus : String
  /-- The parameter the object is meant for. -/
  parameter : String := ""
  /-- The function the object is meant for. -/
  function : String := ""
  /-- The bytes of the object. -/
  size : UInt64
  /-- The element type of an array. -/
  dtype : String := ""
  /-- The extents of an array. -/
  shape : List UInt64 := []
  deriving DecidableEq, Repr, Inhabited

/-- What a message asks for. -/
inductive Action where
  | get | put | putGpu | replace | remove | lock | unlock | isLocked | isInCache
  | endProfiling | quit
  deriving DecidableEq, Repr, Inhabited

namespace Action

/-- Every action, in the order in which they are listed in diagnostics. -/
def all : List Action :=
  [.get, .put, .putGpu, .replace, .remove, .lock, .unlock, .isLocked, .isInCache,
    .endProfiling, .quit]

/-- The written name of an action. -/
def text : Action → String
  | .get => "GET"
  | .put => "PUT"
  | .putGpu => "PUT_GPU"
  | .replace => "REPLACE"
  | .remove => "REMOVE"
  | .lock => "LOCK"
  | .unlock => "UNLOCK"
  | .isLocked => "IS_LOCKED"
  | .isInCache => "IS_IN_CACHE"
  | .endProfiling => "END_PROFILING"
  | .quit => "QUIT"

/-- The action with a written name. -/
def ofText? (name : String) : Option Action :=
  all.find? fun action => action.text == name

/-- Reading the written name of an action gives the action back. -/
theorem ofText?_text (action : Action) : ofText? action.text = some action := by
  cases action <;> decide

/-- Whether the action is a question. -/
def isQuery : Action → Bool
  | .isLocked | .isInCache => true
  | _ => false

end Action

/-- A message to the cache. -/
inductive Message where
  /-- An object is used; the cache counts a hit. -/
  | get (fileName parameter function : String)
  /-- An object is offered. -/
  | put (offer : Offer)
  /-- An object is to be copied to a device. -/
  | putGpu (offer : DeviceOffer)
  /-- An object is offered in place of the one cached for its file. -/
  | replace (offer : Offer)
  /-- An object is to leave the cache. -/
  | remove (fileName : String)
  /-- An object must stay until it is unlocked. -/
  | lock (fileName : String)
  /-- An object may leave again. -/
  | unlock (fileName : String)
  /-- Asks whether an object is locked. -/
  | isLocked (fileName : String)
  /-- Asks whether an object is cached. -/
  | isInCache (fileName : String)
  /-- The usage report is to be written. -/
  | endProfiling
  /-- The cache is to stop. -/
  | quit
  deriving DecidableEq, Repr, Inhabited

namespace Message

/-- What a message asks for. -/
def action : Message → Action
  | .get .. => .get
  | .put _ => .put
  | .putGpu _ => .putGpu
  | .replace _ => .replace
  | .remove _ => .remove
  | .lock _ => .lock
  | .unlock _ => .unlock
  | .isLocked _ => .isLocked
  | .isInCache _ => .isInCache
  | .endProfiling => .endProfiling
  | .quit => .quit

/-- The file a message names, as it is written there. -/
def fileName? : Message → Option String
  | .get fileName _ _ => some fileName
  | .put offer => some offer.fileName
  | .putGpu offer => some offer.fileName
  | .replace offer => some offer.fileName
  | .remove fileName | .lock fileName | .unlock fileName | .isLocked fileName
  | .isInCache fileName => some fileName
  | .endProfiling | .quit => none

/-- The segment that a message names, and the bytes it is said to have. -/
def source? : Message → Option (String × UInt64)
  | .put offer | .replace offer => some (offer.handle, offer.size)
  | .putGpu offer => some (offer.handle, offer.size)
  | _ => none

end Message

end SegmentCache
