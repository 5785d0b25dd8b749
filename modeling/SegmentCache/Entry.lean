import SegmentCache.Locality

/-!
# Entries

An entry describes one cached object: the segment that holds its bytes, how to interpret them,
where they live, and how often the object has been asked for.
-/

namespace SegmentCache

/-- What kind of object a segment holds. -/
inductive ObjectKind where
  | sharedMemory
  | shareableList
  | shareableTuple
  | shareableDict
  | deviceBuffer
  deriving DecidableEq, Repr, Inhabited

namespace ObjectKind

/-- Every kind, in the order in which they are listed in diagnostics. -/
def all : List ObjectKind :=
  [.sharedMemory, .shareableList, .shareableTuple, .shareableDict, .deviceBuffer]

/-- The written name of a kind. -/
def text : ObjectKind → String
  | .sharedMemory => "SharedMemory"
  | .shareableList => "ShareableList"
  | .shareableTuple => "ShareableTuple"
  | .shareableDict => "ShareableDict"
  | .deviceBuffer => "DeviceBuffer"

/-- The kind with a written name. -/
def ofText? (name : String) : Option ObjectKind :=
  all.find? fun kind => kind.text == name

/-- Reading the written name of a kind gives the kind back. -/
theorem ofText?_text (kind : ObjectKind) : ofText? kind.text = some kind := by
  cases kind <;> decide

end ObjectKind

/-- The record of one cached object. -/
structure Entry where
  /-- The key under which the object is cached. -/
  name : String
  /-- The segment that holds the object's bytes. -/
  handle : String
  /-- The extents of an array; empty for collections. -/
  shape : List UInt64
  /-- The element type of an array; empty for collections. -/
  dtype : String
  /-- The bytes the object is charged for. -/
  size : UInt64
  /-- How often the object has been asked for since it was added. -/
  hits : UInt64
  /-- Where the object lives. -/
  locality : Locality
  /-- What kind of object it is. -/
  kind : ObjectKind
  deriving DecidableEq, Repr, Inhabited

end SegmentCache
