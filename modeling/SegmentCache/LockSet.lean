import Std.Data.ExtTreeSet
import SegmentCache.Failure

/-!
# Locks

A worker locks an entry before it reads the object and unlocks it afterwards. The set only records
which names are locked; locked entries are neither evicted nor removed.
-/

namespace SegmentCache

/-- The names that are locked. -/
structure LockSet where
  /-- The locked names. -/
  names : Std.ExtTreeSet String

namespace LockSet

/-- No name is locked. -/
def empty : LockSet where
  names := ∅

/-- Whether a name is locked. -/
def isLocked (locks : LockSet) (name : String) : Bool :=
  locks.names.contains name

/-- Locks a name that is not locked. -/
def lock (locks : LockSet) (name : String) : Except CacheFailure LockSet :=
  if locks.isLocked name then .error (.alreadyLocked name)
  else .ok { names := locks.names.insert name }

/-- Unlocks a name that is locked. -/
def unlock (locks : LockSet) (name : String) : Except CacheFailure LockSet :=
  if locks.isLocked name then .ok { names := locks.names.erase name }
  else .error (.notLocked name)

/-- How many names are locked. -/
def size (locks : LockSet) : Nat :=
  locks.names.size

/-- Whether no name is locked. -/
def isEmpty (locks : LockSet) : Bool :=
  locks.names.isEmpty

end LockSet

end SegmentCache
