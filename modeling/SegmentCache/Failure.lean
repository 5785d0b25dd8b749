import SegmentCache.FileFault
import SegmentCache.Locality

/-!
# Failures

The causes for which a segment operation or a message can fail. Wording is kept apart from the
causes, in one function for each type.

Not every call that goes wrong fails: one that asks for a buffer longer than any can be does not
come back at all. An `Attempt` keeps the two apart.
-/

namespace SegmentCache

/-- How a call ends. -/
inductive Attempt (ε α : Type) where
  /-- It gives a value. -/
  | ok (value : α)
  /-- It fails, and whoever called is told why. -/
  | error (failure : ε)
  /-- It does not come back, and takes down whoever called. -/
  | crashed
  deriving DecidableEq, Repr

namespace Attempt

/-- Whether a call gives a value. -/
def isOk {ε α : Type} : Attempt ε α → Bool
  | .ok _ => true
  | _ => false

/-- The same ending with another value. -/
def map {ε α β : Type} (f : α → β) : Attempt ε α → Attempt ε β
  | .ok value => .ok (f value)
  | .error failure => .error failure
  | .crashed => .crashed

/-- A call that gives a value gives some value. -/
theorem isOk_iff {ε α : Type} {attempt : Attempt ε α} :
    attempt.isOk = true ↔ ∃ value, attempt = .ok value := by
  cases attempt <;> simp [isOk]

/-- A call that gives a value comes back. -/
theorem ok_ne_crashed {ε α : Type} (value : α) : (.ok value : Attempt ε α) ≠ .crashed := by
  simp

/-- A call that fails comes back. -/
theorem error_ne_crashed {ε α : Type} (failure : ε) :
    (.error failure : Attempt ε α) ≠ .crashed := by
  simp

/-- A call that comes back. -/
def ofExcept {ε α : Type} : Except ε α → Attempt ε α
  | .ok value => .ok value
  | .error failure => .error failure

end Attempt

/-- Why a segment operation failed. -/
inductive SegmentFailure where
  /-- No segment has the handle. -/
  | unknown (handle : String)
  /-- The source does not have the length of the destination. -/
  | sizeMismatch (handle : String) (expected actual : Nat)
  /-- The request would exceed the limit of the store. -/
  | outOfMemory (requested : UInt64)
  deriving DecidableEq, Repr

/-- The wording of a segment failure. -/
def SegmentFailure.message : SegmentFailure → String
  | .unknown handle => s!"Unknown memory segment: {handle}"
  | .sizeMismatch handle expected actual =>
    s!"Segment {handle} holds {actual} bytes, expected {expected}"
  | .outOfMemory requested => s!"Backend could not allocate {requested} bytes"

/-- Why a message failed. -/
inductive CacheFailure where
  /-- The entry to lock is locked. -/
  | alreadyLocked (name : String)
  /-- The entry to unlock is not locked. -/
  | notLocked (name : String)
  /-- The entry to remove is not in the cache. -/
  | unknownEntry (name : String)
  /-- The entry to lock is not in the cache. -/
  | lockUnknownEntry (name : String)
  /-- The entry to remove is locked. -/
  | removeLocked (name : String)
  /-- No device has the bus address. -/
  | unknownDevice (bus : String)
  /-- The device has no capacity. -/
  | unconfiguredDevice (device : UInt32)
  /-- The bytes used at the locality would leave the range of a word. -/
  | sizeOverflow (name : String) (locality : Locality) (used requested : UInt64)
  /-- A segment operation failed. -/
  | segment (cause : SegmentFailure)
  /-- The usage report could not be written. -/
  | report (path : String) (cause : FileFault)
  deriving DecidableEq, Repr

namespace CacheFailure

/-- Whether the failure is a breach of the rules on locks and entries. -/
def isCoherence : CacheFailure → Bool
  | .alreadyLocked _ | .notLocked _ | .unknownEntry _ | .lockUnknownEntry _
  | .removeLocked _ => true
  | _ => false

/-- The wording of a failure. -/
def message : CacheFailure → String
  | .alreadyLocked name =>
    s!"Cache coherence issue: tried to lock an already locked entry {name}"
  | .notLocked name =>
    s!"Cache coherence issue: tried to unlock entry {name} which is not locked"
  | .unknownEntry name => s!"Cache coherence issue: entry {name} is not in the cache"
  | .lockUnknownEntry name =>
    s!"Cache coherence issue: tried to lock entry {name} which is not in the cache"
  | .removeLocked name => s!"Cache coherence issue: tried to remove locked entry {name}"
  | .unknownDevice bus => s!"No GPU device configured for PCI bus id {bus}"
  | .unconfiguredDevice device => s!"No capacity configured for GPU device {device}"
  | .sizeOverflow name locality used requested =>
    s!"Adding {requested} bytes for {name} overflows the {used} bytes already held on " ++
      locality.text
  | .segment cause => "Memory backend error: " ++ cause.message
  | .report path cause => s!"Failed to write profiler output to {path}: " ++ cause.message

end CacheFailure

end SegmentCache
