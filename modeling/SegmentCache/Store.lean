import SegmentCache.Failure
import SegmentCache.Segment
import SegmentCache.Text.Numeral
import SegmentCache.Word

/-!
# The segment store

Segments are held under handles. The store makes up the handles of the segments it allocates from
a running counter, and producers may register segments under handles of their own. A store may
have a limit on the bytes it allocates; a request beyond it fails and changes nothing. A request
that the limit allows but no buffer can hold crashes, and by then it has used up a handle.
-/

namespace SegmentCache

/-- The live segments by handle. -/
structure Store where
  /-- The segments by handle. -/
  segments : Std.ExtTreeMap String Segment
  /-- The number of the next handle. -/
  next : UInt64
  /-- The most bytes the store allocates, if there is a limit. -/
  limit : Option UInt64

namespace Store

/-- The store without segments. -/
def empty (limit : Option UInt64) : Store where
  segments := ∅
  next := 0
  limit := limit

/-- Whether a handle is live. -/
def contains (store : Store) (handle : String) : Bool :=
  store.segments.contains handle

/-- The segment with a handle. -/
def get? (store : Store) (handle : String) : Option Segment :=
  store.segments[handle]?

/-- How many segments are live. -/
def size (store : Store) : Nat :=
  store.segments.size

/-- The bytes of all live segments together. -/
def allocatedBytes (store : Store) : Nat :=
  store.segments.foldl (fun total _ segment => total + segment.contents.length) 0

/-- Whether the store may allocate that many bytes more. -/
def admits (store : Store) (requested : UInt64) : Bool :=
  match store.limit with
  | none => true
  | some limit => min (store.allocatedBytes + requested.toNat) Word.max.toNat ≤ limit.toNat

/-- The handle made up for a locality from a counter. -/
def handleFor (locality : Locality) (number : UInt64) : String :=
  match locality with
  | .cpu => "psm_" ++ Text.hexPadded 8 number.toNat
  | .gpu device => s!"dev{device}_" ++ Text.hexPadded 8 number.toNat

/-- Registers a segment under a handle, in place of any segment that had it. -/
def register (store : Store) (handle : String) (segment : Segment) : Store :=
  { store with segments := store.segments.insert handle segment }

/-- Takes the next handle for a locality off the counter. -/
def takeHandle (store : Store) (locality : Locality) : String × Store :=
  (handleFor locality store.next, { store with next := store.next + 1 })

/-- Registers a segment under a fresh handle, and gives the handle. -/
def issue (store : Store) (segment : Segment) : String × Store :=
  let (handle, store) := store.takeHandle segment.locality
  (handle, store.register handle segment)

/-- Writes bytes to a fresh segment in host memory. -/
def write (store : Store) (bytes : List UInt8) : Except SegmentFailure (String × Store) :=
  let requested := UInt64.ofNat bytes.length
  if store.admits requested then
    .ok (store.issue { locality := .cpu, contents := .written bytes })
  else .error (.outOfMemory requested)

/-- Allocates a fresh segment of zeros at a locality. The handle is taken before the zeros are laid
out, so it is lost when there are too many of them. -/
def allocate (store : Store) (locality : Locality) (size : UInt64) :
    Attempt SegmentFailure String × Store :=
  if store.admits size then
    let (handle, counted) := store.takeHandle locality
    match Contents.blank? size with
    | none => (.crashed, counted)
    | some contents => (.ok handle, counted.register handle { locality, contents })
  else (.error (.outOfMemory size), store)

/-- Copies one segment over another of the same length. -/
def copy (store : Store) (destination source : String) : Except SegmentFailure Store :=
  match store.get? source with
  | none => .error (.unknown source)
  | some src =>
    match store.get? destination with
    | none => .error (.unknown destination)
    | some dst =>
      if dst.contents.length = src.contents.length then
        .ok (store.register destination { dst with contents := src.contents })
      else .error (.sizeMismatch source dst.contents.length src.contents.length)

/-- Frees a live segment. -/
def free (store : Store) (handle : String) : Except SegmentFailure Store :=
  if store.contains handle then .ok { store with segments := store.segments.erase handle }
  else .error (.unknown handle)

end Store

end SegmentCache
