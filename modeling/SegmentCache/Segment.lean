import SegmentCache.Locality

/-!
# Segments

A segment is a run of bytes at a locality. A fresh segment holds zeros only, and is kept as their
number, so that allocating costs nothing until something is written. A buffer has a largest length,
which is below what a word can count.
-/

namespace SegmentCache

/-- The bytes of a segment. -/
inductive Contents where
  /-- That many zero bytes. -/
  | zeros (count : Nat)
  /-- Bytes that were written. -/
  | written (bytes : List UInt8)
  deriving DecidableEq, Repr, Inhabited

namespace Contents

/-- How many bytes there are. -/
def length : Contents → Nat
  | .zeros count => count
  | .written bytes => bytes.length

/-- The bytes themselves. -/
def toList : Contents → List UInt8
  | .zeros count => List.replicate count 0
  | .written bytes => bytes

/-- The most bytes that a buffer can have. -/
def maxLength : Nat := 9223372036854775807

/-- A buffer of that many zeros, if there can be one. -/
def blank? (size : UInt64) : Option Contents :=
  if size.toNat ≤ maxLength then some (.zeros size.toNat) else none

end Contents

/-- A run of bytes at a locality. -/
structure Segment where
  /-- Where the bytes live. -/
  locality : Locality
  /-- The bytes. -/
  contents : Contents
  deriving DecidableEq, Repr, Inhabited

end SegmentCache
