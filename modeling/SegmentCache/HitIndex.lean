import Std.Data.ExtTreeMap
import Std.Data.ExtTreeSet

/-!
# Names by hit count

Eviction takes the names with the fewest hits first. The index keeps the names of each hit count
together in a bucket; a bucket disappears when its last name does, so walking the buckets meets
every name in order of hits and then of name.
-/

namespace SegmentCache

/-- Names grouped by hit count. -/
structure HitIndex where
  /-- The names with each hit count. -/
  buckets : Std.ExtTreeMap UInt64 (Std.ExtTreeSet String)
  /-- How many names there are in all buckets together. -/
  members : Nat

namespace HitIndex

/-- The index without any name. -/
def empty : HitIndex where
  buckets := ∅
  members := 0

/-- The names with a given hit count, if there are any. -/
def bucket? (index : HitIndex) (hits : UInt64) : Option (Std.ExtTreeSet String) :=
  index.buckets[hits]?

/-- Whether a name is registered with a hit count. -/
def contains (index : HitIndex) (name : String) (hits : UInt64) : Bool :=
  (index.bucket? hits).any (·.contains name)

/-- Registers a name with a hit count, and says whether it was new there. -/
def add (index : HitIndex) (name : String) (hits : UInt64) : HitIndex × Bool :=
  let names := (index.bucket? hits).getD ∅
  if names.contains name then (index, false)
  else
    ({ buckets := index.buckets.insert hits (names.insert name)
       members := index.members + 1 }, true)

/-- Takes a name out of a bucket, and says whether it was there. An emptied bucket is dropped. -/
def remove (index : HitIndex) (name : String) (hits : UInt64) : HitIndex × Bool :=
  match index.bucket? hits with
  | none => (index, false)
  | some names =>
    if names.contains name then
      let rest := names.erase name
      ({ buckets := if rest.isEmpty then index.buckets.erase hits
                    else index.buckets.insert hits rest
         members := index.members - 1 }, true)
    else (index, false)

/-- Moves a name from one hit count to another. -/
def move (index : HitIndex) (name : String) (old new : UInt64) : HitIndex :=
  ((index.remove name old).1.add name new).1

/-- The buckets by ascending hit count, each with its names in order. -/
def ascending (index : HitIndex) : List (UInt64 × List String) :=
  index.buckets.toList.map fun bucket => (bucket.1, bucket.2.toList)

/-- Every registered name, fewest hits first and in order of name within a hit count. -/
def namesByHits (index : HitIndex) : List String :=
  index.ascending.flatMap (·.2)

/-- How many names are registered. -/
def size (index : HitIndex) : Nat :=
  index.members

/-- Whether no name is registered. -/
def isEmpty (index : HitIndex) : Bool :=
  index.members == 0

end HitIndex

end SegmentCache
