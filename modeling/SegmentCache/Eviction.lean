import SegmentCache.LockSet
import SegmentCache.Table

/-!
# Making room

When a new object does not fit, entries of the same locality leave the table: those with the
fewest hits first, in order of name among equals, and never a locked one. Making room is best
effort. When every unlocked entry has left and the object still does not fit, it is added anyway.
-/

namespace SegmentCache

/-- What making room took out of the table. -/
structure Eviction where
  /-- The table that is left. -/
  table : Table
  /-- The entries that left, in the order in which they did. -/
  evicted : List Entry
  /-- The bytes of the entries that left, held at the largest word. -/
  freed : UInt64

namespace Table

/-- Whether a request fits beside what is used at a locality. -/
def fits (table : Table) (locality : Locality) (requested capacity : UInt64) : Bool :=
  Word.addSat (table.usedBytes locality) requested ≤ capacity

/-- The names that may leave a locality, in the order in which they do. -/
def candidates (table : Table) (locks : LockSet) (locality : Locality) : List String :=
  table.index.namesByHits.filter fun name =>
    !locks.isLocked name && (table.get? name).any (·.locality = locality)

/-- Takes out the named entries one by one until the request fits. -/
def evict (locality : Locality) (requested capacity : UInt64) :
    List String → Table → Eviction
  | [], table => { table, evicted := [], freed := 0 }
  | name :: names, table =>
    if table.fits locality requested capacity then { table, evicted := [], freed := 0 }
    else
      match table.remove name with
      | .error _ => evict locality requested capacity names table
      | .ok (table, entry) =>
        let later := evict locality requested capacity names table
        { table := later.table
          evicted := entry :: later.evicted
          freed := Word.addSat entry.size later.freed }

/-- Makes room for a request at a locality. -/
def makeRoom (table : Table) (locks : LockSet) (locality : Locality)
    (requested capacity : UInt64) : Eviction :=
  evict locality requested capacity (table.candidates locks locality) table

end Table

end SegmentCache
