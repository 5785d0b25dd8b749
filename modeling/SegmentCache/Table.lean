import SegmentCache.Entry
import SegmentCache.Failure
import SegmentCache.HitIndex
import SegmentCache.Word

/-!
# The table of entries

The table is the authoritative record of what is cached. Beside the entries it keeps the index by
hit count and the bytes used at each locality, so that neither has to be recomputed when room is
needed.
-/

namespace SegmentCache

/-- The cached entries with their index and byte counters. -/
structure Table where
  /-- The entries by name. -/
  entries : Std.ExtTreeMap String Entry
  /-- The names by hit count. -/
  index : HitIndex
  /-- The bytes used at each locality that has held an entry. -/
  used : Std.ExtTreeMap Locality UInt64

namespace Table

/-- The table without entries. -/
def empty : Table where
  entries := ∅
  index := HitIndex.empty
  used := ∅

/-- The entry with a name. -/
def get? (table : Table) (name : String) : Option Entry :=
  table.entries[name]?

/-- Whether there is an entry with a name. -/
def contains (table : Table) (name : String) : Bool :=
  table.entries.contains name

/-- The bytes used at a locality. -/
def usedBytes (table : Table) (locality : Locality) : UInt64 :=
  (table.used[locality]?).getD 0

/-- Adds an entry that has not been asked for yet, and says whether its name was free. An entry
whose name is taken leaves the table as it is. -/
def put (table : Table) (entry : Entry) : Table × Bool :=
  if table.contains entry.name then (table, false)
  else
    ({ entries := table.entries.insert entry.name { entry with hits := 0 }
       index := (table.index.add entry.name 0).1
       used := table.used.insert entry.locality
         (Word.addSat (table.usedBytes entry.locality) entry.size) }, true)

/-- Counts a hit of the entry with a name, and gives its new hit count. -/
def recordHit (table : Table) (name : String) : Option (Table × UInt64) :=
  match table.get? name with
  | none => none
  | some entry =>
    let hits := Word.addSat entry.hits 1
    some ({ table with
      entries := table.entries.insert name { entry with hits := hits }
      index := table.index.move name entry.hits hits }, hits)

/-- Takes out the entry with a name. -/
def remove (table : Table) (name : String) : Except CacheFailure (Table × Entry) :=
  match table.get? name with
  | none => .error (.unknownEntry name)
  | some entry =>
    .ok ({ entries := table.entries.erase name
           index := (table.index.remove name entry.hits).1
           used :=
             match table.used[entry.locality]? with
             | none => table.used
             | some used => table.used.insert entry.locality (Word.subSat used entry.size) }, entry)

/-- How many entries there are. -/
def size (table : Table) : Nat :=
  table.entries.size

/-- Whether there are no entries. -/
def isEmpty (table : Table) : Bool :=
  table.entries.isEmpty

/-- The names of the entries, in order. -/
def names (table : Table) : List String :=
  table.entries.keys

/-- The bytes of all entries together, held at the largest word. -/
def totalBytes (table : Table) : UInt64 :=
  table.entries.foldl (fun total _ entry => Word.addSat total entry.size) 0

end Table

end SegmentCache
