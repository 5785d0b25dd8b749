import SegmentCache.Proofs.HitTally

/-!
# Sequences of table operations

The table is changed by four operations: an entry is added, a hit is counted, an entry is taken
out, or room is made. Whatever sequence of them builds a table, its index is the grouping of its
entries by hit count, without a name too many or too few.
-/

namespace SegmentCache.Table

/-- An operation on the table. -/
inductive Operation where
  /-- Adds an entry, with any hit count and size. -/
  | put (entry : Entry)
  /-- Counts a hit of a name. -/
  | recordHit (name : String)
  /-- Takes out the entry with a name. -/
  | remove (name : String)
  /-- Makes room for a request at a locality, whatever is locked. -/
  | makeRoom (locks : LockSet) (locality : Locality) (requested capacity : UInt64)

/-- The table after an operation. One that fails leaves the table as it is. -/
def perform (table : Table) : Operation → Table
  | .put entry => (table.put entry).1
  | .recordHit name =>
    match table.recordHit name with
    | none => table
    | some (next, _) => next
  | .remove name =>
    match table.remove name with
    | .error _ => table
    | .ok (rest, _) => rest
  | .makeRoom locks locality requested capacity =>
    (table.makeRoom locks locality requested capacity).table

/-- The table after operations in turn. -/
def performAll (table : Table) (operations : List Operation) : Table :=
  operations.foldl perform table

/-- The index agrees with the entries and is itself in order. -/
structure InStep (table : Table) : Prop where
  /-- The index holds each name with the hits of its entry. -/
  indexed : table.Indexed
  /-- No bucket is empty, and the tally of names is right. -/
  tidy : table.index.Tidy

/-- Adding to a name that is taken changes nothing. -/
theorem put_of_taken {table : Table} {entry : Entry} (htaken : table.contains entry.name = true) :
    (table.put entry).1 = table := by
  simp [put, htaken]

/-- What taking out any entry keeps, evicting keeps. -/
theorem evict_induction {P : Table → Prop}
    (hkept : ∀ {table rest : Table} {name : String} {entry : Entry}, P table →
      table.remove name = .ok (rest, entry) → P rest)
    (locality : Locality) (requested capacity : UInt64) (names : List String) {table : Table}
    (htable : P table) : P (evict locality requested capacity names table).table := by
  induction names generalizing table with
  | nil => exact htable
  | cons name names ih =>
    unfold evict
    split
    · exact htable
    · split
      · exact ih htable
      · rename_i rest entry hremove
        exact ih (hkept htable hremove)

/-- The table without entries is in step. -/
theorem InStep.empty : Table.empty.InStep where
  indexed := Indexed.empty
  tidy := HitIndex.Tidy.empty

/-- Adding an entry keeps the table in step, whether or not its name is free. -/
theorem InStep.put {table : Table} (hstep : table.InStep) (entry : Entry) :
    (table.put entry).1.InStep := by
  cases hname : table.contains entry.name with
  | true =>
    rw [put_of_taken hname]
    exact hstep
  | false =>
    refine ⟨hstep.indexed.put hname, ?_⟩
    rw [put_of_free hname]
    exact hstep.tidy.add entry.name 0

/-- Counting a hit keeps the table in step, also where the count is held at the largest word and
the name stays in its bucket. -/
theorem InStep.recordHit {table next : Table} (hstep : table.InStep) {name : String}
    {hits : UInt64} (hhit : table.recordHit name = some (next, hits)) : next.InStep := by
  refine ⟨hstep.indexed.recordHit hhit, ?_⟩
  obtain ⟨entry, -, -, rfl⟩ := recordHit_eq_some hhit
  exact hstep.tidy.move name entry.hits hits

/-- Taking an entry out keeps the table in step. -/
theorem InStep.remove {table rest : Table} (hstep : table.InStep) {name : String} {entry : Entry}
    (hremove : table.remove name = .ok (rest, entry)) : rest.InStep := by
  refine ⟨hstep.indexed.remove hremove, ?_⟩
  obtain ⟨-, -, hindex, -⟩ := remove_eq_ok hremove
  rw [hindex]
  exact hstep.tidy.remove name entry.hits

/-- Every operation keeps the table in step. -/
theorem InStep.perform {table : Table} (hstep : table.InStep) (operation : Operation) :
    (table.perform operation).InStep := by
  cases operation with
  | put entry => exact hstep.put entry
  | recordHit name =>
    simp only [Table.perform]
    split
    · exact hstep
    · rename_i hhit
      exact hstep.recordHit hhit
  | remove name =>
    simp only [Table.perform]
    split
    · exact hstep
    · rename_i hremove
      exact hstep.remove hremove
  | makeRoom locks locality requested capacity =>
    exact evict_induction (fun hbefore hremove => hbefore.remove hremove) locality requested
      capacity _ hstep

/-- Every sequence of operations keeps the table in step. -/
theorem InStep.performAll {table : Table} (hstep : table.InStep) (operations : List Operation) :
    (table.performAll operations).InStep := by
  induction operations generalizing table with
  | nil => exact hstep
  | cons operation operations ih => exact ih (hstep.perform operation)

/-- The pairs of the index are the hits and names of the entries. -/
theorem Indexed.pairs_perm {table : Table} (hindexed : table.Indexed) :
    table.index.pairs.Perm (table.entries.toList.map fun found => (found.2.hits, found.1)) := by
  rw [List.perm_ext_iff_of_nodup table.index.nodup_pairs]
  · rintro ⟨hits, name⟩
    simp only [HitIndex.mem_pairs, hindexed.agrees, List.mem_map, Prod.exists,
      Std.ExtTreeMap.mem_toList_iff_getElem?_eq_some, Prod.mk.injEq]
    constructor
    · rintro ⟨entry, hfound, rfl⟩
      exact ⟨name, entry, hfound, rfl, rfl⟩
    · rintro ⟨other, entry, hfound, rfl, rfl⟩
      exact ⟨entry, hfound, rfl⟩
  · -- Entries have different names, so their pairs differ.
    refine List.pairwise_map.mpr (table.entries.distinct_keys_toList.imp ?_)
    rintro ⟨name, entry⟩ ⟨other, later⟩ hkeys hsame
    obtain ⟨-, hname⟩ := Prod.mk.inj hsame
    exact hkeys (Std.LawfulEqCmp.compare_eq_iff_eq.mpr hname)

/-- The index counts as many names as there are entries. -/
theorem InStep.size_index {table : Table} (hstep : table.InStep) :
    table.index.size = table.size := by
  calc table.index.members
      = table.index.pairs.length := hstep.tidy.tallied
    _ = (table.entries.toList.map fun found => (found.2.hits, found.1)).length :=
      hstep.indexed.pairs_perm.length_eq
    _ = table.entries.size := by rw [List.length_map, Std.ExtTreeMap.length_toList]

/-- In a table built by any sequence of operations, a bucket of the index holds a name exactly when
the table holds an entry of that name and with that many hits. So every entry is in one bucket
only, no bucket is empty, and the index counts as many names as there are entries. -/
theorem index_agrees_with_entries (operations : List Operation) :
    let table := Table.empty.performAll operations
    (∀ name hits, (∃ names, table.index.bucket? hits = some names ∧ name ∈ names) ↔
      ∃ entry, table.get? name = some entry ∧ entry.name = name ∧ entry.hits = hits) ∧
    (∀ name entry, table.get? name = some entry →
      ∃! hits, ∃ names, table.index.bucket? hits = some names ∧ name ∈ names) ∧
    (∀ hits names, table.index.bucket? hits = some names → names ≠ ∅) ∧
    table.index.size = table.size := by
  intro table
  have hstep : table.InStep := InStep.empty.performAll operations
  have hagrees (name : String) (hits : UInt64) :
      (∃ names, table.index.bucket? hits = some names ∧ name ∈ names) ↔
        ∃ entry, table.get? name = some entry ∧ entry.name = name ∧ entry.hits = hits := by
    rw [← HitIndex.contains_iff_bucket, hstep.indexed.agrees]
    constructor
    · rintro ⟨entry, hfound, hhits⟩
      exact ⟨entry, hfound, hstep.indexed.named hfound, hhits⟩
    · rintro ⟨entry, hfound, -, hhits⟩
      exact ⟨entry, hfound, hhits⟩
  refine ⟨hagrees, ?_, fun hits names => hstep.tidy.populated, hstep.size_index⟩
  intro name entry hfound
  refine ⟨entry.hits, (hagrees name entry.hits).mpr
    ⟨entry, hfound, hstep.indexed.named hfound, rfl⟩, ?_⟩
  intro hits hbucket
  obtain ⟨found, hfound', -, hhits⟩ := (hagrees name hits).mp hbucket
  obtain rfl : entry = found := Option.some.inj (hfound.symm.trans hfound')
  exact hhits.symm

end SegmentCache.Table
