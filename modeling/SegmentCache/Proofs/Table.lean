import Mathlib
import SegmentCache.Table
import SegmentCache.Proofs.HitIndex

/-!
# What the table keeps in step

Beside its entries the table keeps two things that could be recomputed from them: the index by hit
count and the bytes used at each locality. `Indexed` and `Counted` say that they agree with the
entries. Each operation keeps both, as long as a new entry does not take a byte counter out of the
range of a word.
-/

namespace SegmentCache

/-- There are as many words as 64 bits can tell apart. -/
theorem Word.size_eq : UInt64.size = 2 ^ 64 := by decide

/-- A saturating sum of many words is the exact sum cut off at the largest word. -/
theorem Word.toNat_foldl_addSat {α : Type} (size : α → UInt64) (items : List α)
    (start : UInt64) :
    (items.foldl (fun total item => addSat total (size item)) start).toNat =
      min (start.toNat + (items.map fun item => (size item).toNat).sum) (2 ^ 64 - 1) := by
  induction items generalizing start with
  | nil =>
    have := start.toNat_lt
    simp only [List.foldl_nil, List.map_nil, List.sum_nil]
    omega
  | cons item items ih =>
    rw [List.foldl_cons, ih, toNat_addSat, size_eq, List.map_cons, List.sum_cons]
    omega

/-- The entries at a locality, in order of name. -/
def entriesAt (entries : Std.ExtTreeMap String Entry) (locality : Locality) : List Entry :=
  (entries.toList.map (·.2)).filter (·.locality = locality)

/-- The exact number of bytes of the entries at a locality. -/
def bytesAt (entries : Std.ExtTreeMap String Entry) (locality : Locality) : Nat :=
  ((entriesAt entries locality).map (·.size.toNat)).sum

/-- The bytes an entry adds to the count of a locality. -/
def Entry.bytesAt (entry : Entry) (locality : Locality) : Nat :=
  if entry.locality = locality then entry.size.toNat else 0

/-- Nothing is listed twice. -/
theorem nodup_toList {β : Type} (map : Std.ExtTreeMap String β) : map.toList.Nodup := by
  refine map.distinct_keys_toList.imp ?_
  rintro a b hkeys rfl
  exact hkeys Std.ReflCmp.compare_self

/-- An entry under a free name is listed beside the others. -/
theorem toList_insert_perm {β : Type} {map : Std.ExtTreeMap String β} {name : String}
    (hfree : map[name]? = none) (value : β) :
    (map.insert name value).toList.Perm ((name, value) :: map.toList) := by
  rw [List.perm_ext_iff_of_nodup (nodup_toList _)]
  · rintro ⟨other, found⟩
    simp only [List.mem_cons, Std.ExtTreeMap.mem_toList_iff_getElem?_eq_some, Prod.mk.injEq,
      Std.ExtTreeMap.getElem?_insert, Std.LawfulEqCmp.compare_eq_iff_eq]
    by_cases hname : name = other
    · subst hname
      simp [hfree, eq_comm]
    · simp [hname, Ne.symm hname]
  · refine List.nodup_cons.mpr ⟨?_, nodup_toList map⟩
    simp [hfree]

/-- Putting an entry back under the name it was taken from restores the map. -/
theorem insert_erase_of_getElem? {β : Type} {map : Std.ExtTreeMap String β} {name : String}
    {value : β} (hfound : map[name]? = some value) : (map.erase name).insert name value = map := by
  apply Std.ExtTreeMap.ext_getElem?
  intro other
  by_cases hname : name = other
  · subst hname
    simp [hfound]
  · simp [Std.ExtTreeMap.getElem?_insert, Std.ExtTreeMap.getElem?_erase, hname]

/-- A new entry adds its bytes to the count of its locality. -/
theorem bytesAt_insert {entries : Std.ExtTreeMap String Entry} {name : String}
    (hfree : entries[name]? = none) (entry : Entry) (locality : Locality) :
    bytesAt (entries.insert name entry) locality =
      bytesAt entries locality + entry.bytesAt locality := by
  have hperm := ((toList_insert_perm hfree entry).map (·.2)).filter (·.locality = locality)
  have hsum := (hperm.map (·.size.toNat)).sum_nat
  unfold bytesAt entriesAt Entry.bytesAt
  rw [hsum, List.map_cons, List.filter_cons]
  split <;> simp_all [Nat.add_comm]

/-- An entry that leaves takes its bytes off the count of its locality. -/
theorem bytesAt_erase {entries : Std.ExtTreeMap String Entry} {name : String} {entry : Entry}
    (hfound : entries[name]? = some entry) (locality : Locality) :
    bytesAt (entries.erase name) locality + entry.bytesAt locality = bytesAt entries locality := by
  have hfree : (entries.erase name)[name]? = none := by simp
  rw [← bytesAt_insert hfree, insert_erase_of_getElem? hfound]

/-- A change of hits alone changes no count. -/
theorem bytesAt_recount {entries : Std.ExtTreeMap String Entry} {name : String} {entry : Entry}
    (hfound : entries[name]? = some entry) (hits : UInt64) (locality : Locality) :
    bytesAt (entries.insert name { entry with hits := hits }) locality =
      bytesAt entries locality := by
  have hfree : (entries.erase name)[name]? = none := by simp
  have hinsert : entries.insert name { entry with hits := hits } =
      (entries.erase name).insert name { entry with hits := hits } := by
    apply Std.ExtTreeMap.ext_getElem?
    intro other
    by_cases hname : name = other
    · simp [hname]
    · simp [Std.ExtTreeMap.getElem?_insert, Std.ExtTreeMap.getElem?_erase, hname]
  rw [hinsert, bytesAt_insert hfree, ← bytesAt_erase hfound]
  rfl

namespace Table

/-- Every entry is stored under its own name, and the index holds each name with the hit count of
its entry and with no other. -/
structure Indexed (table : Table) : Prop where
  /-- An entry is found under its own name. -/
  named : ∀ {name entry}, table.get? name = some entry → entry.name = name
  /-- The index holds a name with a count exactly when its entry has that many hits. -/
  agrees : ∀ {name hits}, table.index.contains name hits = true ↔
    ∃ entry, table.get? name = some entry ∧ entry.hits = hits

/-- The byte counter of each locality is the exact sum of the sizes of the entries there. -/
def Counted (table : Table) : Prop :=
  ∀ locality, (table.usedBytes locality).toNat = bytesAt table.entries locality

/-- A name is in the table when there is an entry under it. -/
theorem contains_iff {table : Table} {name : String} :
    table.contains name = true ↔ ∃ entry, table.get? name = some entry := by
  rw [contains, Std.ExtTreeMap.contains_eq_isSome_getElem?, Option.isSome_iff_exists]
  rfl

/-- A name is free when there is no entry under it. -/
theorem contains_eq_false_iff {table : Table} {name : String} :
    table.contains name = false ↔ table.get? name = none := by
  rw [contains, Std.ExtTreeMap.contains_eq_isSome_getElem?, Option.isSome_eq_false_iff,
    Option.isNone_iff_eq_none]
  rfl

/-- What adding an entry under a free name does. -/
theorem put_of_free {table : Table} {entry : Entry} (hfree : table.contains entry.name = false) :
    (table.put entry).1 =
      { entries := table.entries.insert entry.name { entry with hits := 0 }
        index := (table.index.add entry.name 0).1
        used := table.used.insert entry.locality
          (Word.addSat (table.usedBytes entry.locality) entry.size) } := by
  simp [put, hfree]

/-- The counters after adding an entry under a free name. -/
theorem usedBytes_put {table : Table} {entry : Entry} (hfree : table.contains entry.name = false)
    (locality : Locality) :
    (table.put entry).1.usedBytes locality =
      if entry.locality = locality then Word.addSat (table.usedBytes locality) entry.size
      else table.usedBytes locality := by
  rw [put_of_free hfree]
  by_cases hlocality : entry.locality = locality
  · subst hlocality
    simp [usedBytes]
  · simp [usedBytes, Std.ExtTreeMap.getElem?_insert, hlocality]

/-- The entries after adding one under a free name. -/
theorem get?_put {table : Table} {entry : Entry} (hfree : table.contains entry.name = false)
    (name : String) :
    (table.put entry).1.get? name =
      if entry.name = name then some { entry with hits := 0 } else table.get? name := by
  rw [put_of_free hfree]
  simp [get?, Std.ExtTreeMap.getElem?_insert]

/-- What counting a hit does. -/
theorem recordHit_eq_some {table next : Table} {name : String} {hits : UInt64}
    (hhit : table.recordHit name = some (next, hits)) :
    ∃ entry, table.get? name = some entry ∧ hits = Word.addSat entry.hits 1 ∧
      next = { table with
        entries := table.entries.insert name { entry with hits := hits }
        index := table.index.move name entry.hits hits } := by
  unfold recordHit at hhit
  split at hhit
  · cases hhit
  · rename_i entry hfound
    cases hhit
    exact ⟨entry, hfound, rfl, rfl⟩

/-- The entries after counting a hit: the counted one has more hits and is otherwise the same. -/
theorem get?_recordHit {table next : Table} {name : String} {hits : UInt64} {entry : Entry}
    (hhit : table.recordHit name = some (next, hits)) (hfound : table.get? name = some entry)
    (other : String) :
    next.get? other =
      if name = other then some { entry with hits := hits } else table.get? other := by
  obtain ⟨counted, hcounted, -, rfl⟩ := recordHit_eq_some hhit
  obtain rfl : entry = counted := Option.some.inj (hfound.symm.trans hcounted)
  simp [get?, Std.ExtTreeMap.getElem?_insert]

/-- What taking an entry out does. A locality without a counter counts as zero, which taking
bytes off leaves at zero, so one equation covers both. -/
theorem remove_eq_ok {table rest : Table} {name : String} {entry : Entry}
    (hremove : table.remove name = .ok (rest, entry)) :
    table.get? name = some entry ∧ rest.entries = table.entries.erase name ∧
      rest.index = (table.index.remove name entry.hits).1 ∧
      ∀ locality, rest.usedBytes locality =
        if entry.locality = locality then Word.subSat (table.usedBytes locality) entry.size
        else table.usedBytes locality := by
  unfold remove at hremove
  split at hremove
  · cases hremove
  · rename_i found hfound
    cases hremove
    refine ⟨hfound, rfl, rfl, ?_⟩
    intro locality
    simp only [usedBytes]
    split
    · rename_i hnone
      split
      · rename_i hlocality
        subst hlocality
        rw [hnone]
        exact (UInt64.toNat_inj.mp (by simp [Word.toNat_subSat])).symm
      · rfl
    · rename_i used hsome
      split
      · rename_i hlocality
        subst hlocality
        simp [hsome]
      · rename_i hlocality
        simp [Std.ExtTreeMap.getElem?_insert, hlocality]

/-- The entries after taking one out. -/
theorem get?_remove {table rest : Table} {name : String} {entry : Entry}
    (hremove : table.remove name = .ok (rest, entry)) (other : String) :
    rest.get? other = if name = other then none else table.get? other := by
  obtain ⟨-, hentries, -, -⟩ := remove_eq_ok hremove
  simp [get?, hentries, Std.ExtTreeMap.getElem?_erase]

/-- What is left after taking an entry out was there before, under another name. -/
theorem get?_of_remove {table rest : Table} {name other : String} {entry left : Entry}
    (hremove : table.remove name = .ok (rest, entry)) (hleft : rest.get? other = some left) :
    name ≠ other ∧ table.get? other = some left := by
  rw [get?_remove hremove] at hleft
  split at hleft
  · cases hleft
  · rename_i hname
    exact ⟨hname, hleft⟩

/-- Taking out an entry that is there succeeds. -/
theorem exists_remove_eq_ok {table : Table} {name : String} {entry : Entry}
    (hfound : table.get? name = some entry) : ∃ rest, table.remove name = .ok (rest, entry) := by
  simp [remove, hfound]

/-- The table without entries is indexed. -/
theorem Indexed.empty : Table.empty.Indexed where
  named h := by simp [Table.empty, get?] at h
  agrees := by simp [Table.empty, get?, HitIndex.empty, HitIndex.contains, HitIndex.bucket?]

/-- Adding an entry under a free name keeps the index in step. -/
theorem Indexed.put {table : Table} (hindexed : table.Indexed) {entry : Entry}
    (hfree : table.contains entry.name = false) : (table.put entry).1.Indexed := by
  have hnone : table.get? entry.name = none := contains_eq_false_iff.mp hfree
  constructor
  · intro name found hfound
    rw [get?_put hfree] at hfound
    split at hfound
    · rename_i hname
      cases hfound
      exact hname
    · exact hindexed.named hfound
  · intro name hits
    have hindex : (table.put entry).1.index = (table.index.add entry.name 0).1 := by
      rw [put_of_free hfree]
    rw [hindex, HitIndex.contains_add, hindexed.agrees, get?_put hfree]
    by_cases hname : entry.name = name
    · subst hname
      simp [hnone, eq_comm]
    · simp [hname, Ne.symm hname]

/-- Counting a hit moves the name to the bucket of its new count. -/
theorem Indexed.recordHit {table next : Table} (hindexed : table.Indexed) {name : String}
    {hits : UInt64} (hhit : table.recordHit name = some (next, hits)) : next.Indexed := by
  obtain ⟨entry, hfound, -, hnext⟩ := recordHit_eq_some hhit
  constructor
  · intro other found hother
    rw [get?_recordHit hhit hfound] at hother
    split at hother
    · rename_i hname
      cases hother
      exact (hindexed.named hfound).trans hname
    · exact hindexed.named hother
  · intro other count
    have hindex : next.index = table.index.move name entry.hits hits := by rw [hnext]
    rw [hindex, HitIndex.contains_move, hindexed.agrees, get?_recordHit hhit hfound]
    by_cases hname : name = other
    · subst hname
      simp only [hfound, Option.some.injEq, true_and, exists_eq_left', if_true]
      constructor
      · rintro (rfl | ⟨hold, rfl⟩)
        · rfl
        · exact absurd rfl hold
      · rintro rfl
        exact Or.inl rfl
    · simp [hname, Ne.symm hname]

/-- Taking an entry out takes its name out of the index. -/
theorem Indexed.remove {table rest : Table} (hindexed : table.Indexed) {name : String}
    {entry : Entry} (hremove : table.remove name = .ok (rest, entry)) : rest.Indexed := by
  obtain ⟨hfound, -, hindex, -⟩ := remove_eq_ok hremove
  constructor
  · intro other found hother
    exact hindexed.named (get?_of_remove hremove hother).2
  · intro other count
    rw [hindex, HitIndex.contains_remove, hindexed.agrees, get?_remove hremove]
    by_cases hname : name = other
    · subst hname
      simp [hfound, eq_comm]
    · simp [hname, Ne.symm hname]

/-- The table without entries is counted. -/
theorem Counted.empty : Table.empty.Counted := by
  intro locality
  have hnil : (∅ : Std.ExtTreeMap String Entry).toList = [] :=
    Std.ExtTreeMap.toList_eq_nil_iff.mpr rfl
  simp [Table.empty, usedBytes, bytesAt, entriesAt, hnil]

/-- Adding an entry under a free name moves its counter by exactly its size, as long as the
counter stays in the range of a word. -/
theorem toNat_usedBytes_put {table : Table} {entry : Entry}
    (hfree : table.contains entry.name = false)
    (hfits : (table.usedBytes entry.locality).toNat + entry.size.toNat < 2 ^ 64)
    (locality : Locality) :
    ((table.put entry).1.usedBytes locality).toNat =
      (table.usedBytes locality).toNat + entry.bytesAt locality := by
  rw [usedBytes_put hfree, Entry.bytesAt]
  split
  · rename_i hlocality
    subst hlocality
    rw [Word.toNat_addSat, Word.size_eq]
    omega
  · rfl

/-- Adding an entry keeps the counters exact as long as its own stays in the range of a word. -/
theorem Counted.put {table : Table} (hcounted : table.Counted) {entry : Entry}
    (hfree : table.contains entry.name = false)
    (hfits : (table.usedBytes entry.locality).toNat + entry.size.toNat < 2 ^ 64) :
    (table.put entry).1.Counted := by
  intro locality
  have hnone : table.entries[entry.name]? = none := contains_eq_false_iff.mp hfree
  rw [toNat_usedBytes_put hfree hfits, hcounted, put_of_free hfree, bytesAt_insert hnone]
  rfl

/-- Counting a hit changes no counter. -/
theorem Counted.recordHit {table next : Table} (hcounted : table.Counted) {name : String}
    {hits : UInt64} (hhit : table.recordHit name = some (next, hits)) : next.Counted := by
  obtain ⟨entry, hfound, -, rfl⟩ := recordHit_eq_some hhit
  intro locality
  exact (hcounted locality).trans (bytesAt_recount hfound hits locality).symm

/-- Where the counters are exact, taking an entry out moves its counter by exactly its size. -/
theorem Counted.toNat_usedBytes_remove {table rest : Table} (hcounted : table.Counted)
    {name : String} {entry : Entry} (hremove : table.remove name = .ok (rest, entry))
    (locality : Locality) :
    (rest.usedBytes locality).toNat + entry.bytesAt locality =
      (table.usedBytes locality).toNat := by
  obtain ⟨hfound, -, -, hused⟩ := remove_eq_ok hremove
  have herase := bytesAt_erase hfound locality
  rw [hused, Entry.bytesAt, hcounted, ← herase, Entry.bytesAt]
  split
  · rw [Word.toNat_subSat, hcounted, ← herase, Entry.bytesAt]
    simp_all
  · rw [hcounted, ← herase, Entry.bytesAt]
    simp_all

/-- Taking an entry out keeps the counters exact. -/
theorem Counted.remove {table rest : Table} (hcounted : table.Counted) {name : String}
    {entry : Entry} (hremove : table.remove name = .ok (rest, entry)) : rest.Counted := by
  intro locality
  obtain ⟨hfound, hentries, -, -⟩ := remove_eq_ok hremove
  have hmoved := hcounted.toNat_usedBytes_remove hremove locality
  have herase := bytesAt_erase hfound locality
  rw [hcounted] at hmoved
  rw [hentries]
  omega

/-- An operation that changes the table and moves the byte counter of its entry by exactly the
size of that entry, so that no counter is held at a bound. -/
inductive ExactStep : Table → Table → Prop
  /-- An entry is added under a free name. -/
  | put {table : Table} {entry : Entry} (hfree : table.contains entry.name = false)
      (hexact : ((table.put entry).1.usedBytes entry.locality).toNat =
        (table.usedBytes entry.locality).toNat + entry.size.toNat) :
      ExactStep table (table.put entry).1
  /-- A hit is counted. -/
  | recordHit {table next : Table} {name : String} {hits : UInt64}
      (hhit : table.recordHit name = some (next, hits)) : ExactStep table next
  /-- An entry is taken out. -/
  | remove {table rest : Table} {name : String} {entry : Entry}
      (hremove : table.remove name = .ok (rest, entry))
      (hexact : (rest.usedBytes entry.locality).toNat + entry.size.toNat =
        (table.usedBytes entry.locality).toNat) : ExactStep table rest

/-- Exact operations keep the index in step. -/
theorem ExactStep.indexed {table next : Table} (hstep : ExactStep table next)
    (hindexed : table.Indexed) : next.Indexed := by
  cases hstep with
  | put hfree => exact hindexed.put hfree
  | recordHit hhit => exact hindexed.recordHit hhit
  | remove hremove => exact hindexed.remove hremove

/-- Exact operations keep the counters exact. -/
theorem ExactStep.counted {table next : Table} (hstep : ExactStep table next)
    (hcounted : table.Counted) : next.Counted := by
  cases hstep with
  | @put entry hfree hexact =>
    apply hcounted.put hfree
    rw [← hexact]
    exact UInt64.toNat_lt _
  | recordHit hhit => exact hcounted.recordHit hhit
  | remove hremove => exact hcounted.remove hremove

end Table

end SegmentCache
