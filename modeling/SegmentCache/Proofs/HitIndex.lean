import SegmentCache.HitIndex
import SegmentCache.Proofs.ByteOrder

/-!
# The hit index as an ordered set of pairs

Read through `contains`, the index is a set of pairs of a hit count and a name, to which its
operations add one pair or from which they take one. Walking the buckets lists these pairs by
hits and then by name, whatever calls have built the index.
-/

namespace SegmentCache

/-- The order in which names leave the cache: fewer hits first, and among equals the name whose
bytes come first. -/
def LeavesBefore (a b : UInt64 × String) : Prop :=
  a.1 < b.1 ∨ a.1 = b.1 ∧ Text.bytes a.2 < Text.bytes b.2

namespace HitIndex

/-- The names with a given hit count; there are none where there is no bucket. -/
def namesWith (index : HitIndex) (hits : UInt64) : Std.ExtTreeSet String :=
  (index.bucket? hits).getD ∅

/-- A pair is there when the names with its count include its name. -/
theorem contains_iff {index : HitIndex} {name : String} {hits : UInt64} :
    index.contains name hits = true ↔ name ∈ index.namesWith hits := by
  cases hbucket : index.bucket? hits <;> simp [contains, namesWith, hbucket]

/-- Adding a pair changes the names of its own count only. -/
theorem namesWith_add (index : HitIndex) (name : String) (hits count : UInt64) :
    (index.add name hits).1.namesWith count =
      if count = hits then (index.namesWith hits).insert name else index.namesWith count := by
  simp only [add]
  split
  · rename_i hthere
    split
    · rename_i hcount
      subst hcount
      apply Std.ExtTreeSet.ext_mem
      intro other
      simp only [Std.ExtTreeSet.mem_insert, Std.LawfulEqCmp.compare_eq_iff_eq]
      refine ⟨Or.inr, ?_⟩
      rintro (rfl | hother)
      · simpa [namesWith] using hthere
      · exact hother
    · rfl
  · by_cases hcount : count = hits
    · subst hcount
      simp [namesWith, bucket?]
    · simp [namesWith, bucket?, Std.ExtTreeMap.getElem?_insert, hcount, Ne.symm hcount]

private theorem getD_getElem?_pruned (buckets : Std.ExtTreeMap UInt64 (Std.ExtTreeSet String))
    (rest : Std.ExtTreeSet String) (hits count : UInt64) :
    ((if rest.isEmpty then buckets.erase hits else buckets.insert hits rest)[count]?).getD ∅ =
      if count = hits then rest else (buckets[count]?).getD ∅ := by
  by_cases hcount : count = hits
  · subst hcount
    split
    · rename_i hempty
      simp [Std.ExtTreeSet.isEmpty_iff.mp hempty]
    · simp
  · split
    · simp [Std.ExtTreeMap.getElem?_erase, Ne.symm hcount]
    · simp [Std.ExtTreeMap.getElem?_insert, Ne.symm hcount]

/-- Taking a pair out changes the names of its own count only, also when its bucket is dropped. -/
theorem namesWith_remove (index : HitIndex) (name : String) (hits count : UInt64) :
    (index.remove name hits).1.namesWith count =
      if count = hits then (index.namesWith hits).erase name else index.namesWith count := by
  have hkept (habsent : name ∉ index.namesWith hits) :
      index.namesWith count =
        if count = hits then (index.namesWith hits).erase name else index.namesWith count := by
    split
    · rename_i hcount
      subst hcount
      apply Std.ExtTreeSet.ext_mem
      intro other
      simp only [Std.ExtTreeSet.mem_erase, ne_eq, Std.LawfulEqCmp.compare_eq_iff_eq]
      refine ⟨fun hother => ⟨?_, hother⟩, And.right⟩
      rintro rfl
      exact habsent hother
    · rfl
  unfold remove
  split
  · rename_i hbucket
    exact hkept (by simp [namesWith, hbucket])
  · rename_i names hbucket
    have hnames : index.namesWith hits = names := by simp [namesWith, hbucket]
    split
    · rw [hnames]
      exact getD_getElem?_pruned index.buckets (names.erase name) hits count
    · rename_i habsent
      exact hkept (by simpa [hnames] using habsent)

/-- Adding a pair adds that pair and no other. -/
theorem contains_add (index : HitIndex) (name other : String) (hits count : UInt64) :
    (index.add name hits).1.contains other count = true ↔
      (other = name ∧ count = hits) ∨ index.contains other count = true := by
  rw [contains_iff, contains_iff, namesWith_add]
  split
  · rename_i hcount
    simp [hcount, @eq_comm _ name other]
  · rename_i hcount
    simp [hcount]

/-- Taking a pair out takes out that pair and no other. -/
theorem contains_remove (index : HitIndex) (name other : String) (hits count : UInt64) :
    (index.remove name hits).1.contains other count = true ↔
      ¬(other = name ∧ count = hits) ∧ index.contains other count = true := by
  rw [contains_iff, contains_iff, namesWith_remove]
  split
  · rename_i hcount
    simp [hcount, @eq_comm _ name other]
  · rename_i hcount
    simp [hcount]

/-- Moving a name takes out its old pair and adds its new one. -/
theorem contains_move (index : HitIndex) (name other : String) (old new count : UInt64) :
    (index.move name old new).contains other count = true ↔
      (other = name ∧ count = new) ∨
        ¬(other = name ∧ count = old) ∧ index.contains other count = true := by
  rw [move, contains_add, contains_remove]

/-- The pairs in the order in which the buckets are walked. -/
def pairs (index : HitIndex) : List (UInt64 × String) :=
  index.buckets.toList.flatMap fun bucket => bucket.2.toList.map (bucket.1, ·)

/-- The names met on the walk are those of the pairs. -/
theorem namesByHits_eq (index : HitIndex) : index.namesByHits = index.pairs.map (·.2) := by
  simp [namesByHits, ascending, pairs, List.flatMap_map, List.map_flatMap, List.map_map,
    Function.comp_def]

/-- The walk meets exactly the pairs of the index. -/
theorem mem_pairs {index : HitIndex} {hits : UInt64} {name : String} :
    (hits, name) ∈ index.pairs ↔ index.contains name hits = true := by
  simp only [pairs, List.mem_flatMap, List.mem_map, Prod.mk.injEq, contains_iff, namesWith, bucket?]
  constructor
  · rintro ⟨⟨count, names⟩, hbucket, other, hother, rfl, rfl⟩
    have hnames := Std.ExtTreeMap.mem_toList_iff_getElem?_eq_some.mp hbucket
    simpa [hnames] using hother
  · intro hname
    cases hbucket : index.buckets[hits]? with
    | none => simp [hbucket] at hname
    | some names =>
      refine ⟨(hits, names), Std.ExtTreeMap.mem_toList_iff_getElem?_eq_some.mpr hbucket, name, ?_,
        rfl, rfl⟩
      simpa [hbucket] using hname

/-- Listing the buckets lists the pairs. -/
theorem flatMap_ascending (index : HitIndex) :
    (index.ascending.flatMap fun bucket => bucket.2.map (bucket.1, ·)) = index.pairs := by
  rw [ascending, pairs, List.flatMap_map]

/-- The counts of the buckets ascend. -/
theorem pairwise_ascending (index : HitIndex) :
    index.ascending.Pairwise fun bucket later => bucket.1 < later.1 := by
  rw [ascending, List.pairwise_map]
  refine Std.ExtTreeMap.ordered_keys_toList.imp ?_
  intro bucket later hbefore
  exact compareOfLessAndEq_eq_lt.mp hbefore

/-- The names in a bucket ascend in the order of their bytes. -/
theorem pairwise_of_mem_ascending {index : HitIndex} {bucket : UInt64 × List String}
    (hbucket : bucket ∈ index.ascending) :
    bucket.2.Pairwise fun name later => Text.bytes name < Text.bytes later := by
  obtain ⟨⟨hits, names⟩, -, rfl⟩ := List.mem_map.mp hbucket
  exact Std.ExtTreeSet.ordered_toList.imp Text.compare_eq_lt_iff.mp

/-- The walk goes through the pairs in the order in which names leave. -/
theorem pairwise_pairs (index : HitIndex) : index.pairs.Pairwise LeavesBefore := by
  rw [← flatMap_ascending, List.pairwise_flatMap]
  constructor
  · intro bucket hbucket
    rw [List.pairwise_map]
    refine (pairwise_of_mem_ascending hbucket).imp ?_
    intro name later hname
    exact Or.inr ⟨rfl, hname⟩
  · refine index.pairwise_ascending.imp ?_
    intro bucket later hbucket pair hpair other hother
    obtain ⟨_, _, rfl⟩ := List.mem_map.mp hpair
    obtain ⟨_, _, rfl⟩ := List.mem_map.mp hother
    exact Or.inl hbucket

end HitIndex

end SegmentCache
