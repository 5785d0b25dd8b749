import SegmentCache.Proofs.EvictionOrder

/-!
# The tally of the hit index

The index counts its pairs as it goes and drops a bucket with its last name. `Tidy` says that the
count is right and that no bucket is empty. It holds of every index that the operations build,
also when they are asked to add a pair that is there or to take out one that is not.
-/

namespace SegmentCache.HitIndex

/-- No bucket is empty, and the tally is the number of pairs. -/
structure Tidy (index : HitIndex) : Prop where
  /-- A bucket holds a name. -/
  populated : ∀ {hits names}, index.bucket? hits = some names → names ≠ ∅
  /-- The members are the pairs. -/
  tallied : index.members = index.pairs.length

/-- A pair is there when the bucket of its count holds its name. -/
theorem contains_iff_bucket {index : HitIndex} {name : String} {hits : UInt64} :
    index.contains name hits = true ↔ ∃ names, index.bucket? hits = some names ∧ name ∈ names := by
  cases hbucket : index.bucket? hits <;> simp [contains, hbucket]

/-- No pair is met twice on the walk. -/
theorem nodup_pairs (index : HitIndex) : index.pairs.Nodup := by
  refine index.pairwise_pairs.imp ?_
  rintro pair other hbefore rfl
  exact Std.Irrefl.irrefl pair hbefore

/-- Two indices that differ by one pair have walks that differ by that pair. -/
theorem pairs_perm_cons {smaller larger : HitIndex} {name : String} {hits : UInt64}
    (habsent : smaller.contains name hits = false)
    (hpairs : ∀ other count, larger.contains other count = true ↔
      (other = name ∧ count = hits) ∨ smaller.contains other count = true) :
    larger.pairs.Perm ((hits, name) :: smaller.pairs) := by
  rw [List.perm_ext_iff_of_nodup larger.nodup_pairs]
  · rintro ⟨count, other⟩
    rw [mem_pairs, hpairs, List.mem_cons, mem_pairs, Prod.mk.injEq, and_comm]
  · refine List.nodup_cons.mpr ⟨?_, smaller.nodup_pairs⟩
    rw [mem_pairs, habsent]
    exact Bool.false_ne_true

/-- Adding a pair that is there changes nothing. -/
theorem add_of_contains {index : HitIndex} {name : String} {hits : UInt64}
    (hthere : index.contains name hits = true) : index.add name hits = (index, false) := by
  have hname : name ∈ index.namesWith hits := contains_iff.mp hthere
  have hname' : ((index.bucket? hits).getD ∅).contains name = true := hname
  simp only [add, hname', if_true]

/-- Adding a pair that is not there puts its name into its bucket and counts it. -/
theorem add_of_not_contains {index : HitIndex} {name : String} {hits : UInt64}
    (habsent : index.contains name hits = false) :
    index.add name hits =
      ({ buckets := index.buckets.insert hits ((index.namesWith hits).insert name)
         members := index.members + 1 }, true) := by
  have hname : ((index.bucket? hits).getD ∅).contains name = false := by
    rw [← Bool.not_eq_true] at habsent ⊢
    exact fun hthere => habsent (contains_iff.mpr hthere)
  simp only [add, hname, namesWith]
  rfl

/-- Taking out a pair that is not there changes nothing. -/
theorem remove_of_not_contains {index : HitIndex} {name : String} {hits : UInt64}
    (habsent : index.contains name hits = false) : index.remove name hits = (index, false) := by
  unfold remove
  split
  · rfl
  · rename_i names hbucket
    have hname : names.contains name = false := by simpa [contains, hbucket] using habsent
    simp [hname]

/-- Taking out a pair that is there takes its name out of its bucket, drops the bucket with its
last name, and counts the pair off. -/
theorem remove_of_contains {index : HitIndex} {name : String} {hits : UInt64}
    (hthere : index.contains name hits = true) :
    index.remove name hits =
      ({ buckets := if ((index.namesWith hits).erase name).isEmpty then index.buckets.erase hits
                    else index.buckets.insert hits ((index.namesWith hits).erase name)
         members := index.members - 1 }, true) := by
  cases hbucket : index.bucket? hits with
  | none => simp [contains, hbucket] at hthere
  | some names =>
    have hname : names.contains name = true := by simpa [contains, hbucket] using hthere
    simp [remove, hbucket, hname, namesWith]

/-- The index without any name is tidy. -/
theorem Tidy.empty : HitIndex.empty.Tidy where
  populated h := by simp [HitIndex.empty, bucket?] at h
  tallied := by
    have hnil : (∅ : Std.ExtTreeMap UInt64 (Std.ExtTreeSet String)).toList = [] :=
      Std.ExtTreeMap.toList_eq_nil_iff.mpr rfl
    simp [HitIndex.empty, pairs, hnil]

/-- Adding a pair keeps the index tidy. -/
theorem Tidy.add {index : HitIndex} (htidy : index.Tidy) (name : String) (hits : UInt64) :
    (index.add name hits).1.Tidy := by
  cases hthere : index.contains name hits with
  | true =>
    rw [add_of_contains hthere]
    exact htidy
  | false =>
    constructor
    · intro count names hbucket
      rw [add_of_not_contains hthere, bucket?, Std.ExtTreeMap.getElem?_insert] at hbucket
      split at hbucket
      · cases hbucket
        intro hempty
        have hname : name ∈ (index.namesWith hits).insert name := by simp
        rw [hempty] at hname
        simp at hname
      · exact htidy.populated hbucket
    · have hperm := pairs_perm_cons hthere fun other count => contains_add index name other hits count
      rw [hperm.length_eq, List.length_cons, add_of_not_contains hthere, htidy.tallied]

/-- Taking a pair out keeps the index tidy. -/
theorem Tidy.remove {index : HitIndex} (htidy : index.Tidy) (name : String) (hits : UInt64) :
    (index.remove name hits).1.Tidy := by
  cases hthere : index.contains name hits with
  | false =>
    rw [remove_of_not_contains hthere]
    exact htidy
  | true =>
    constructor
    · intro count names hbucket
      rw [remove_of_contains hthere, bucket?] at hbucket
      simp only at hbucket
      split at hbucket
      · rw [Std.ExtTreeMap.getElem?_erase] at hbucket
        split at hbucket
        · cases hbucket
        · exact htidy.populated hbucket
      · rename_i hrest
        rw [Std.ExtTreeMap.getElem?_insert] at hbucket
        split at hbucket
        · cases hbucket
          exact fun hempty => hrest (Std.ExtTreeSet.isEmpty_iff.mpr hempty)
        · exact htidy.populated hbucket
    · have habsent : (index.remove name hits).1.contains name hits = false := by
        rw [← Bool.not_eq_true, contains_remove]
        exact fun hkept => hkept.1 ⟨rfl, rfl⟩
      have hperm : index.pairs.Perm ((hits, name) :: (index.remove name hits).1.pairs) := by
        apply pairs_perm_cons habsent
        intro other count
        rw [contains_remove]
        by_cases hsame : other = name ∧ count = hits
        · obtain ⟨rfl, rfl⟩ := hsame
          simp [hthere]
        · simp [hsame]
      have hlength := hperm.length_eq
      rw [List.length_cons, ← htidy.tallied] at hlength
      have hmembers : (index.remove name hits).1.members = index.members - 1 := by
        rw [remove_of_contains hthere]
      omega

/-- Moving a name keeps the index tidy. -/
theorem Tidy.move {index : HitIndex} (htidy : index.Tidy) (name : String) (old new : UInt64) :
    (index.move name old new).Tidy :=
  (htidy.remove name old).add name new

end SegmentCache.HitIndex
