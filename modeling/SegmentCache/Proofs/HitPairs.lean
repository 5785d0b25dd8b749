import SegmentCache.Proofs.HitTally

/-!
# The hit index under any calls

The table calls the index with names that it knows and with the counts that they have. The index
itself takes any calls: names that are not there, counts that a name does not have, one name with
several counts. Whatever the calls, it is a finite set of pairs of a count and a name. Each call
acts on the set, and what the index answers, counts and lists can be read off the set.
-/

namespace SegmentCache.HitIndex

/-- A call that may change the index. -/
inductive Call where
  /-- Registers a name with a hit count. -/
  | add (name : String) (hits : UInt64)
  /-- Takes a name out of the bucket of a hit count. -/
  | remove (name : String) (hits : UInt64)
  /-- Moves a name from one hit count to another. -/
  | move (name : String) (old new : UInt64)

/-- What a call does to a set of pairs. Moving adds the new pair also where there was no old
one. -/
def Call.apply (pairs : Finset (UInt64 × String)) : Call → Finset (UInt64 × String)
  | .add name hits => insert (hits, name) pairs
  | .remove name hits => pairs.erase (hits, name)
  | .move name old new => insert (new, name) (pairs.erase (old, name))

/-- The index after a call. -/
def perform (index : HitIndex) : Call → HitIndex
  | .add name hits => (index.add name hits).1
  | .remove name hits => (index.remove name hits).1
  | .move name old new => index.move name old new

/-- The index after calls in turn. -/
def performAll (index : HitIndex) (calls : List Call) : HitIndex :=
  calls.foldl perform index

/-- The pairs of an index as a set. -/
def contents (index : HitIndex) : Finset (UInt64 × String) :=
  index.pairs.toFinset

/-- A pair is in the set when the index holds it. -/
@[simp] theorem mem_contents {index : HitIndex} {hits : UInt64} {name : String} :
    (hits, name) ∈ index.contents ↔ index.contains name hits = true := by
  rw [contents, List.mem_toFinset, mem_pairs]

/-- The index without any name is the empty set. -/
@[simp] theorem contents_empty : HitIndex.empty.contents = ∅ := by
  have hlength : HitIndex.empty.pairs.length = 0 := Tidy.empty.tallied.symm
  rw [contents, List.eq_nil_of_length_eq_zero hlength, List.toFinset_nil]

/-- Adding a pair inserts it. -/
@[simp] theorem contents_add (index : HitIndex) (name : String) (hits : UInt64) :
    (index.add name hits).1.contents = insert (hits, name) index.contents := by
  ext ⟨count, other⟩
  rw [mem_contents, contains_add, Finset.mem_insert, mem_contents, Prod.mk.injEq, and_comm]

/-- Taking a pair out erases it. -/
@[simp] theorem contents_remove (index : HitIndex) (name : String) (hits : UInt64) :
    (index.remove name hits).1.contents = index.contents.erase (hits, name) := by
  ext ⟨count, other⟩
  rw [mem_contents, contains_remove, Finset.mem_erase, mem_contents, Ne, Prod.mk.injEq,
    and_comm (a := other = name)]

/-- A call acts on the set of pairs. -/
theorem contents_perform (index : HitIndex) (call : Call) :
    (index.perform call).contents = call.apply index.contents := by
  cases call with
  | add name hits => exact contents_add index name hits
  | remove name hits => exact contents_remove index name hits
  | move name old new => rw [perform, move, contents_add, contents_remove, Call.apply]

/-- So do calls in turn. -/
theorem contents_performAll (index : HitIndex) (calls : List Call) :
    (index.performAll calls).contents = calls.foldl Call.apply index.contents := by
  induction calls generalizing index with
  | nil => rfl
  | cons call calls ih =>
    rw [List.foldl_cons, ← contents_perform]
    exact ih (index.perform call)

/-- A call keeps the index tidy. -/
theorem Tidy.perform {index : HitIndex} (htidy : index.Tidy) (call : Call) :
    (index.perform call).Tidy := by
  cases call with
  | add name hits => exact htidy.add name hits
  | remove name hits => exact htidy.remove name hits
  | move name old new => exact htidy.move name old new

/-- So do calls in turn. -/
theorem Tidy.performAll {index : HitIndex} (htidy : index.Tidy) (calls : List Call) :
    (index.performAll calls).Tidy := by
  induction calls generalizing index with
  | nil => exact htidy
  | cons call calls ih => exact ih (htidy.perform call)

/-- Adding says whether the pair was absent. -/
theorem add_snd (index : HitIndex) (name : String) (hits : UInt64) :
    (index.add name hits).2 = !index.contains name hits := by
  cases hthere : index.contains name hits with
  | true => rw [add_of_contains hthere, Bool.not_true]
  | false => rw [add_of_not_contains hthere, Bool.not_false]

/-- Taking out says whether the pair was there. -/
theorem remove_snd (index : HitIndex) (name : String) (hits : UInt64) :
    (index.remove name hits).2 = index.contains name hits := by
  cases hthere : index.contains name hits with
  | true => rw [remove_of_contains hthere]
  | false => rw [remove_of_not_contains hthere]

/-- A tidy index counts its pairs. -/
theorem Tidy.size_eq_card {index : HitIndex} (htidy : index.Tidy) :
    index.size = index.contents.card := by
  rw [contents, List.toFinset_card_of_nodup index.nodup_pairs]
  exact htidy.tallied

/-- Taking out of a tidy index counts off a pair that was there and nothing else, so there is
always something to count off. -/
theorem Tidy.size_remove {index : HitIndex} (htidy : index.Tidy) (name : String) (hits : UInt64) :
    (index.remove name hits).1.size + (index.remove name hits).2.toNat = index.size := by
  rw [(htidy.remove name hits).size_eq_card, htidy.size_eq_card, contents_remove, remove_snd]
  cases hthere : index.contains name hits with
  | true => exact Finset.card_erase_add_one (mem_contents.mpr hthere)
  | false =>
    have habsent : (hits, name) ∉ index.contents := by simp [hthere]
    rw [Finset.erase_eq_of_notMem habsent]
    rfl

/-- In a tidy index, there is no bucket for a count exactly when no pair has it. -/
theorem Tidy.bucket?_eq_none_iff {index : HitIndex} (htidy : index.Tidy) {hits : UInt64} :
    index.bucket? hits = none ↔ ∀ name, index.contains name hits = false := by
  constructor
  · intro hnone name
    simp [contains, hnone]
  · intro habsent
    cases hbucket : index.bucket? hits with
    | none => rfl
    | some names =>
      -- A bucket is dropped with its last name, so one that is there would hold a pair.
      obtain ⟨name, hname⟩ : ∃ name, name ∈ names := by
        by_contra hnot
        push Not at hnot
        exact htidy.populated hbucket (Std.ExtTreeSet.eq_empty_iff_forall_not_mem.mpr hnot)
      have hthere := contains_iff_bucket.mpr ⟨names, hbucket, hname⟩
      rw [habsent name] at hthere
      cases hthere

/-- After any calls, the index is the set of pairs on which the calls have acted. A bucket holds
the names that have its count, and there is none where no name has. Adding tells whether the pair
was absent and taking out whether it was there. The members are counted exactly, also where one is
counted off. Listing the buckets meets every pair once, with ascending counts, and in each bucket
with names that ascend in the order of their bytes. -/
theorem index_is_set_of_pairs (calls : List Call) :
    let index := HitIndex.empty.performAll calls
    let pairs := calls.foldl Call.apply ∅
    (∀ hits name,
      (∃ names, index.bucket? hits = some names ∧ name ∈ names) ↔ (hits, name) ∈ pairs) ∧
    (∀ hits, index.bucket? hits = none ↔ ∀ name, (hits, name) ∉ pairs) ∧
    (∀ name hits, (index.add name hits).2 = true ↔ (hits, name) ∉ pairs) ∧
    (∀ name hits, (index.remove name hits).2 = true ↔ (hits, name) ∈ pairs) ∧
    index.size = pairs.card ∧ (index.isEmpty = true ↔ pairs = ∅) ∧
    (∀ name hits,
      (index.remove name hits).1.size + (index.remove name hits).2.toNat = index.size) ∧
    (∀ pair, (index.ascending.flatMap fun bucket => bucket.2.map (bucket.1, ·)).count pair =
      if pair ∈ pairs then 1 else 0) ∧
    (index.ascending.Pairwise fun bucket later => bucket.1 < later.1) ∧
    ∀ bucket ∈ index.ascending,
      bucket.2.Pairwise fun name later => Text.bytes name < Text.bytes later := by
  intro index pairs
  have htidy : index.Tidy := Tidy.empty.performAll calls
  have hcontents : index.contents = pairs := by
    rw [contents_performAll, contents_empty]
  have hmem (hits : UInt64) (name : String) :
      index.contains name hits = true ↔ (hits, name) ∈ pairs := by
    rw [← hcontents, mem_contents]
  have hsize : index.size = pairs.card := by rw [htidy.size_eq_card, hcontents]
  refine ⟨fun hits name => ?_, fun hits => ?_, fun name hits => ?_, fun name hits => ?_, hsize, ?_,
    htidy.size_remove, fun pair => ?_, index.pairwise_ascending,
    fun bucket => pairwise_of_mem_ascending⟩
  · rw [← contains_iff_bucket, hmem]
  · simp only [htidy.bucket?_eq_none_iff, ← Bool.not_eq_true, hmem]
  · rw [add_snd, Bool.not_eq_true', ← Bool.not_eq_true, hmem]
  · rw [remove_snd, hmem]
  · rw [← Finset.card_eq_zero, ← hsize]
    exact beq_iff_eq
  · rw [flatMap_ascending, index.nodup_pairs.count, ← hcontents, contents]
    simp only [List.mem_toFinset]

/-- The index takes a pair twice, a name with two counts, names and counts that do not go together,
and a move of an absent name to the count it is moved from. -/
theorem index_is_set_of_pairs_misused :
    let calls : List Call :=
      [.add "b" 3, .add "a" 3, .add "a" 0, .add "b" 3, .remove "a" 7, .remove "c" 3, .move "c" 1 1,
        .move "b" 3 0]
    let index := HitIndex.empty.performAll calls
    index.ascending = [(0, ["a", "b"]), (1, ["c"]), (3, ["a"])] ∧ index.size = 4 ∧
      index.bucket? 7 = none ∧ (index.remove "a" 3).2 = true ∧
      ["a", "b"].Pairwise fun name later => Text.bytes name < Text.bytes later := by
  intro calls index
  have hlisted : index.ascending = [(0, ["a", "b"]), (1, ["c"]), (3, ["a"])] := by decide +kernel
  have hfirst : (0, ["a", "b"]) ∈ index.ascending := by simp [hlisted]
  obtain ⟨-, hnone, -, hremove, hsize, -, -, -, -, hnames⟩ := index_is_set_of_pairs calls
  exact ⟨hlisted, hsize.trans (by decide), (hnone 7).mpr (by simp [calls, Call.apply]),
    (hremove "a" 3).mpr (by decide), hnames _ hfirst⟩

end SegmentCache.HitIndex
