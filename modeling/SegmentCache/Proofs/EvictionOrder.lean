import SegmentCache.Eviction
import SegmentCache.Proofs.Table

/-!
# The order of eviction

The candidates for eviction are read off the hit index. Where the index agrees with the entries,
they are what sorting the unlocked entries of the locality gives: `candidates_eq` says so, since
both lists hold the same names and a list is determined by its members once it is strictly sorted.
-/

namespace SegmentCache

/-- Whether an entry leaves no later than another: it has fewer hits, or as many and a name whose
bytes come no later. -/
def Entry.leavesBy (a b : Entry) : Bool :=
  a.hits < b.hits ∨ a.hits = b.hits ∧ Text.bytes a.name ≤ Text.bytes b.name

/-- The order among entries is transitive. -/
theorem Entry.leavesBy_trans (a b c : Entry) (hab : a.leavesBy b = true)
    (hbc : b.leavesBy c = true) : a.leavesBy c = true := by
  simp only [leavesBy, decide_eq_true_eq] at hab hbc ⊢
  rcases hab with hab | ⟨hab, hab'⟩ <;> rcases hbc with hbc | ⟨hbc, hbc'⟩
  · exact Or.inl (UInt64.lt_trans hab hbc)
  · exact Or.inl (hbc ▸ hab)
  · exact Or.inl (hab ▸ hbc)
  · exact Or.inr ⟨hab.trans hbc, List.le_trans hab' hbc'⟩

/-- The order among entries is total. -/
theorem Entry.leavesBy_total (a b : Entry) : (a.leavesBy b || b.leavesBy a) = true := by
  simp only [leavesBy, Bool.or_eq_true, decide_eq_true_eq]
  rcases Nat.lt_trichotomy a.hits.toNat b.hits.toNat with hless | hsame | hmore
  · exact Or.inl (Or.inl hless)
  · have hhits : a.hits = b.hits := UInt64.toNat_inj.mp hsame
    rcases List.le_total (Text.bytes a.name) (Text.bytes b.name) with hname | hname
    · exact Or.inl (Or.inr ⟨hhits, hname⟩)
    · exact Or.inr (Or.inr ⟨hhits.symm, hname⟩)
  · exact Or.inr (Or.inl hmore)

/-- The hits and the name of an entry, which decide when it leaves. -/
def Entry.rank (entry : Entry) : UInt64 × String :=
  (entry.hits, entry.name)

/-- Among entries of different names, the one that leaves no later leaves before. -/
theorem Entry.leavesBefore_rank {a b : Entry} (hleaves : a.leavesBy b = true)
    (hname : a.name ≠ b.name) : LeavesBefore a.rank b.rank := by
  simp only [leavesBy, decide_eq_true_eq] at hleaves
  rcases hleaves with hfewer | ⟨hsame, hbytes⟩
  · exact Or.inl hfewer
  · refine Or.inr ⟨hsame, ?_⟩
    rw [rank, rank, Text.bytes_lt_bytes_iff]
    have hle : a.name ≤ b.name := fun hgt => hbytes (Text.bytes_lt_bytes_iff.mpr hgt)
    rw [← String.not_le]
    exact fun hge => hname (String.le_antisymm hle hge)

/-- The unlocked entries at a locality, sorted by the order in which they leave. -/
def evictable (entries : Std.ExtTreeMap String Entry) (locked : Std.ExtTreeSet String)
    (locality : Locality) : List Entry :=
  ((entriesAt entries locality).filter fun entry =>
    !locked.contains entry.name).mergeSort Entry.leavesBy

instance : Std.Irrefl LeavesBefore where
  irrefl pair := by
    rintro (hhits | ⟨-, hname⟩)
    · exact UInt64.lt_irrefl _ hhits
    · exact List.lt_irrefl _ hname

instance : Std.Antisymm LeavesBefore where
  antisymm a b := by
    rintro (hab | ⟨hab, hab'⟩) (hba | ⟨hba, hba'⟩)
    · exact absurd hba (UInt64.lt_asymm hab)
    · exact absurd hab (hba ▸ UInt64.lt_irrefl _)
    · exact absurd hba (hab ▸ UInt64.lt_irrefl _)
    · exact absurd hba' (List.lt_asymm hab')

namespace Table

/-- The entries at a locality are those that are found under their own names. -/
theorem Indexed.mem_entriesAt {table : Table} (hindexed : table.Indexed) {locality : Locality}
    {entry : Entry} :
    entry ∈ entriesAt table.entries locality ↔
      table.get? entry.name = some entry ∧ entry.locality = locality := by
  simp only [entriesAt, List.mem_filter, List.mem_map, decide_eq_true_eq, and_congr_left_iff]
  rintro -
  constructor
  · rintro ⟨⟨name, found⟩, hmem, rfl⟩
    have hfound : table.get? name = some found :=
      Std.ExtTreeMap.mem_toList_iff_getElem?_eq_some.mp hmem
    rwa [hindexed.named hfound]
  · intro hfound
    exact ⟨(entry.name, entry), Std.ExtTreeMap.mem_toList_iff_getElem?_eq_some.mpr hfound, rfl⟩

/-- The entries at a locality have different names. -/
theorem Indexed.pairwise_entriesAt {table : Table} (hindexed : table.Indexed)
    (locality : Locality) :
    (entriesAt table.entries locality).Pairwise fun a b => a.name ≠ b.name := by
  unfold entriesAt
  apply List.Pairwise.filter
  rw [List.pairwise_map]
  refine table.entries.distinct_keys_toList.imp_of_mem ?_
  rintro ⟨name, entry⟩ ⟨other, later⟩ hentry hlater hkeys hsame
  have hname : entry.name = name :=
    hindexed.named (Std.ExtTreeMap.mem_toList_iff_getElem?_eq_some.mp hentry)
  have hother : later.name = other :=
    hindexed.named (Std.ExtTreeMap.mem_toList_iff_getElem?_eq_some.mp hlater)
  apply hkeys
  rw [Std.LawfulEqCmp.compare_eq_iff_eq, ← hname, ← hother]
  exact hsame

/-- What can leave a locality is what is found there and is not locked. -/
theorem Indexed.mem_evictable {table : Table} (hindexed : table.Indexed)
    {locked : Std.ExtTreeSet String} {locality : Locality} {entry : Entry} :
    entry ∈ evictable table.entries locked locality ↔
      table.get? entry.name = some entry ∧ entry.locality = locality ∧
        locked.contains entry.name = false := by
  simp [evictable, hindexed.mem_entriesAt, and_assoc]

/-- The entries that can leave a locality have different names. -/
theorem Indexed.pairwise_evictable {table : Table} (hindexed : table.Indexed)
    (locked : Std.ExtTreeSet String) (locality : Locality) :
    (evictable table.entries locked locality).Pairwise fun a b => a.name ≠ b.name := by
  have hdistinct := (hindexed.pairwise_entriesAt locality).filter fun entry =>
    !locked.contains entry.name
  exact ((List.mergeSort_perm _ _).pairwise_iff Ne.symm).mpr hdistinct

/-- Sorting puts the entries that can leave a locality in the order in which names leave. -/
theorem Indexed.pairwise_rank_evictable {table : Table} (hindexed : table.Indexed)
    (locked : Std.ExtTreeSet String) (locality : Locality) :
    ((evictable table.entries locked locality).map Entry.rank).Pairwise LeavesBefore := by
  have hsorted : (evictable table.entries locked locality).Pairwise
      fun a b => a.leavesBy b = true :=
    List.pairwise_mergeSort Entry.leavesBy_trans Entry.leavesBy_total _
  rw [List.pairwise_map]
  refine (hsorted.and (hindexed.pairwise_evictable locked locality)).imp ?_
  rintro a b ⟨hleaves, hname⟩
  exact Entry.leavesBefore_rank hleaves hname

/-- The candidates read off the index are what sorting the unlocked entries gives. -/
theorem Indexed.candidates_eq {table : Table} (hindexed : table.Indexed) (locks : LockSet)
    (locality : Locality) :
    table.candidates locks locality =
      (evictable table.entries locks.names locality).map (·.name) := by
  have hpairs : (evictable table.entries locks.names locality).map Entry.rank =
      table.index.pairs.filter fun pair =>
        !locks.isLocked pair.2 && (table.get? pair.2).any (·.locality = locality) := by
    apply List.Pairwise.eq_of_mem_iff (hindexed.pairwise_rank_evictable locks.names locality)
      (table.index.pairwise_pairs.filter _)
    rintro ⟨hits, name⟩
    simp only [List.mem_map, List.mem_filter, HitIndex.mem_pairs, hindexed.agrees,
      hindexed.mem_evictable]
    constructor
    · rintro ⟨entry, ⟨hfound, hlocality, hunlocked⟩, hrank⟩
      cases hrank
      refine ⟨⟨entry, hfound, rfl⟩, ?_⟩
      simp [hfound, hlocality, LockSet.isLocked, hunlocked]
    · rintro ⟨⟨entry, hfound, rfl⟩, hleaves⟩
      obtain rfl := hindexed.named hfound
      have hchosen : locks.isLocked entry.name = false ∧ entry.locality = locality := by
        simpa [hfound] using hleaves
      exact ⟨entry, ⟨hfound, hchosen.2, hchosen.1⟩, rfl⟩
  have hnames := congrArg (List.map Prod.snd) hpairs
  rw [List.map_map] at hnames
  rw [candidates, HitIndex.namesByHits_eq, List.filter_map]
  exact hnames.symm

end Table

end SegmentCache
