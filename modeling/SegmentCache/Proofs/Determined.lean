import SegmentCache.Proofs.Runs
import SegmentCache.Proofs.TableOperations

/-!
# What the entries determine

The index and the byte counters are kept by steps of their own, but in every state that a cache can
get into they say nothing that the entries do not say. Two such tables with the same entries differ
at most in the localities for which a counter has been opened. So two ways of changing a cache lead
to the same table as soon as they lead to the same entries and open the same counters.
-/

namespace SegmentCache

/-- Tidy indices that hold the same pairs are the same. -/
theorem HitIndex.Tidy.eq_of_contains {index other : HitIndex} (htidy : index.Tidy)
    (htidy' : other.Tidy)
    (hsame : ∀ name hits, index.contains name hits = true ↔ other.contains name hits = true) :
    index = other := by
  have hnames (hits : UInt64) : index.namesWith hits = other.namesWith hits := by
    apply Std.ExtTreeSet.ext_mem
    intro name
    rw [← contains_iff, ← contains_iff, hsame]
  -- A bucket that is there is not empty, so the names with a count tell whether there is one.
  have hbucket {one another : HitIndex} (htidy : one.Tidy) {hits : UInt64}
      {names : Std.ExtTreeSet String} (hsame : one.namesWith hits = another.namesWith hits)
      (hfound : one.bucket? hits = some names) : another.bucket? hits = some names := by
    have hpopulated := htidy.populated hfound
    simp only [namesWith, hfound, Option.getD_some] at hsame
    cases hother : another.bucket? hits with
    | none =>
      rw [hother] at hsame
      exact absurd hsame hpopulated
    | some found =>
      rw [hother] at hsame
      exact congrArg some hsame.symm
  have hbuckets : index.buckets = other.buckets := by
    apply Std.ExtTreeMap.ext_getElem?
    intro hits
    apply Option.ext
    intro names
    exact ⟨hbucket htidy (hnames hits), hbucket htidy' (hnames hits).symm⟩
  have hmembers : index.members = other.members := by
    rw [htidy.tallied, htidy'.tallied, pairs, pairs, hbuckets]
  obtain ⟨buckets, members⟩ := index
  obtain ⟨buckets', members'⟩ := other
  rw [HitIndex.mk.injEq]
  exact ⟨hbuckets, hmembers⟩

namespace Table

/-- Exact operations keep the table in step. -/
theorem ExactStep.inStep {table next : Table} (hexact : ExactStep table next)
    (hstep : table.InStep) : next.InStep := by
  cases hexact with
  | put => exact hstep.put _
  | recordHit hhit => exact hstep.recordHit hhit
  | remove hremove => exact hstep.remove hremove

/-- So does a sequence of them. -/
theorem InStep.of_steps {table next : Table} (hstep : table.InStep)
    (hsteps : Relation.ReflTransGen ExactStep table next) : next.InStep := by
  induction hsteps with
  | refl => exact hstep
  | tail _ hexact ih => exact hexact.inStep ih

/-- Tables in step whose counters are exact are the same if they have the same entries and counters
for the same localities. -/
theorem InStep.eq_of_entries {table other : Table} (hstep : table.InStep) (hstep' : other.InStep)
    (hcounted : table.Counted) (hcounted' : other.Counted)
    (hentries : table.entries = other.entries)
    (hlocalities : ∀ locality, locality ∈ table.used ↔ locality ∈ other.used) : table = other := by
  have hindex : table.index = other.index := by
    refine hstep.tidy.eq_of_contains hstep'.tidy fun name hits => ?_
    rw [hstep.indexed.agrees, hstep'.indexed.agrees, get?, get?, hentries]
  have hbytes (locality : Locality) : table.usedBytes locality = other.usedBytes locality := by
    rw [← UInt64.toNat_inj, hcounted, hcounted', hentries]
  have hused : table.used = other.used := by
    apply Std.ExtTreeMap.ext_getElem?
    intro locality
    have hsame := hlocalities locality
    have hvalue := hbytes locality
    rw [Std.ExtTreeMap.mem_iff_isSome_getElem?, Std.ExtTreeMap.mem_iff_isSome_getElem?] at hsame
    simp only [usedBytes] at hvalue
    cases hone : table.used[locality]? <;> cases hanother : other.used[locality]? <;>
      simp_all
  obtain ⟨entries, index, used⟩ := table
  obtain ⟨entries', index', used'⟩ := other
  rw [Table.mk.injEq]
  exact ⟨hentries, hindex, hused⟩

/-- Adding an entry opens the counter of its locality and no other. -/
theorem mem_used_put {table : Table} {entry : Entry} (hfree : table.contains entry.name = false)
    {locality : Locality} :
    locality ∈ (table.put entry).1.used ↔ locality = entry.locality ∨ locality ∈ table.used := by
  rw [put_of_free hfree, Std.ExtTreeMap.mem_insert, Std.LawfulEqCmp.compare_eq_iff_eq]
  exact or_congr_left eq_comm

/-- Counting a hit opens no counter. -/
theorem used_recordHit {table next : Table} {name : String} {hits : UInt64}
    (hhit : table.recordHit name = some (next, hits)) : next.used = table.used := by
  obtain ⟨entry, -, -, rfl⟩ := recordHit_eq_some hhit
  rfl

/-- Taking an entry out opens no counter and closes none. -/
theorem mem_used_remove {table rest : Table} {name : String} {entry : Entry}
    (hremove : table.remove name = .ok (rest, entry)) {locality : Locality} :
    locality ∈ rest.used ↔ locality ∈ table.used := by
  unfold remove at hremove
  split at hremove
  · cases hremove
  · cases hremove
    dsimp only
    split
    · rfl
    · rename_i hopen
      rw [Std.ExtTreeMap.mem_insert, Std.LawfulEqCmp.compare_eq_iff_eq]
      refine or_iff_right_of_imp ?_
      rintro rfl
      rw [Std.ExtTreeMap.mem_iff_isSome_getElem?, hopen]
      rfl

end Table

namespace State

/-- In every state that a cache can get into, the index is in step with the entries. -/
theorem Reachable.inStep {state : State} (hreach : Reachable state) : state.table.InStep := by
  induction hreach with
  | initial => exact Table.InStep.empty
  | @message state hbefore message ih =>
    exact ih.of_steps (Moves.table_steps (handle_moves state message) hbefore.coherent)
  | surroundings _ _ _ _ ih => exact ih

/-- Two states that a cache can get into are the same if they agree on the entries, on which
counters have been opened and which names are locked, and on what they have beside the table. -/
theorem Reachable.eq_of_entries {state other : State} (hreach : Reachable state)
    (hreach' : Reachable other) (hconfig : state.config = other.config)
    (hentries : ∀ name, state.table.get? name = other.table.get? name)
    (hlocalities : ∀ locality, locality ∈ state.table.used ↔ locality ∈ other.table.used)
    (hlocks : ∀ name, state.locks.isLocked name = other.locks.isLocked name)
    (hstore : state.store = other.store) (hprofile : state.profile = other.profile)
    (hfiles : state.files = other.files) (hclock : state.clock = other.clock) : state = other := by
  have hcoherent := hreach.coherent
  have hcoherent' := hreach'.coherent
  have hmap : state.table.entries = other.table.entries := Std.ExtTreeMap.ext_getElem? hentries
  have htable := hreach.inStep.eq_of_entries hreach'.inStep hcoherent.counted hcoherent'.counted
    hmap hlocalities
  have hreplica : state.replica = other.replica := by
    rw [hcoherent.replica, hcoherent'.replica, hmap]
  have hnames : state.locks.names = other.locks.names := Std.ExtTreeSet.ext_contains hlocks
  obtain ⟨config, table, locks, replica, store, profile, files, clock⟩ := state
  obtain ⟨config', table', locks', replica', store', profile', files', clock'⟩ := other
  rw [State.mk.injEq]
  exact ⟨hconfig, htable, congrArg LockSet.mk hnames, hreplica, hstore, hprofile, hfiles, hclock⟩

end State

end SegmentCache
