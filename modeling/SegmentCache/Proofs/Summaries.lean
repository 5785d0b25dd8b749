import SegmentCache.Proofs.DeviceRouting
import SegmentCache.Proofs.Determined

/-!
# What the summary says

When a cache stops, it sums up how many entries it has and how many bytes they take. The bytes are
added up afresh, entry by entry and in whatever order the entries are met, while the rest of the
cache works with a counter for each locality. Both lead to one figure: each entry is counted at its
own locality and at no other, and a sum that is held at the largest word does not depend on the
order of what is added.
-/

namespace SegmentCache

/-- The localities are host memory and a device for each number. -/
instance : Fintype Locality :=
  .ofEquiv (Option UInt32)
    { toFun := fun device => device.elim .cpu .gpu
      invFun := Locality.device?
      left_inv := by rintro (_ | _) <;> rfl
      right_inv := by rintro (_ | _) <;> rfl }

/-- The bytes at all localities are those of all entries. -/
theorem sum_bytesAt (entries : Std.ExtTreeMap String Entry) :
    ∑ locality : Locality, bytesAt entries locality =
      ((entries.toList.map (·.2)).map (·.size.toNat)).sum := by
  unfold bytesAt entriesAt
  induction entries.toList.map (·.2) with
  | nil => simp
  | cons entry others ih =>
    -- Of all the sums, one more entry changes only that of its own locality.
    have hcons (locality : Locality) :
        (((entry :: others).filter (·.locality = locality)).map (·.size.toNat)).sum =
          entry.bytesAt locality +
            ((others.filter (·.locality = locality)).map (·.size.toNat)).sum := by
      by_cases hlocality : entry.locality = locality <;> simp [hlocality, Entry.bytesAt]
    simp only [hcons, Finset.sum_add_distrib, ih, Entry.bytesAt, Finset.sum_ite_eq, Finset.mem_univ,
      if_true, List.map_cons, List.sum_cons]

namespace Table

/-- In whatever order the entries are met, their bytes add up to the exact sum, held at the
largest word. -/
theorem toNat_foldl_addSat_of_perm {table : Table} {order : List Entry}
    (horder : order.Perm (table.entries.toList.map (·.2))) :
    (order.foldl (fun total entry => Word.addSat total entry.size) 0).toNat =
      min (2 ^ 64 - 1) (∑ locality : Locality, bytesAt table.entries locality) := by
  rw [Word.toNat_foldl_addSat Entry.size, (horder.map (·.size.toNat)).sum_nat, sum_bytesAt,
    Nat.min_comm]
  simp

/-- The table meets its entries in the order of their names. -/
theorem totalBytes_eq_foldl (table : Table) :
    table.totalBytes =
      (table.entries.toList.map (·.2)).foldl (fun total entry => Word.addSat total entry.size) 0 := by
  rw [totalBytes, Std.ExtTreeMap.foldl_eq_foldl_toList, List.foldl_map]

end Table

namespace State

/-- In every state that a cache can get into, the summary is the same in whatever order the entries
are met. The bytes that it gives are those of the counters of all localities, and the capacity is
that of host memory and all devices, both held at the largest word. It counts as many entries as
the index does and as clients see. -/
theorem summary_agrees_with_counters {state : State} (hreach : Reachable state) :
    (∀ order : List Entry, order.Perm (state.table.entries.toList.map (·.2)) →
      order.foldl (fun total entry => Word.addSat total entry.size) 0 = state.summary.usedSize) ∧
    state.summary.usedSize.toNat =
      min (2 ^ 64 - 1) (∑ locality : Locality, (state.usedBytes locality).toNat) ∧
    state.summary.entries = state.table.index.size ∧
    state.summary.entries = state.replica.size ∧
    state.summary.maxSize.toNat =
      min (2 ^ 64 - 1)
        (state.config.cpuCapacity.toNat + (state.config.devices.map (·.capacity.toNat)).sum) := by
  have hcoherent := hreach.coherent
  have hused (order : List Entry) (horder : order.Perm (state.table.entries.toList.map (·.2))) :
      (order.foldl (fun total entry => Word.addSat total entry.size) 0).toNat =
        min (2 ^ 64 - 1) (∑ locality : Locality, (state.usedBytes locality).toNat) := by
    rw [Table.toNat_foldl_addSat_of_perm horder]
    simp only [usedBytes, hcoherent.counted _]
  have htotal : state.summary.usedSize.toNat =
      min (2 ^ 64 - 1) (∑ locality : Locality, (state.usedBytes locality).toNat) := by
    rw [← hused _ (.refl _), ← Table.totalBytes_eq_foldl]
    rfl
  refine ⟨?_, htotal, hreach.inStep.size_index.symm, ?_, ?_⟩
  · intro order horder
    rw [← UInt64.toNat_inj, hused order horder, htotal]
  · rw [hcoherent.replica]
    rfl
  · rw [Nat.min_comm]
    exact state.config.toNat_totalCapacity

/-- Host memory and a device hold objects whose bytes add up to one more than the largest word, so
the summary gives the largest word, whichever of the two is met first. -/
theorem summary_agrees_with_counters_saturated :
    let device : Device := { id := 0, bus := "b", capacity := 1 }
    let config : Config := { cpuCapacity := 18446744073709551615, devices := [device] }
    let state :=
      ((State.initial config (Store.empty none) FileTree.empty "").withStore
        ((Store.empty none).register "s" { locality := .cpu, contents := .zeros 1 })).handleAll
        [.put { fileName := "a", handle := "h", size := 18446744073709551615 },
          .putGpu { fileName := "b", handle := "s", size := 1, bus := "b" }]
    Reachable state ∧ state.usedBytes .cpu = 18446744073709551615 ∧
      state.usedBytes (.gpu 0) = 1 ∧
      state.summary.usedSize.toNat = 2 ^ 64 - 1 ∧
      2 ^ 64 - 1 = min (2 ^ 64 - 1) (∑ locality : Locality, (state.usedBytes locality).toNat) ∧
      ((state.table.entries.toList.map (·.2)).reverse.foldl
        (fun total entry => Word.addSat total entry.size) 0).toNat = 2 ^ 64 - 1 := by
  intro device config state
  have hreach : Reachable state :=
    ((Reachable.initial config _ _ _).surroundings _ _ _).handleAll _
  have hused : state.summary.usedSize.toNat = 2 ^ 64 - 1 := by decide +kernel
  obtain ⟨horders, hsum, -⟩ := summary_agrees_with_counters hreach
  refine ⟨hreach, by decide +kernel, by decide +kernel, hused, hused.symm.trans hsum, ?_⟩
  rw [horders _ (List.reverse_perm _), hused]

end State

end SegmentCache
