import SegmentCache.Proofs.Capacity
import SegmentCache.Proofs.EvictionPrefix
import SegmentCache.Proofs.Incarnations

/-!
# When a counter overflows

An insertion meets the size of its object twice. A saturating sum is compared with the capacity to
decide whether anything has to leave, and a checked sum decides whether the counter can take the
object. Below the largest capacity a sum out of range does not fit, so everything that may leave
has left when the checked sum fails: what overflows the counter is locked. At the largest capacity
the saturating sum always fits and nothing leaves.
-/

namespace SegmentCache

/-- The exact number of bytes of the locked entries at a locality. -/
def lockedBytes (entries : Std.ExtTreeMap String Entry) (locked : Std.ExtTreeSet String)
    (locality : Locality) : Nat :=
  bytesOf ((entriesAt entries locality).filter fun entry => locked.contains entry.name)

/-- What is locked is part of what is there. -/
theorem lockedBytes_le_bytesAt (entries : Std.ExtTreeMap String Entry)
    (locked : Std.ExtTreeSet String) (locality : Locality) :
    lockedBytes entries locked locality ≤ bytesAt entries locality :=
  (List.filter_sublist.map _).sum_le_sum fun _ _ => Nat.zero_le _

namespace Table

/-- Where everything at a locality is locked, its locked bytes are all its bytes. -/
theorem Indexed.lockedBytes_eq_bytesAt {table : Table} (hindexed : table.Indexed)
    {locked : Std.ExtTreeSet String} {locality : Locality}
    (hall : ∀ {name entry}, table.get? name = some entry → entry.locality = locality →
      locked.contains name = true) :
    lockedBytes table.entries locked locality = bytesAt table.entries locality := by
  rw [lockedBytes, List.filter_eq_self.mpr]
  · rfl
  · intro entry hentry
    obtain ⟨hfound, hplace⟩ := hindexed.mem_entriesAt.mp hentry
    exact hall hfound hplace

/-- The locked bytes stay as long as the entries under locked names do. -/
theorem Indexed.lockedBytes_congr {table next : Table} (hindexed : table.Indexed)
    (hindexed' : next.Indexed) {locked : Std.ExtTreeSet String}
    (hkept : ∀ {name}, locked.contains name = true → next.get? name = table.get? name)
    (locality : Locality) :
    lockedBytes next.entries locked locality = lockedBytes table.entries locked locality := by
  have hnodup {other : Table} (hother : other.Indexed) :
      ((entriesAt other.entries locality).filter fun entry => locked.contains entry.name).Nodup :=
    ((hother.pairwise_entriesAt locality).filter _).imp fun hnames hsame =>
      hnames (congrArg Entry.name hsame)
  have hperm : ((entriesAt next.entries locality).filter fun entry =>
      locked.contains entry.name).Perm
      ((entriesAt table.entries locality).filter fun entry => locked.contains entry.name) := by
    rw [List.perm_ext_iff_of_nodup (hnodup hindexed') (hnodup hindexed)]
    intro entry
    simp only [List.mem_filter, hindexed.mem_entriesAt, hindexed'.mem_entriesAt]
    refine and_congr_left fun hlocked => ?_
    rw [hkept hlocked]
  exact (hperm.map (·.size.toNat)).sum_nat

end Table

/-- Whether a message failed because a counter would have left the range of a word. -/
def Outcome.overflows (outcome : Outcome) : Bool :=
  match outcome.result with
  | .error (.sizeOverflow ..) => true
  | _ => false

namespace State

variable {state : State}

/-- A message that brings in an object brings it to a locality with a capacity. -/
theorem capacityFor_of_insertion? {message : Message} {insertion : Insertion}
    (hbrings : state.insertion? message = some insertion) :
    ∃ capacity, state.config.capacityFor insertion.locality = some capacity := by
  obtain ⟨offer, rfl, -, rfl⟩ | ⟨offer, device, rfl, hdevice, -, rfl⟩ | ⟨offer, rfl, rfl⟩ :=
    insertion?_cases hbrings
  · exact ⟨_, rfl⟩
  · have hlisted : (state.config.devices.find? (·.id = device.id)).isSome = true :=
      List.find?_isSome.mpr ⟨device, List.mem_of_find?_eq_some hdevice, by simp⟩
    obtain ⟨found, hfound⟩ := Option.isSome_iff_exists.mp hlisted
    exact ⟨found.capacity, by simp [DeviceOffer.insertion, Config.capacityFor, hfound]⟩
  · exact ⟨_, rfl⟩

/-- The counter overflows when what is left after making room and the object are too much for it
together. -/
theorem insert_overflows_iff {insertion : Insertion} {capacity : UInt64}
    (hcapacity : state.config.capacityFor insertion.locality = some capacity) :
    (state.insert insertion).overflows = true ↔
      2 ^ 64 ≤ ((state.makeRoom insertion.name insertion.locality insertion.size
        capacity).1.usedBytes insertion.locality).toNat + insertion.size.toNat := by
  rw [insert_eq_settle state insertion hcapacity, ← Word.size_eq, usedBytes,
    ← Word.addChecked_eq_none_iff]
  generalize state.makeRoom insertion.name insertion.locality insertion.size capacity = made
  obtain ⟨room, events⟩ := made
  simp only [settle, Outcome.overflows]
  cases Word.addChecked (room.table.usedBytes insertion.locality) insertion.size with
  | none => simp [fail]
  | some sum =>
    cases place room.store insertion with
    | mk placed store => cases placed <;> simp [fail, crash, done]

/-- Locked entries stay where they are while room is made. -/
theorem get?_makeRoom_of_locked {name other : String} (hlocked : state.locks.isLocked other = true)
    (locality : Locality) (size capacity : UInt64) :
    (state.makeRoom name locality size capacity).1.table.get? other = state.table.get? other := by
  refine (makeRoom_induction (motive := fun next => next.locks = state.locks ∧
    next.table.get? other = state.table.get? other) name locality size capacity ⟨rfl, rfl⟩ ?_).2
  intro next victim table gone hunlocked hremove ⟨hlocks, hkept⟩
  rw [release_state]
  refine ⟨hlocks, ?_⟩
  have hvictim : victim ≠ other := by
    rintro rfl
    rw [hlocks, hlocked] at hunlocked
    cases hunlocked
  rw [← hkept]
  exact (Table.get?_remove hremove other).trans (if_neg hvictim)

/-- At the largest capacity everything fits, so nothing leaves. -/
theorem makeRoom_largest (name : String) (locality : Locality) (size : UInt64) :
    state.makeRoom name locality size Word.max = (state, []) := by
  have hfits : state.table.fits locality size Word.max = true := by
    have hmax : Word.max.toNat = UInt64.size - 1 := by decide
    rw [Table.fits, decide_eq_true_eq, UInt64.le_iff_toNat_le, Word.toNat_addSat, hmax]
    exact Nat.min_le_right _ _
  rw [makeRoom, if_pos hfits]

/-- Below the largest capacity, what is left after making room is too much for the counter exactly
when what is locked is. -/
theorem Coherent.makeRoom_overflows_iff (hcoherent : state.Coherent) {capacity : UInt64}
    (hbelow : capacity ≠ Word.max) (name : String) (locality : Locality) (size : UInt64) :
    2 ^ 64 ≤ ((state.makeRoom name locality size capacity).1.usedBytes locality).toNat +
        size.toNat ↔
      2 ^ 64 ≤ lockedBytes state.table.entries state.locks.names locality + size.toNat := by
  let room := (state.makeRoom name locality size capacity).1
  have hroom : room.Coherent :=
    Moves.coherent (makeRoom_moves .quit state name locality size capacity) hcoherent
  have hlocked : lockedBytes room.table.entries state.locks.names locality =
      lockedBytes state.table.entries state.locks.names locality :=
    hcoherent.indexed.lockedBytes_congr hroom.indexed
      (fun hlocked => get?_makeRoom_of_locked hlocked locality size capacity) locality
  have hused : (room.usedBytes locality).toNat = bytesAt room.table.entries locality :=
    hroom.counted locality
  rw [← hlocked, show ((state.makeRoom name locality size capacity).1.usedBytes locality).toNat = _
    from hused]
  constructor
  · intro hover
    -- A sum out of range is held at the largest word, which is above the capacity.
    have hscarce : ¬ room.table.fits locality size capacity = true := by
      have hmax : Word.max.toNat = 2 ^ 64 - 1 := by decide
      have hbelow' : capacity.toNat ≠ Word.max.toNat := fun hsame =>
        hbelow (UInt64.toNat_inj.mp hsame)
      have hbound := capacity.toNat_lt
      have hused' : (room.table.usedBytes locality).toNat = bytesAt room.table.entries locality :=
        hused
      rw [Table.fits, decide_eq_true_eq, UInt64.le_iff_toNat_le, Word.toNat_addSat, Word.size_eq]
      omega
    have hall {other : String} {entry : Entry} (hfound : room.table.get? other = some entry)
        (hplace : entry.locality = locality) : state.locks.isLocked other = true := by
      rw [← makeRoom_locks state name locality size capacity]
      exact (hcoherent.makeRoom_fits_or_locked name locality size capacity).resolve_left hscarce
        hfound hplace
    rwa [hroom.indexed.lockedBytes_eq_bytesAt hall]
  · intro hover
    have hpart := lockedBytes_le_bytesAt room.table.entries state.locks.names locality
    omega

/-- What is locked stays where it is when an entry is let go of that is not. -/
theorem Coherent.lockedBytes_vacate (hcoherent : state.Coherent) {name : String}
    (hunlocked : state.locks.isLocked name = false) (locality : Locality) :
    lockedBytes (state.vacate name).1.table.entries state.locks.names locality =
      lockedBytes state.table.entries state.locks.names locality := by
  have hvacated : (state.vacate name).1.Coherent :=
    Moves.coherent (vacate_moves .quit hunlocked) hcoherent
  refine hcoherent.indexed.lockedBytes_congr hvacated.indexed ?_ locality
  intro other hlocked
  rw [get?_vacate, if_neg]
  rintro rfl
  exact Bool.eq_false_iff.mp hunlocked hlocked

/-- A message that gets as far as inserting its object overflows the counter of the locality
exactly when the locked entries there and the object are too much for it, so that evicting
everything else would not help. The largest capacity is the exception: nothing is evicted there,
and the counter overflows when all entries but the one replaced and the object are too much. -/
theorem overflows_iff_locked_bytes (hreach : Reachable state) {message : Message}
    {insertion : Insertion} (hbrings : state.insertion? message = some insertion)
    (hopen : state.table.contains insertion.name = true →
      state.locks.isLocked insertion.name = false) :
    ∃ capacity, state.config.capacityFor insertion.locality = some capacity ∧
      (capacity ≠ Word.max →
        ((state.handle message).overflows = true ↔
          2 ^ 64 ≤ lockedBytes state.table.entries state.locks.names insertion.locality +
            insertion.size.toNat)) ∧
      (capacity = Word.max →
        ((state.handle message).overflows = true ↔
          2 ^ 64 ≤ bytesAt (state.table.entries.erase insertion.name) insertion.locality +
            insertion.size.toNat)) := by
  obtain ⟨capacity, hcapacity⟩ := capacityFor_of_insertion? hbrings
  obtain ⟨function, parameter, events, -, hhandle, -⟩ := handle_eq_insert hbrings hopen
  let base := (state.vacate insertion.name).1.countPut function parameter insertion.name
  obtain ⟨hbase, hrecedes, -⟩ : base.Coherent ∧ state.Recedes base ∧ _ :=
    hreach.coherent.vacate_countPut hopen function parameter
  have hcapacity' : base.config.capacityFor insertion.locality = some capacity :=
    hrecedes.config ▸ hcapacity
  have hoverflows : (state.handle message).overflows = (base.insert insertion).overflows := by
    rw [hhandle]
    rfl
  rw [hoverflows]
  refine ⟨capacity, hcapacity, ?_, ?_⟩
  · intro hbelow
    have hunlocked := hreach.coherent.not_locked hopen
    have hlocks : base.locks = state.locks := state.vacate_locks insertion.name
    have hlocked : lockedBytes base.table.entries state.locks.names insertion.locality =
        lockedBytes state.table.entries state.locks.names insertion.locality :=
      hreach.coherent.lockedBytes_vacate hunlocked insertion.locality
    rw [insert_overflows_iff hcapacity', hbase.makeRoom_overflows_iff hbelow, hlocks, hlocked]
  · rintro rfl
    have hentries : base.table.entries = state.table.entries.erase insertion.name :=
      state.entries_vacate insertion.name
    rw [insert_overflows_iff hcapacity', makeRoom_largest, ← hentries, ← hbase.counted]
    rfl

/-- An object that a locked one leaves no room for in the counter, although the capacity is small
and everything else could leave. -/
theorem overflows_iff_locked_bytes_held :
    let state :=
      (State.initial (Config.ofCapacity 10) (Store.empty none) FileTree.empty "").handleAll
        [.put { fileName := "a", handle := "h", size := 18446744073709551614 }, .lock "a",
          .put { fileName := "b", handle := "g", size := 1 }]
    let message : Message := .replace { fileName := "b", handle := "k", size := 2 }
    Reachable state ∧ lockedBytes state.table.entries state.locks.names .cpu = 2 ^ 64 - 2 ∧
      (state.handle message).overflows = true := by
  intro state message
  have hreach : Reachable state := (Reachable.initial _ _ _ _).handleAll _
  have hlocked : lockedBytes state.table.entries state.locks.names .cpu = 2 ^ 64 - 2 := by
    decide +kernel
  obtain ⟨capacity, hcapacity, hbelow, -⟩ := overflows_iff_locked_bytes hreach
    (show state.insertion? message = some _ from rfl) (fun _ => by decide +kernel)
  have hten : capacity = 10 := (Option.some.inj hcapacity).symm
  refine ⟨hreach, hlocked, (hbelow (hten ▸ by decide)).mpr ?_⟩
  show 2 ^ 64 ≤ lockedBytes state.table.entries state.locks.names .cpu + 2
  omega

/-- At the largest capacity a counter overflows although nothing is locked and evicting the one
entry there would make all the room that is needed. -/
theorem overflows_with_nothing_locked :
    let config : Config := { processName := "p", cpuCapacity := 18446744073709551615 }
    let state :=
      ((State.initial config (Store.empty none) FileTree.empty "").handle
        (.put { fileName := "a", handle := "h", size := 9223372036854775808 })).state
    let offer : Offer := { fileName := "b", handle := "g", size := 9223372036854775808 }
    config.validate = .ok () ∧ Reachable state ∧
      state.insertion? (.put offer) = some (offer.insertion "b") ∧
      state.table.contains "b" = false ∧
      lockedBytes state.table.entries state.locks.names .cpu + offer.size.toNat < 2 ^ 64 ∧
      (state.handle (.put offer)).overflows = true := by
  intro config state offer
  have hkey : entryKey offer.fileName = "b" := by decide +kernel
  have hfree : state.table.contains "b" = false := by decide +kernel
  have hbrings : state.insertion? (.put offer) = some (offer.insertion "b") := by
    simp only [insertion?, isInCache, hkey, hfree]
    rfl
  exact ⟨by decide +kernel, (Reachable.initial _ _ _ _).message _, hbrings, hfree,
    by decide +kernel, by decide +kernel⟩

end State

end SegmentCache
