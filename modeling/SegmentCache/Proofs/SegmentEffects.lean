import SegmentCache.Proofs.MessageFrame
import SegmentCache.Proofs.Placements

/-!
# What a message does to the segments

Handling a message discards the segments of the entries that leave. Then at most one buffer is
added, where the message copies its object to a device. This holds whether the message succeeds or
fails, so it says which segments a failed message leaves behind, whether an object that was accepted
is still backed by its segment, and what a copy to a device does to the segments that were there.
No handle is compared with another on the way, so each of these has its exception: a copy that
fails leaves its buffer, a segment that an entry shares goes with that entry, and a buffer takes
the place of a segment that has its handle.
-/

namespace SegmentCache

/-- Whether the failure is that of a copy between segments. -/
def CacheFailure.onCopy : CacheFailure → Bool
  | .segment (.unknown _) | .segment (.sizeMismatch ..) => true
  | _ => false

/-- A segment that cannot be copied gives the failure of a copy. -/
theorem Store.CopyFault.onCopy {store : Store} {source : String} {size : Nat}
    {cause : SegmentFailure} (hfault : store.CopyFault source size cause) :
    (CacheFailure.segment cause).onCopy = true := by
  cases hfault <;> rfl

namespace State

variable {state : State} {message : Message} {insertion : Insertion}

/-- The store without the segments of the entries that leave when a message is handled. -/
def cleared (state : State) (message : Message) : Store :=
  state.store.discardAll (state.released message)

/-- What is left of the segments when entries have left. -/
theorem get?_cleared (state : State) (message : Message) (handle : String) :
    (state.cleared message).get? handle =
      if handle ∈ state.released message then none else state.store.get? handle :=
  state.store.get?_discardAll _ handle

/-- The segments that are left are as they were. -/
theorem get?_cleared_eq_some_iff {handle : String} {segment : Segment} :
    (state.cleared message).get? handle = some segment ↔
      state.store.get? handle = some segment ∧ handle ∉ state.released message := by
  rw [get?_cleared]
  by_cases hgone : handle ∈ state.released message <;> simp [hgone]

/-- The next handle does not depend on what has left. -/
theorem nextBuffer_cleared (state : State) (message : Message) (device : UInt32) :
    (state.cleared message).nextBuffer device = state.store.nextBuffer device := by
  rw [Store.nextBuffer, cleared, (Store.discardAll_frame _ _).1]
  rfl

/-- A buffer among what is left shows under the handle that was next before. -/
theorem get?_cleared_withBuffer (state : State) (message : Message) (device : UInt32)
    (contents : Contents) (handle : String) :
    ((state.cleared message).withBuffer device contents).get? handle =
      if state.store.nextBuffer device = handle then some { locality := .gpu device, contents }
      else (state.cleared message).get? handle := by
  rw [Store.get?_withBuffer, nextBuffer_cleared]

/-- A message that brings in no object does no more to the segments than to clear them. -/
theorem store_of_no_insertion (hnone : state.insertion? message = none) :
    (state.handle message).state.store = state.cleared message :=
  congrArg State.store (handle_withStore hnone state.store).1

/-- A message that gets as far as inserting its object meets a counter that cannot take it, or
finds a segment for it among those that are left, or fails or crashes over it. -/
theorem handle_places (hbrings : state.insertion? message = some insertion)
    (hopen : state.table.contains insertion.name = true →
      state.locks.isLocked insertion.name = false) :
    let outcome := state.handle message
    (∃ used, outcome.state.store = state.cleared message ∧ outcome.result =
      .error (.sizeOverflow insertion.name insertion.locality used insertion.size)) ∨
    (∃ cause, Placing (state.cleared message) insertion (.error cause) outcome.state.store ∧
      outcome.result = .error (.segment cause)) ∨
    (Placing (state.cleared message) insertion .crashed outcome.state.store ∧
      outcome.result = .crashed) ∨
    ∃ handle, Placing (state.cleared message) insertion (.ok handle) outcome.state.store ∧
      outcome.result = .ok .none ∧
      outcome.state.table.get? insertion.name = some (insertion.entry handle) := by
  intro outcome
  obtain ⟨room, capacity, -, -, hfree, hstore, hstate, hresult⟩ := handle_in_room hbrings hopen
  have hplacing := placing room.store insertion
  rw [show outcome.state = _ from hstate, show outcome.result = _ from hresult,
    cleared, ← hstore]
  rcases room.settle_cases insertion with
    ⟨used, hsettled, hfails⟩ | ⟨cause, store, hplace, hsettled, hfails⟩ |
    ⟨store, hplace, hsettled, hcrashes⟩ | ⟨handle, store, hplace, hsettled, hok⟩
  · exact Or.inl ⟨used, by rw [hsettled], hfails⟩
  · rw [hplace] at hplacing
    exact Or.inr (Or.inl ⟨cause, by rw [hsettled]; exact hplacing, hfails⟩)
  · rw [hplace] at hplacing
    exact Or.inr (Or.inr (Or.inl ⟨by rw [hsettled]; exact hplacing, hcrashes⟩))
  · rw [hplace] at hplacing
    refine Or.inr (Or.inr (Or.inr ⟨handle, by rw [hsettled]; exact hplacing, hok, ?_⟩))
    rw [hsettled]
    exact (@get?_add (room.withStore store) insertion hfree handle insertion.name).trans
      (if_pos rfl)

/-- A message that copies to a device asks for that device. -/
theorem putGpu_of_insertion? (hbrings : state.insertion? message = some insertion)
    {device : UInt32} (hdevice : insertion.locality = .gpu device) :
    ∃ offer found, message = .putGpu offer ∧ state.config.deviceAt offer.bus = some found ∧
      found.id = device ∧ insertion = offer.insertion found.id (entryKey offer.fileName) := by
  obtain ⟨offer, -, -, rfl⟩ | ⟨offer, found, rfl, hfound, -, rfl⟩ | ⟨offer, -, rfl⟩ :=
    insertion?_cases hbrings
  · cases hdevice
  · cases hdevice
    exact ⟨offer, found, rfl, hfound, rfl, rfl⟩
  · cases hdevice

/-- A message that fails has only cleared the segments, unless it failed to copy to a device. Then
the buffer is there as well. -/
theorem store_of_error {failure : CacheFailure}
    (herror : (state.handle message).result = .error failure) :
    (failure.onCopy = false ∧ (state.handle message).state.store = state.cleared message) ∨
    (failure.onCopy = true ∧ ∃ offer device, message = .putGpu offer ∧
      state.config.deviceAt offer.bus = some device ∧
      (state.handle message).state.store =
        (state.cleared message).withBuffer device.id (.zeros offer.size.toNat)) := by
  cases hbrings : state.insertion? message with
  | none =>
    refine Or.inl ⟨?_, store_of_no_insertion hbrings⟩
    rcases handle_error_of_aside hbrings herror with ⟨hbreach, -⟩ | ⟨_, rfl, -⟩ | ⟨_, _, _, rfl, -⟩
    · cases hbreach <;> rfl
    · rfl
    · rfl
  | some insertion =>
    rcases state.locked_or_open insertion.name with ⟨hthere, hlocked⟩ | hopen
    · have hrefused := handle_of_locked hbrings hthere hlocked
      rw [hrefused] at herror ⊢
      cases herror
      refine Or.inl ⟨rfl, ?_⟩
      rw [cleared, released, leaving_of_locked hbrings hthere hlocked]
      rfl
    · rcases handle_places hbrings hopen with
        ⟨used, hstore, hfails⟩ | ⟨cause, hplacing, hfails⟩ | ⟨-, hcrashes⟩ | ⟨handle, -, hok, -⟩
      · cases herror.symm.trans hfails
        exact Or.inl ⟨rfl, hstore⟩
      · cases herror.symm.trans hfails
        generalize (state.handle message).state.store = after at hplacing ⊢
        cases hplacing with
        | full => exact Or.inl ⟨rfl, rfl⟩
        | uncopied hdevice _ _ hfault =>
          obtain ⟨offer, found, rfl, hfound, rfl, rfl⟩ := putGpu_of_insertion? hbrings hdevice
          exact Or.inr ⟨hfault.onCopy, offer, found, rfl, hfound, rfl⟩
      · cases herror.symm.trans hcrashes
      · cases herror.symm.trans hok

/-- A message that fails leaves no segment behind that was not there before with the same bytes,
unless it fails to copy to a device. Then the buffer is left behind, and nothing else is new. -/
theorem failed_message_leaks_only_buffer {failure : CacheFailure}
    (herror : (state.handle message).result = .error failure) :
    let after := (state.handle message).state.store
    (failure.onCopy = false → ∀ handle segment, after.get? handle = some segment →
      state.store.get? handle = some segment) ∧
    (failure.onCopy = true → ∃ buffer, state.buffer? message = some buffer ∧
      after.contains buffer = true ∧
      ∀ handle segment, handle ≠ buffer → after.get? handle = some segment →
        state.store.get? handle = some segment) := by
  intro after
  rcases store_of_error herror with
    ⟨hcause, hstore⟩ | ⟨hcause, offer, device, rfl, hdevice, hstore⟩
  · refine ⟨fun _ handle segment hafter => ?_, fun hcopy => by cases hcause.symm.trans hcopy⟩
    rw [show after = _ from hstore] at hafter
    exact (get?_cleared_eq_some_iff.mp hafter).1
  · refine ⟨(fun hother => by cases hcause.symm.trans hother), fun _ => ?_⟩
    have hget := state.get?_cleared_withBuffer (.putGpu offer) device.id (.zeros offer.size.toNat)
    rw [← hstore] at hget
    refine ⟨state.store.nextBuffer device.id, by simp [buffer?, hdevice],
      Store.contains_iff.mpr ⟨_, (hget _).trans (if_pos rfl)⟩, ?_⟩
    intro handle segment hother hafter
    rw [show after.get? handle = _ from hget handle, if_neg (Ne.symm hother)] at hafter
    exact (get?_cleared_eq_some_iff.mp hafter).1

/-- A copy that evicts another one and is then too large for the store leaves nothing behind. -/
theorem failed_message_leaks_only_buffer_full :
    let config : Config := { devices := [{ id := 0, bus := "b", capacity := 10 }] }
    let store := (Store.empty (some 16)).register "s" { locality := .cpu, contents := .zeros 8 }
    let state := ((State.initial config store FileTree.empty "").handle
      (.putGpu { fileName := "a", handle := "s", bus := "b", size := 8 })).state
    let message : Message := .putGpu { fileName := "c", handle := "s", bus := "b", size := 9 }
    Reachable state ∧ state.store.contains "dev0_00000000" = true ∧
      (state.handle message).result = .error (.segment (.outOfMemory 9)) ∧
      (state.handle message).state.store.contains "dev0_00000000" = false ∧
      ∀ handle segment, (state.handle message).state.store.get? handle = some segment →
        state.store.get? handle = some segment := by
  intro config store state message
  have hfails : (state.handle message).result = .error (.segment (.outOfMemory 9)) := by
    decide +kernel
  exact ⟨(Reachable.initial _ _ _ _).message _, by decide +kernel, hfails, by decide +kernel,
    (failed_message_leaks_only_buffer hfails).1 rfl⟩

/-- A copy that fails because its source has another length than was said leaves its buffer
behind. -/
theorem failed_copy_leaves_buffer :
    let config : Config := { devices := [{ id := 0, bus := "b", capacity := 100 }] }
    let store := (Store.empty none).register "s"
      { locality := .cpu, contents := .written [1, 2, 3, 4] }
    let state := State.initial config store FileTree.empty ""
    let message : Message := .putGpu { fileName := "a", handle := "s", bus := "b", size := 8 }
    config.validate = .ok () ∧ Reachable state ∧
      (state.handle message).result = .error (.segment (.sizeMismatch "s" 8 4)) ∧
      state.store.contains "dev0_00000000" = false ∧
      (state.handle message).state.store.contains "dev0_00000000" = true := by
  intro config store state message
  exact ⟨by decide +kernel, .initial _ _ _ _, by decide +kernel, by decide +kernel,
    by decide +kernel⟩

end State

end SegmentCache
