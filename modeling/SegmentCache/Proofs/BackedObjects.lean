import SegmentCache.Proofs.SegmentEffects

/-!
# Objects and the segments behind them

An object that a message has inserted is published under the handle of a segment. In host memory
that is the segment it was offered in, which goes if an entry that shares it departs for the
object. On a device it is a new buffer, and the copy is faithful as long as the handle that is made
up for the buffer is new.
-/

namespace SegmentCache.State

variable {state : State} {message : Message} {insertion : Insertion}

/-- Some entry in a segment departs when a message inserts its object: the entry is gone afterwards,
or the object has come in its place. -/
def Departs (state : State) (message : Message) (handle : String) : Prop :=
  ∃ name entry, state.table.get? name = some entry ∧ entry.handle = handle ∧
    ((state.handle message).state.table.get? name = none ∨ message.key? = some name)

/-- The segments that an insertion discards are those of the entries that depart. -/
theorem Coherent.mem_released_iff (hcoherent : state.Coherent)
    (hbrings : state.insertion? message = some insertion)
    (hok : (state.handle message).result = .ok .none) {handle : String} :
    handle ∈ state.released message ↔ state.Departs message handle := by
  have hopen := isLocked_of_handle_ok hbrings hok
  have hkey := key?_of_insertion? hbrings
  constructor
  · intro hreleased
    obtain ⟨entry, hleaves, hhandle⟩ := List.mem_map.mp hreleased
    obtain ⟨hfound, hleft⟩ := hcoherent.left_or_replaced hleaves
    exact ⟨entry.name, entry, hfound, hhandle, hleft.imp_right fun hreplaced => hreplaced.2.1⟩
  · rintro ⟨name, entry, hfound, rfl, hleft⟩
    obtain ⟨room, capacity, hcapacity, htable, hfree, -, hstate, -⟩ := handle_in_room hbrings hopen
    rw [released, leaving_of_insertion hbrings hopen hcapacity]
    refine List.mem_map_of_mem (List.mem_append.mpr ?_)
    by_cases hname : insertion.name = name
    · left
      rw [hname, hfound]
      exact List.mem_singleton_self entry
    · right
      -- Under another key an entry can only have been evicted.
      have hgone : (state.handle message).state.table.get? name = none :=
        hleft.resolve_right fun hsame => hname (Option.some.inj (hkey.symm.trans hsame))
      rw [hstate, get?_settle_of_ne hfree hname, htable,
        hcoherent.get?_room hopen capacity hname] at hgone
      split at hgone
      · rename_i hevicted
        obtain ⟨victim, hvictim, rfl⟩ := List.mem_map.mp hevicted
        obtain ⟨-, hthere, -⟩ := hcoherent.mem_evicted_for hopen hvictim
        cases hthere.symm.trans hfound
        exact hvictim
      · cases hfound.symm.trans hgone

/-- What a message that inserts its object has done: it has found a segment for the object among
those that are left, and published the entry. -/
theorem Reachable.handle_inserts (hreach : Reachable state) {name : String}
    (hinserts : state.inserts name message = true) :
    ∃ insertion handle, state.insertion? message = some insertion ∧
      Placing (state.cleared message) insertion (.ok handle) (state.handle message).state.store ∧
      (state.handle message).state.Shows name (some (insertion.entry handle)) ∧
      ∀ other, other ∈ state.released message ↔ state.Departs message other := by
  obtain ⟨insertion, response, hbrings, rfl, hsucceeds⟩ := inserts_iff.mp hinserts
  have hopen := isLocked_of_handle_ok hbrings hsucceeds
  rcases handle_places hbrings hopen with
    ⟨used, -, hfails⟩ | ⟨cause, -, hfails⟩ | ⟨-, hcrashes⟩ | ⟨handle, hplacing, hok, hentry⟩
  · cases hsucceeds.symm.trans hfails
  · cases hsucceeds.symm.trans hfails
  · cases hsucceeds.symm.trans hcrashes
  · exact ⟨insertion, handle, hbrings, hplacing, (hreach.message message).coherent.shows hentry,
      fun _ => hreach.coherent.mem_released_iff hbrings hok⟩

/-- A message that offers an object in host memory brings in that object. -/
theorem insertion_of_offer (hbrings : state.insertion? message = some insertion) {offer : Offer}
    (hoffer : message = .put offer ∨ message = .replace offer) :
    insertion = offer.insertion (entryKey offer.fileName) := by
  rcases hoffer with rfl | rfl
  · obtain ⟨_, hsame, -, rfl⟩ | ⟨_, _, hsame, -⟩ | ⟨_, hsame, -⟩ := insertion?_cases hbrings
    all_goals cases hsame
    rfl
  · obtain ⟨_, hsame, -⟩ | ⟨_, _, hsame, -⟩ | ⟨_, hsame, rfl⟩ := insertion?_cases hbrings
    all_goals cases hsame
    rfl

/-- An object in host memory that a message has inserted is published with the segment it was
offered in. That segment is as it was before, unless an entry in it has departed for the object.
Then it is gone. -/
theorem accepted_object_backed_unless_shared (hreach : Reachable state) {offer : Offer}
    (hoffer : message = .put offer ∨ message = .replace offer)
    (hinserts : state.inserts (entryKey offer.fileName) message = true) :
    let after := (state.handle message).state
    (∃ entry, after.Shows (entryKey offer.fileName) (some entry) ∧
      entry.handle = offer.handle) ∧
    (¬ state.Departs message offer.handle →
      after.store.get? offer.handle = state.store.get? offer.handle) ∧
    (state.Departs message offer.handle → after.store.contains offer.handle = false) := by
  intro after
  obtain ⟨insertion, handle, hbrings, hplacing, hshows, hreleased⟩ := hreach.handle_inserts hinserts
  obtain rfl := insertion_of_offer hbrings hoffer
  obtain ⟨rfl, hstore⟩ := hplacing.in_host rfl
  have hget := state.get?_cleared message offer.handle
  rw [← hstore] at hget
  refine ⟨⟨_, hshows, rfl⟩, ?_, ?_⟩
  · intro hkept
    rw [hget, if_neg fun hgone => hkept ((hreleased _).mp hgone)]
  · intro hdeparts
    rw [Store.contains_eq_false_iff, hget, if_pos ((hreleased _).mpr hdeparts)]

/-- An object comes in the place of another and evicts a third, whose segments go. Its own segment
stays. -/
theorem accepted_object_backed_unless_shared_evicting :
    let store := (((Store.empty none).register
      "h" { locality := .cpu, contents := .zeros 6 }).register
      "g" { locality := .cpu, contents := .zeros 4 }).register
      "k" { locality := .cpu, contents := .written [1, 2, 3, 4, 5, 6, 7, 8] }
    let state := (State.initial (Config.ofCapacity 10) store FileTree.empty "").handleAll
      [.put { fileName := "a", handle := "h", size := 6 },
        .put { fileName := "b", handle := "g", size := 4 }]
    let offer : Offer := { fileName := "a", handle := "k", size := 8 }
    let after := (state.handle (.replace offer)).state
    Reachable state ∧ state.inserts "a" (.replace offer) = true ∧
      state.Departs (.replace offer) "g" ∧ after.store.contains "h" = false ∧
      ¬ state.Departs (.replace offer) "k" ∧
      after.store.get? "k" =
        some { locality := .cpu, contents := .written [1, 2, 3, 4, 5, 6, 7, 8] } := by
  intro store state offer after
  have hreach : Reachable state := (Reachable.initial _ _ _ _).handleAll _
  have hkey : entryKey offer.fileName = "a" := by decide +kernel
  have hinserts : state.inserts "a" (.replace offer) = true := by decide +kernel
  obtain ⟨_, _, -, -, -, hreleased⟩ := hreach.handle_inserts hinserts
  have hdeparts : state.Departs (.replace offer) "g" := (hreleased "g").mp (by decide +kernel)
  have hkept : ¬ state.Departs (.replace offer) "k" := mt (hreleased "k").mpr (by decide +kernel)
  obtain ⟨-, hsame, -⟩ :=
    accepted_object_backed_unless_shared hreach (Or.inr rfl) (hkey ▸ hinserts)
  exact ⟨hreach, hinserts, hdeparts, by decide +kernel, hkept,
    (hsame hkept).trans (by decide +kernel)⟩

/-- An object that is put in its own place is published with a segment that is gone. -/
theorem replaced_object_loses_segment :
    let config := Config.ofCapacity 100
    let store := (Store.empty none).register "h"
      { locality := .cpu, contents := .written [1, 2, 3, 4] }
    let state := ((State.initial config store FileTree.empty "").handle
      (.put { fileName := "a", handle := "h", size := 4 })).state
    let message : Message := .replace { fileName := "a", handle := "h", size := 4 }
    config.validate = .ok () ∧ Reachable state ∧ state.inserts "a" message = true ∧
      state.store.contains "h" = true ∧
      ((state.handle message).state.replica["a"]?).map (·.handle) = some "h" ∧
      (state.handle message).state.store.contains "h" = false := by
  intro config store state message
  exact ⟨by decide +kernel, (Reachable.initial _ _ _ _).message _, by decide +kernel,
    by decide +kernel, by decide +kernel, by decide +kernel⟩

/-- What a message that copies its object to a device has done: the object is published in the next
buffer, nothing else is new, and the buffer has the bytes of the offered segment if that is not the
buffer itself. -/
theorem Reachable.handle_copies (hreach : Reachable state) {name : String} {offer : DeviceOffer}
    (hinserts : state.inserts name (.putGpu offer) = true) :
    let after := (state.handle (.putGpu offer)).state
    ∃ device entry contents, state.config.deviceAt offer.bus = some device ∧
      after.Shows name (some entry) ∧
      entry.locality = .gpu device.id ∧ entry.handle = state.store.nextBuffer device.id ∧
      after.store.get? entry.handle = some { locality := .gpu device.id, contents } ∧
      (∀ handle segment, handle ≠ entry.handle →
        (after.store.get? handle = some segment ↔
          state.store.get? handle = some segment ∧ ¬ state.Departs (.putGpu offer) handle)) ∧
      (entry.handle ≠ offer.handle →
        ∃ source, state.store.get? offer.handle = some source ∧
          ¬ state.Departs (.putGpu offer) offer.handle ∧ contents = source.contents) := by
  intro after
  obtain ⟨insertion, handle, hbrings, hplacing, hshows, hreleased⟩ := hreach.handle_inserts hinserts
  obtain ⟨_, hsame, -⟩ | ⟨_, device, hsame, hdevice, -, rfl⟩ | ⟨_, hsame, -⟩ :=
    insertion?_cases hbrings
  all_goals cases hsame
  obtain ⟨rfl, contents, hstore, hcontents⟩ := hplacing.on_device rfl
  have hget := state.get?_cleared_withBuffer (.putGpu offer) device.id contents
  rw [← hstore] at hget
  rw [nextBuffer_cleared] at hcontents hshows
  refine ⟨device, _, contents, hdevice, hshows, rfl, rfl, (hget _).trans (if_pos rfl), ?_, ?_⟩
  · intro handle segment hother
    have hold : state.store.nextBuffer device.id ≠ handle := Ne.symm hother
    rw [show after.store.get? handle = _ from hget handle, if_neg hold,
      get?_cleared_eq_some_iff, hreleased]
  · intro hother
    obtain ⟨source, hsource, hbytes⟩ := hcontents hother
    obtain ⟨hbefore, hleft⟩ := get?_cleared_eq_some_iff.mp hsource
    exact ⟨source, hbefore, mt (hreleased _).mpr hleft, hbytes⟩

/-- A copy to a device that has done what it is for. -/
structure CopiesFaithfully (state : State) (offer : DeviceOffer) (entry : Entry) : Prop where
  /-- The buffer is new. -/
  fresh : state.store.contains entry.handle = false
  /-- It is where the object is said to be and has the bytes of the source, which is as before. -/
  copied : ∃ source, state.store.get? offer.handle = some source ∧
    (state.handle (.putGpu offer)).state.store.get? offer.handle = some source ∧
    (state.handle (.putGpu offer)).state.store.get? entry.handle =
      some { locality := entry.locality, contents := source.contents }
  /-- All other segments are as before, except for those of the entries that depart. -/
  kept : ∀ handle segment, state.store.get? handle = some segment →
    ¬ state.Departs (.putGpu offer) handle →
    (state.handle (.putGpu offer)).state.store.get? handle = some segment

/-- An object that a message has copied to a device is published at the device, in the buffer that
the store makes up next. The copy is faithful exactly when the handle of that buffer is new: neither
live before nor the one that was to be copied. In any case it is the only handle under which a
segment changes, other than by the departure of entries. -/
theorem device_copy_faithful_iff (hreach : Reachable state) {offer : DeviceOffer}
    (hinserts : state.inserts (entryKey offer.fileName) (.putGpu offer) = true) :
    let after := (state.handle (.putGpu offer)).state
    ∃ device entry, state.config.deviceAt offer.bus = some device ∧
      after.Shows (entryKey offer.fileName) (some entry) ∧
      entry.locality = .gpu device.id ∧ entry.handle = state.store.nextBuffer device.id ∧
      (state.CopiesFaithfully offer entry ↔
        state.store.contains (state.store.nextBuffer device.id) = false ∧
          state.store.nextBuffer device.id ≠ offer.handle) ∧
      ∀ handle segment, handle ≠ entry.handle →
        (after.store.get? handle = some segment ↔
          state.store.get? handle = some segment ∧ ¬ state.Departs (.putGpu offer) handle) := by
  intro after
  obtain ⟨device, entry, contents, hdevice, hshows, hplace, hhandle, hbuffer, hframe, hcontents⟩ :=
    hreach.handle_copies hinserts
  refine ⟨device, entry, hdevice, hshows, hplace, hhandle, ?_, hframe⟩
  rw [← hhandle]
  constructor
  · rintro ⟨hfresh, ⟨source, hsource, -⟩, -⟩
    refine ⟨hfresh, fun hsame => ?_⟩
    rw [← hsame] at hsource
    cases hsource.symm.trans (Store.contains_eq_false_iff.mp hfresh)
  · rintro ⟨hfresh, hother⟩
    obtain ⟨source, hsource, hstays, rfl⟩ := hcontents hother
    have hkept (handle : String) (segment : Segment)
        (hlive : state.store.get? handle = some segment)
        (hremains : ¬ state.Departs (.putGpu offer) handle) :
        after.store.get? handle = some segment := by
      refine (hframe handle segment ?_).mpr ⟨hlive, hremains⟩
      -- The buffer was not live before.
      rintro rfl
      cases hlive.symm.trans (Store.contains_eq_false_iff.mp hfresh)
    exact
      { fresh := hfresh
        copied := ⟨source, hsource, hkept _ _ hsource hstays, by rw [hplace]; exact hbuffer⟩
        kept := hkept }

/-- A copy for which another one is evicted, to the buffer with the next number. -/
theorem device_copy_faithful_iff_evicting :
    let config : Config := { devices := [{ id := 0, bus := "b", capacity := 10 }] }
    let store := ((Store.empty none).register
      "s" { locality := .cpu, contents := .zeros 8 }).register
      "t" { locality := .cpu, contents := .written [1, 2, 3, 4, 5, 6] }
    let state := ((State.initial config store FileTree.empty "").handle
      (.putGpu { fileName := "a", handle := "s", bus := "b", size := 8 })).state
    let offer : DeviceOffer := { fileName := "c", handle := "t", bus := "b", size := 6 }
    Reachable state ∧ state.inserts "c" (.putGpu offer) = true ∧
      state.Departs (.putGpu offer) "dev0_00000000" ∧
      ∃ entry, entry.handle = "dev0_00000001" ∧ state.CopiesFaithfully offer entry := by
  intro config store state offer
  have hreach : Reachable state := (Reachable.initial _ _ _ _).message _
  have hkey : entryKey offer.fileName = "c" := by decide +kernel
  have hinserts : state.inserts "c" (.putGpu offer) = true := by decide +kernel
  obtain ⟨_, _, -, -, -, hreleased⟩ := hreach.handle_inserts hinserts
  have hdeparts : state.Departs (.putGpu offer) "dev0_00000000" :=
    (hreleased _).mp (by decide +kernel)
  have hnext : state.store.nextBuffer 0 = "dev0_00000001" := by decide +kernel
  have hnew : state.store.contains "dev0_00000001" = false := by decide +kernel
  have hzero : (state.config.deviceAt offer.bus).map (·.id) = some 0 := by decide +kernel
  obtain ⟨device, entry, hdevice, -, -, hhandle, hfaithful, -⟩ :=
    device_copy_faithful_iff hreach (hkey ▸ hinserts)
  have hid : device.id = 0 := by
    rw [hdevice] at hzero
    exact Option.some.inj hzero
  rw [hid, hnext] at hhandle hfaithful
  exact ⟨hreach, hinserts, hdeparts, entry, hhandle, hfaithful.mpr ⟨hnew, by decide⟩⟩

/-- A producer has registered a segment under the handle that is made up next. Copying it to a
device takes its place: the object is published with zeros, and the bytes are lost. -/
theorem device_copy_overwrites_source :
    let config : Config := { devices := [{ id := 0, bus := "b", capacity := 100 }] }
    let store := (Store.empty none).register "dev0_00000000"
      { locality := .cpu, contents := .written [1, 2, 3, 4] }
    let state := State.initial config store FileTree.empty ""
    let offer : DeviceOffer := { fileName := "a", handle := "dev0_00000000", bus := "b", size := 4 }
    config.validate = .ok () ∧ Reachable state ∧ state.inserts "a" (.putGpu offer) = true ∧
      ((state.handle (.putGpu offer)).state.table.get? "a").map (·.handle) =
        some "dev0_00000000" ∧
      state.store.get? "dev0_00000000" =
        some { locality := .cpu, contents := .written [1, 2, 3, 4] } ∧
      (state.handle (.putGpu offer)).state.store.get? "dev0_00000000" =
        some { locality := .gpu 0, contents := .zeros 4 } := by
  intro config store state offer
  exact ⟨by decide +kernel, .initial _ _ _ _, by decide +kernel, by decide +kernel,
    by decide +kernel, by decide +kernel⟩

end SegmentCache.State
