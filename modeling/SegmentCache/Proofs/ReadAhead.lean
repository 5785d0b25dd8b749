import SegmentCache.Proofs.Departures
import SegmentCache.Proofs.Overflow
import SegmentCache.Proofs.Scripts

/-!
# Making segments ahead of time

Whoever plays a script makes the segment that a line names, unless it is there, before the messages
of earlier lines have been handled. `Store.ensureAll` is a store when this was done for messages,
however long the segments are; `Store.Affords` says that none of them was too long to be made.
The loop may thus find another store than the one on which a message is handled before later
segments are made. It does the same with both (`State.handle_parallel`), as long as the segment that
the message copies to a device is the same.
-/

namespace SegmentCache

/-- The segment that a message makes under a handle, if it names it. -/
def Message.makes? (message : Message) (handle : String) : Option Segment :=
  match message.source? with
  | none => none
  | some (named, size) =>
    if named = handle then some { locality := .cpu, contents := .zeros size.toNat } else none

/-- A message makes a segment under the handle that it names. -/
theorem Message.isSome_makes? {message : Message} {handle : String} :
    (message.makes? handle).isSome = true ↔ message.handle? = some handle := by
  unfold makes? handle?
  cases message.source? with
  | none => simp
  | some source => by_cases hsame : source.1 = handle <;> simp [hsame]

/-- The segment that messages make under a handle: the first that names it does. -/
def Message.madeBy? (messages : List Message) (handle : String) : Option Segment :=
  messages.findSome? (·.makes? handle)

/-- The segment under a handle that messages name is what one of these makes. -/
theorem Message.exists_madeBy? {messages : List Message} {handle : String}
    (hnamed : handle ∈ handles messages) :
    ∃ message ∈ messages, message.handle? = some handle ∧
      madeBy? messages handle = message.makes? handle := by
  obtain ⟨namer, hnamer, hhandle⟩ := List.mem_filterMap.mp hnamed
  have hsome : (madeBy? messages handle).isSome = true :=
    List.findSome?_isSome_iff.mpr ⟨namer, hnamer, isSome_makes?.mpr hhandle⟩
  obtain ⟨segment, hmade⟩ := Option.isSome_iff_exists.mp hsome
  obtain ⟨message, hmessage, hmakes⟩ := List.exists_of_findSome?_eq_some hmade
  exact ⟨message, hmessage, isSome_makes?.mp (by rw [hmakes]; rfl), hmade.trans hmakes.symm⟩

/-- The handles under which messages name segments that are too long to be made. -/
def Message.overlongHandles (messages : List Message) : List String :=
  handles (messages.filter isOverlong)

/-- Such a handle is that of a message. -/
theorem Message.mem_overlongHandles {messages : List Message} {handle : String} :
    handle ∈ overlongHandles messages ↔
      ∃ message ∈ messages, message.isOverlong = true ∧ message.handle? = some handle := by
  simp [overlongHandles, handles, and_assoc]

/-- What a message makes is too long if the message names it so. -/
theorem Message.isOverlong_of_makes? {message : Message} {handle : String} {segment : Segment}
    (hmakes : message.makes? handle = some segment) :
    message.isOverlong = decide (Contents.maxLength < segment.contents.length) := by
  unfold makes? at hmakes
  unfold isOverlong
  cases hsource : message.source? with
  | none => simp [hsource] at hmakes
  | some source =>
    rw [hsource] at hmakes
    dsimp only at hmakes
    split at hmakes
    · cases hmakes
      rfl
    · cases hmakes

/-- Messages make nothing under a handle that they do not name. -/
theorem Message.madeBy?_eq_none {messages : List Message} {handle : String}
    (hunnamed : handle ∉ handles messages) : madeBy? messages handle = none := by
  rw [madeBy?, List.findSome?_eq_none_iff]
  intro message hmessage
  refine Option.not_isSome_iff_eq_none.mp fun hmakes => hunnamed ?_
  exact List.mem_filterMap.mpr ⟨message, hmessage, isSome_makes?.mp hmakes⟩

namespace Store

/-- The store with the segment that a message names, filled with zeros if it was not there, however
many of them that takes. -/
def ensure (store : Store) (message : Message) : Store :=
  match message.source? with
  | none => store
  | some (handle, size) =>
    if store.contains handle then store
    else store.register handle { locality := .cpu, contents := .zeros size.toNat }

/-- The store with the segments that messages name. -/
def ensureAll (store : Store) (messages : List Message) : Store :=
  messages.foldl ensure store

/-- Making a segment keeps the counter and the limit. -/
theorem ensure_frame (store : Store) (message : Message) :
    (store.ensure message).next = store.next ∧ (store.ensure message).limit = store.limit := by
  unfold ensure
  split
  · exact ⟨rfl, rfl⟩
  · split <;> exact ⟨rfl, rfl⟩

/-- Making the segment of a message shows under its handle, if there was none. -/
theorem get?_ensure (store : Store) (message : Message) (handle : String) :
    (store.ensure message).get? handle = (store.get? handle).or (message.makes? handle) := by
  unfold ensure Message.makes?
  cases message.source? with
  | none => simp
  | some source =>
    obtain ⟨named, size⟩ := source
    cases hlive : store.contains named with
    | true =>
      obtain ⟨segment, hsegment⟩ := contains_iff.mp hlive
      by_cases hsame : named = handle
      · simp [hlive, ← hsame, hsegment]
      · simp [hlive, hsame]
    | false =>
      have hnone := contains_eq_false_iff.mp hlive
      by_cases hsame : named = handle
      · simp [hlive, get?_register, ← hsame, hnone]
      · simp [hlive, get?_register, hsame]

/-- Under a handle that was not there, the first message that names it has made the segment. -/
theorem get?_ensureAll (store : Store) (messages : List Message) (handle : String) :
    (store.ensureAll messages).get? handle =
      (store.get? handle).or (Message.madeBy? messages handle) := by
  induction messages generalizing store with
  | nil => simp [ensureAll, Message.madeBy?]
  | cons message messages ih =>
    refine (ih (store.ensure message)).trans ?_
    rw [get?_ensure, Option.or_assoc, Message.madeBy?, Message.madeBy?, List.findSome?_cons]
    cases message.makes? handle <;> simp

/-- Under a handle that earlier messages name, later ones make nothing. -/
theorem get?_ensureAll_append (store : Store) {earlier : List Message} {handle : String}
    (hnamed : handle ∈ Message.handles earlier) (later : List Message) :
    (store.ensureAll (earlier ++ later)).get? handle = (store.ensureAll earlier).get? handle := by
  obtain ⟨message, -, hhandle, hmade⟩ := Message.exists_madeBy? hnamed
  have hsome := hmade ▸ Message.isSome_makes?.mpr hhandle
  rw [get?_ensureAll, get?_ensureAll, Message.madeBy?, List.findSome?_append, ← Message.madeBy?,
    Option.or_of_isSome hsome]

/-- Under the handle that a message names there is a segment when it was made. -/
theorem contains_ensure (store : Store) (message : Message) (handle : String) :
    (store.ensure message).contains handle =
      (store.contains handle || (message.makes? handle).isSome) := by
  rw [contains_eq_isSome, contains_eq_isSome, get?_ensure, Option.isSome_or]

/-- The segments that are there when those of messages were made. -/
theorem contains_ensureAll (store : Store) (messages : List Message) (handle : String) :
    (store.ensureAll messages).contains handle =
      (store.contains handle || (Message.madeBy? messages handle).isSome) := by
  rw [contains_eq_isSome, contains_eq_isSome, get?_ensureAll, Option.isSome_or]

/-- A segment cannot be made if it is too long and not there. -/
theorem ensure?_eq_none_iff {store : Store} {message : Message} :
    store.ensure? message = none ↔
      message.isOverlong = true ∧
        ∃ handle, message.handle? = some handle ∧ store.contains handle = false := by
  unfold ensure? Message.isOverlong Message.handle?
  cases message.source? with
  | none => simp
  | some source =>
    obtain ⟨handle, size⟩ := source
    cases hlive : store.contains handle with
    | true => simp [hlive]
    | false =>
      by_cases hshort : size.toNat ≤ Contents.maxLength
      · simp [hlive, Contents.blank?, hshort]
      · simp [hlive, Contents.blank?, hshort, Nat.lt_of_not_ge hshort]

/-- A segment that can be made is filled with zeros if it was not there. -/
theorem ensure?_eq_ensure {store : Store} {message : Message}
    (hmade : store.ensure? message ≠ none) :
    store.ensure? message = some (store.ensure message) := by
  unfold ensure? at hmade ⊢
  unfold ensure
  cases hsource : message.source? with
  | none => rfl
  | some source =>
    obtain ⟨handle, size⟩ := source
    cases hlive : store.contains handle with
    | true => simp [hlive]
    | false =>
      by_cases hshort : size.toNat ≤ Contents.maxLength
      · simp [hlive, Contents.blank?, hshort]
      · simp [hsource, hlive, Contents.blank?, hshort] at hmade

/-- No segment that messages name is too long to be made: where the first that names it gives it too
many bytes, it is there. -/
def Affords (store : Store) (messages : List Message) : Prop :=
  ∀ handle segment, Message.madeBy? messages handle = some segment →
    Contents.maxLength < segment.contents.length → store.contains handle = true

/-- The first segment can be made. -/
theorem Affords.head {store : Store} {message : Message} {messages : List Message}
    (haffords : store.Affords (message :: messages)) :
    store.ensure? message = some (store.ensure message) := by
  refine ensure?_eq_ensure fun hnone => ?_
  obtain ⟨hlong, handle, hnamed, habsent⟩ := ensure?_eq_none_iff.mp hnone
  obtain ⟨segment, hmakes⟩ := Option.isSome_iff_exists.mp (Message.isSome_makes?.mpr hnamed)
  have hlength := (Message.isOverlong_of_makes? hmakes).symm.trans hlong
  have hmade : Message.madeBy? (message :: messages) handle = some segment := by
    rw [Message.madeBy?, List.findSome?_cons, hmakes]
  cases (haffords _ _ hmade (of_decide_eq_true hlength)).symm.trans habsent

/-- When it was made, the others can be. -/
theorem Affords.tail {store : Store} {message : Message} {messages : List Message}
    (haffords : store.Affords (message :: messages)) :
    (store.ensure message).Affords messages := by
  intro handle segment hmade hlength
  rw [contains_ensure]
  cases hmakes : message.makes? handle with
  | some first => simp
  | none =>
    have hlater : Message.madeBy? (message :: messages) handle = some segment := by
      rw [Message.madeBy?, List.findSome?_cons, hmakes]
      exact hmade
    simp [haffords _ _ hlater hlength]

/-- One more segment can be made, if it is not too long or is there. -/
theorem Affords.concat {store : Store} {messages : List Message} (haffords : store.Affords messages)
    {message : Message}
    (hthere : ∀ {handle}, message.isOverlong = true → message.handle? = some handle →
      (store.ensureAll messages).contains handle = true) :
    store.Affords (messages ++ [message]) := by
  intro handle segment hmade hlength
  rw [Message.madeBy?, List.findSome?_append, ← Message.madeBy?, ← Message.madeBy?] at hmade
  cases hearlier : Message.madeBy? messages handle with
  | some first =>
    rw [hearlier, Option.some_or] at hmade
    exact haffords _ _ (hearlier.trans hmade) hlength
  | none =>
    have hmakes : message.makes? handle = some segment := by
      rwa [hearlier, Option.none_or, Message.madeBy?, List.findSome?_singleton] at hmade
    have hnamed := Message.isSome_makes?.mp (Option.isSome_of_mem hmakes)
    have hlive := hthere ((Message.isOverlong_of_makes? hmakes).trans (decide_eq_true hlength)) hnamed
    simpa [contains_ensureAll, hearlier] using hlive

/-- Two stores without a limit would hand out the same handles. -/
structure Abreast (store other : Store) : Prop where
  /-- Neither has a limit. -/
  unlimited : store.limit = none ∧ other.limit = none
  /-- They are at the same number. -/
  next : store.next = other.next

/-- Either store is abreast of the other. -/
theorem Abreast.symm {store other : Store} (habreast : store.Abreast other) :
    other.Abreast store :=
  ⟨habreast.unlimited.symm, habreast.next.symm⟩

/-- Making a segment keeps a store abreast. -/
theorem Abreast.ensure {store other : Store} (habreast : store.Abreast other) (message : Message) :
    (store.ensure message).Abreast other := by
  obtain ⟨hnext, hlimit⟩ := store.ensure_frame message
  exact ⟨habreast.unlimited.imp_left hlimit.trans, hnext.trans habreast.next⟩

/-- A store becomes another by changes under some handles, where there is a given segment or none
afterwards. -/
def Edited (edit : String → Option (Option Segment)) (store after : Store) : Prop :=
  ∀ handle, after.get? handle = (edit handle).getD (store.get? handle)

variable {store other after after' : Store} {edit later : String → Option (Option Segment)}

/-- Later changes come after earlier ones. -/
theorem Edited.trans (hedited : Edited edit store other) (hlater : Edited later other after) :
    Edited (fun handle => (later handle).or (edit handle)) store after := by
  intro handle
  rw [hlater handle, hedited handle]
  cases hchange : later handle <;> simp [hchange]

/-- Discarding segments leaves none under their handles. -/
theorem edited_discardAll (store : Store) (gone : List String) :
    Edited (fun handle => if handle ∈ gone then some none else none) store
      (store.discardAll gone) := by
  intro handle
  rw [get?_discardAll]
  by_cases hgone : handle ∈ gone <;> simp [hgone]

/-- The store when a handle was taken for a device, with a buffer under it if one was made. -/
def gain (store : Store) (device : UInt32) : Option Contents → Store
  | none => (store.takeHandle (.gpu device)).2
  | some contents => store.withBuffer device contents

/-- Taking a handle moves the counter and keeps the limit. -/
theorem gain_frame (store : Store) (device : UInt32) (made : Option Contents) :
    (store.gain device made).next = store.next + 1 ∧
      (store.gain device made).limit = store.limit := by
  cases made <;> exact ⟨rfl, rfl⟩

/-- A buffer that was made is under the handle that was taken. -/
theorem edited_gain (store : Store) (device : UInt32) (made : Option Contents) :
    Edited
      (fun handle =>
        if store.nextBuffer device = handle then
          made.map fun contents => some { locality := .gpu device, contents }
        else none)
      store (store.gain device made) := by
  intro handle
  cases made with
  | none => simp [gain, get?_takeHandle]
  | some contents =>
    rw [gain, get?_withBuffer]
    by_cases hsame : store.nextBuffer device = handle <;> simp [hsame]

/-- When the same is done to two stores, they stay alike under a handle, as completed by messages,
unless the segment there is discarded and the messages would make another one. -/
theorem Edited.get?_ensureAll (hedited : Edited edit store after)
    (hedited' : Edited edit other after') {unread ahead : List Message} {handle : String}
    (hsame : (store.ensureAll unread).get? handle = (other.ensureAll ahead).get? handle)
    (hgone : edit handle = some none →
      Message.madeBy? unread handle = Message.madeBy? ahead handle) :
    (after.ensureAll unread).get? handle = (after'.ensureAll ahead).get? handle := by
  rw [Store.get?_ensureAll, Store.get?_ensureAll] at hsame ⊢
  rw [hedited handle, hedited' handle]
  cases hedit : edit handle with
  | none => exact hsame
  | some segment =>
    cases segment with
    | none => exact hgone hedit
    | some segment => rfl

/-- When segments are discarded that are not named as too long, those of messages can still be
made. -/
theorem Affords.edited {messages : List Message} (haffords : store.Affords messages)
    (hedited : Edited edit store after)
    (hkeeps : ∀ {handle}, handle ∈ Message.overlongHandles messages → edit handle ≠ some none) :
    after.Affords messages := by
  intro handle segment hmade hlength
  obtain ⟨message, hmessage, hmakes⟩ := List.exists_of_findSome?_eq_some hmade
  have hkept := hkeeps (Message.mem_overlongHandles.mpr ⟨message, hmessage,
    (Message.isOverlong_of_makes? hmakes).trans (decide_eq_true hlength),
    Message.isSome_makes?.mp (Option.isSome_of_mem hmakes)⟩)
  have hlive := haffords _ _ hmade hlength
  rw [contains_eq_isSome] at hlive ⊢
  rw [hedited handle]
  cases hedit : edit handle with
  | none => exact hlive
  | some change =>
    cases change with
    | none => exact absurd hedit hkept
    | some segment => rfl

end Store

namespace State

variable {state : State} {message : Message} {insertion : Insertion} {store other : Store}

/-- The segment that a message copies to a device. -/
def copies? (state : State) (message : Message) : Option String :=
  (state.insertion? message).bind fun insertion =>
    match insertion.locality with
    | .cpu => none
    | .gpu _ => some insertion.handle

/-- What copying an object to a device comes to is a matter of the counter and of the segment that
the object comes in. -/
theorem place_gpu {device : UInt32} (hgpu : insertion.locality = .gpu device) (number : UInt64)
    (found : Option Segment) :
    ∃ placed made, ∀ store : Store, store.limit = none → store.next = number →
      store.get? insertion.handle = found →
      place store insertion = (placed, store.gain device made) := by
  let buffer := Store.handleFor (.gpu device) number
  have hroom {store : Store} (hlimit : store.limit = none) :
      store.admits insertion.size = true := by
    simp [Store.admits, hlimit]
  by_cases hshort : insertion.size.toNat ≤ Contents.maxLength
  · -- The object may come in the very segment that becomes the buffer.
    by_cases hsame : buffer = insertion.handle
    · refine ⟨.ok buffer, some (.zeros insertion.size.toNat), ?_⟩
      rintro store hlimit rfl -
      have hcopy := store.copy_withBuffer_self device (.zeros insertion.size.toNat)
      nth_rewrite 2 [show store.nextBuffer device = insertion.handle from hsame] at hcopy
      exact place_of_admits hgpu (hroom hlimit) hshort hcopy
    · cases hfound : found with
      | none =>
        refine ⟨.error (.unknown insertion.handle), some (.zeros insertion.size.toNat), ?_⟩
        rintro store hlimit rfl hsource
        exact place_of_admits hgpu (hroom hlimit) hshort
          (Store.CopyFault.copy (.gone hsource) hsame)
      | some source =>
        by_cases hlength : insertion.size.toNat = source.contents.length
        · refine ⟨.ok buffer, some source.contents, ?_⟩
          rintro store hlimit rfl hsource
          exact place_of_admits hgpu (hroom hlimit) hshort
            (Store.copy_withBuffer hsource hlength hsame)
        · refine ⟨.error (.sizeMismatch insertion.handle insertion.size.toNat
            source.contents.length), some (.zeros insertion.size.toNat), ?_⟩
          rintro store hlimit rfl hsource
          exact place_of_admits hgpu (hroom hlimit) hshort
            (Store.CopyFault.copy (.unequal hsource hlength) hsame)
  · refine ⟨.crashed, none, ?_⟩
    rintro store hlimit rfl -
    simp only [place, hgpu,
      Store.allocate_of_overlong (hroom hlimit) (Nat.lt_of_not_ge hshort)]
    rfl

/-- Finding a segment for an object does the same with stores that are abreast, when the segment
that a device copies is the same. It leaves at most a buffer. -/
theorem place_abreast (habreast : store.Abreast other)
    (hsource : insertion.locality ≠ .cpu →
      store.get? insertion.handle = other.get? insertion.handle) :
    (place store insertion).1 = (place other insertion).1 ∧
      (place store insertion).2.Abreast (place other insertion).2 ∧
      ∃ edit, (∀ handle, edit handle ≠ some none) ∧
        (∀ {handle segment}, edit handle = some (some segment) →
          ∃ device, insertion.locality = .gpu device ∧ other.nextBuffer device = handle) ∧
        Store.Edited edit store (place store insertion).2 ∧
        Store.Edited edit other (place other insertion).2 := by
  cases hlocality : insertion.locality with
  | cpu =>
    simp only [place, hlocality]
    exact ⟨trivial, habreast, fun _ => none, by simp, by simp, fun _ => rfl, fun _ => rfl⟩
  | gpu device =>
    obtain ⟨placed, made, hplace⟩ :=
      place_gpu hlocality store.next (store.get? insertion.handle)
    have hsame := hsource (by rw [hlocality]; simp)
    have hbuffer : store.nextBuffer device = other.nextBuffer device := by
      rw [Store.nextBuffer, habreast.next, ← Store.nextBuffer]
    obtain ⟨hnext, hlimit⟩ := store.gain_frame device made
    obtain ⟨hnext', hlimit'⟩ := other.gain_frame device made
    have hedited := store.edited_gain device made
    rw [hbuffer] at hedited
    rw [hplace store habreast.unlimited.1 rfl rfl,
      hplace other habreast.unlimited.2 habreast.next.symm hsame.symm]
    refine ⟨rfl, ⟨⟨hlimit.trans habreast.unlimited.1, hlimit'.trans habreast.unlimited.2⟩,
      by rw [hnext, hnext', habreast.next]⟩, _, ?_, ?_, hedited, other.edited_gain device made⟩
    · intro handle
      split <;> simp
    · intro handle segment hmade
      split at hmade
      · exact ⟨device, rfl, ‹_›⟩
      · cases hmade

/-- Two outcomes are the same but for the store, where both come of the same changes to two stores.
These leave no segment under handles that are gone, and a segment under one that is made up. -/
structure Parallel (store other : Store) (gone : List String) (made : String → Prop)
    (outcome outcome' : Outcome) : Prop where
  /-- The result is the same. -/
  result : outcome.result = outcome'.result
  /-- The stores are changed in the same way. -/
  state : ∃ after edit, outcome.state = outcome'.state.withStore after ∧
    after.Abreast outcome'.state.store ∧
    (∀ {handle}, edit handle = some none → handle ∈ gone) ∧
    (∀ {handle segment}, edit handle = some (some segment) → made handle) ∧
    Store.Edited edit store after ∧ Store.Edited edit other outcome'.state.store

/-- Settling an object does the same with stores that are abreast. -/
theorem settle_parallel (room : State) (habreast : store.Abreast other)
    (hsource : insertion.locality ≠ .cpu →
      store.get? insertion.handle = other.get? insertion.handle) :
    Parallel store other []
      (fun handle => ∃ device, insertion.locality = .gpu device ∧ other.nextBuffer device = handle)
      ((room.withStore store).settle insertion []) ((room.withStore other).settle insertion []) := by
  obtain ⟨hplaced, hafter, edit, hkeeps, hmade, hedited, hedited'⟩ := place_abreast habreast hsource
  have hkeeps' {handle : String} (hgone : edit handle = some none) : handle ∈ [] :=
    absurd hgone (hkeeps handle)
  simp only [settle, withStore]
  split
  · exact ⟨rfl, store, fun _ => none, rfl, habreast, by simp, by simp, fun _ => rfl, fun _ => rfl⟩
  · generalize place store insertion = placement at hplaced hafter hedited ⊢
    generalize place other insertion = placement' at hplaced hafter hedited' ⊢
    obtain ⟨placed, after⟩ := placement
    obtain ⟨placed', after'⟩ := placement'
    obtain rfl : placed = placed' := hplaced
    cases placed <;> exact ⟨rfl, after, edit, rfl, hafter, hkeeps', hmade, hedited, hedited'⟩

/-- Outcomes are parallel when segments were discarded before. -/
theorem Parallel.of_discardAll {gone : List String} {made : String → Prop}
    {outcome outcome' : Outcome}
    (hparallel : Parallel (store.discardAll gone) (other.discardAll gone) [] made outcome outcome') :
    Parallel store other gone made outcome outcome' := by
  obtain ⟨hresult, after, edit, hstate, habreast, hkeeps, hmade, hedited, hedited'⟩ := hparallel
  refine ⟨hresult, after, _, hstate, habreast, ?_, ?_, (store.edited_discardAll gone).trans hedited,
    (other.edited_discardAll gone).trans hedited'⟩
  · intro handle hgone
    cases hedit : edit handle with
    | none =>
      simp only [hedit, Option.none_or] at hgone
      split at hgone
      · assumption
      · cases hgone
    | some segment =>
      simp only [hedit, Option.some_or] at hgone
      cases hkeeps (hedit.trans hgone)
  · intro handle segment hplaced
    cases hedit : edit handle with
    | none =>
      simp only [hedit, Option.none_or] at hplaced
      split at hplaced <;> cases hplaced
    | some segment =>
      simp only [hedit, Option.some_or] at hplaced
      exact hmade (hedit.trans hplaced)

/-- A message that brings an object to a device is to copy it to a buffer there. -/
theorem buffer?_of_insertion? (hbrings : state.insertion? message = some insertion)
    {device : UInt32} (hgpu : insertion.locality = .gpu device) :
    state.buffer? message = some (state.store.nextBuffer device) := by
  obtain ⟨offer, rfl, -, rfl⟩ | ⟨offer, found, rfl, hdevice, -, rfl⟩ | ⟨offer, rfl, rfl⟩ :=
    insertion?_cases hbrings
  · cases hgpu
  · cases hgpu
    rw [buffer?, hdevice]
    rfl
  · cases hgpu

/-- Handling a message does the same with two stores that are abreast, when the segment that it
copies to a device is the same. -/
theorem handle_parallel (habreast : store.Abreast other)
    (hsource : ∀ {handle}, state.copies? message = some handle →
      store.get? handle = other.get? handle) :
    Parallel store other (state.released message)
      (fun handle => (state.withStore other).buffer? message = some handle)
      ((state.withStore store).handle message) ((state.withStore other).handle message) := by
  obtain ⟨hnext, hlimit⟩ := store.discardAll_frame (state.released message)
  obtain ⟨hnext', hlimit'⟩ := other.discardAll_frame (state.released message)
  have hcleared : (store.discardAll (state.released message)).Abreast
      (other.discardAll (state.released message)) :=
    ⟨⟨hlimit.trans habreast.unlimited.1, hlimit'.trans habreast.unlimited.2⟩,
      hnext.trans (habreast.next.trans hnext'.symm)⟩
  apply Parallel.of_discardAll
  have hbeside
      (hsame : ∀ store, ((state.withStore store).handle message).state =
          (state.handle message).state.withStore (store.discardAll (state.released message)) ∧
        ((state.withStore store).handle message).result = (state.handle message).result) :
      Parallel (store.discardAll (state.released message))
        (other.discardAll (state.released message)) []
        (fun handle => (state.withStore other).buffer? message = some handle)
        ((state.withStore store).handle message) ((state.withStore other).handle message) := by
    refine ⟨(hsame store).2.trans (hsame other).2.symm, store.discardAll (state.released message),
      fun _ => none, ?_⟩
    rw [(hsame store).1, (hsame other).1]
    exact ⟨rfl, hcleared, by simp, by simp, fun _ => rfl, fun _ => rfl⟩
  cases hbrings : state.insertion? message with
  | none => exact hbeside fun store => handle_withStore hbrings store
  | some insertion =>
    rcases state.locked_or_open insertion.name with ⟨hthere, hlocked⟩ | hopen
    · exact hbeside fun store => handle_withStore_of_locked hbrings hthere hlocked store
    · obtain ⟨capacity, hcapacity⟩ := capacityFor_of_insertion? hbrings
      obtain ⟨room, -, -, hsettles⟩ := handle_settles hbrings hopen hcapacity
      obtain ⟨hresult, after, edit, hstate, hafter, hgone, hmade, hedited⟩ :=
        @settle_parallel insertion _ _ room hcleared fun hgpu => by
          have hcopies : state.copies? message = some insertion.handle := by
            rw [copies?, hbrings]
            cases hlocality : insertion.locality with
            | cpu => exact absurd hlocality hgpu
            | gpu device => simp [hlocality]
          rw [Store.get?_discardAll, Store.get?_discardAll, hsource hcopies]
      refine ⟨((hsettles store).2.trans hresult).trans (hsettles other).2.symm, after, edit, ?_⟩
      rw [(hsettles store).1, (hsettles other).1]
      refine ⟨hstate, hafter, hgone, ?_, hedited⟩
      intro handle segment hplaced
      obtain ⟨device, hgpu, rfl⟩ := hmade hplaced
      rw [Store.nextBuffer, hnext', ← Store.nextBuffer]
      exact buffer?_of_insertion? ((state.insertion?_withStore message other).trans hbrings) hgpu

/-- What handling a message does to a store without a limit: it discards what is released, and leaves
at most a buffer. -/
theorem exists_edit (state : State) (message : Message) (hunlimited : store.limit = none) :
    ∃ edit, (∀ {handle}, edit handle = some none → handle ∈ state.released message) ∧
      (∀ {handle segment}, edit handle = some (some segment) →
        (state.withStore store).buffer? message = some handle) ∧
      Store.Edited edit store ((state.withStore store).handle message).state.store ∧
      ((state.withStore store).handle message).state.store.limit = none := by
  obtain ⟨-, after, edit, -, hafter, hgone, hmade, -, hedited⟩ :=
    @handle_parallel state message store store ⟨⟨hunlimited, hunlimited⟩, rfl⟩ fun _ => rfl
  exact ⟨edit, hgone, hmade, hedited, hafter.unlimited.2⟩

/-- What a message copies to a device is what it names. -/
theorem handle?_of_copies? {handle : String} (hcopies : state.copies? message = some handle) :
    message.handle? = some handle := by
  obtain ⟨insertion, hbrings, hgpu⟩ := Option.bind_eq_some_iff.mp hcopies
  split at hgpu
  · cases hgpu
  · cases hgpu
    exact handle?_of_insertion? hbrings

end State

end SegmentCache
