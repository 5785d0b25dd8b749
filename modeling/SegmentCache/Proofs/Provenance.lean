import SegmentCache.Proofs.Ownership

/-!
# Where handles come from

Entries and live segments have handles that producers have made known, or that the cache has made
up for buffers on devices. `Traced` says so of a state, and handling a message keeps it when the
handle that the message names is known. A handle that is neither is one that nobody uses.
-/

namespace SegmentCache

/-- Whether a handle can be made up for a buffer on a device. -/
def Store.IsBuffer (handle : String) : Prop :=
  ∃ device number, handle = handleFor (.gpu device) number

/-- A handle that begins with other letters is not made up for a buffer. -/
theorem Store.not_isBuffer {handle : String} (hletters : handle.toList.take 3 ≠ ['d', 'e', 'v']) :
    ¬ IsBuffer handle := by
  rintro ⟨device, number, rfl⟩
  apply hletters
  simp [handleFor, toString]

/-- The handle that a message names. -/
def Message.handle? (message : Message) : Option String :=
  message.source?.map Prod.fst

namespace State

/-- Entries and live segments have handles that are known or that were made up for buffers, and the
store has no limit. -/
structure Traced (state : State) (known : String → Prop) : Prop where
  /-- The store takes what it is given. -/
  unlimited : state.store.limit = none
  /-- The handles of the entries. -/
  entries : ∀ {name entry}, state.table.get? name = some entry →
    known entry.handle ∨ Store.IsBuffer entry.handle
  /-- The live handles. -/
  segments : ∀ {handle}, state.store.contains handle = true → known handle ∨ Store.IsBuffer handle

variable {state : State} {known : String → Prop}

/-- A handle that is neither known nor made up is not live. -/
theorem Traced.not_contains (htraced : state.Traced known) {handle : String}
    (hunknown : ¬ known handle) (hbuffer : ¬ Store.IsBuffer handle) :
    state.store.contains handle = false :=
  Bool.eq_false_iff.mpr fun hlive => (htraced.segments hlive).elim hunknown hbuffer

/-- Where handles come from is a matter of the table and the store alone. -/
theorem Traced.congr (htraced : state.Traced known) {next : State}
    (htable : next.table = state.table) (hstore : next.store = state.store) :
    next.Traced known := by
  refine ⟨hstore ▸ htraced.unlimited, ?_, ?_⟩
  · rw [htable]
    exact htraced.entries
  · rw [hstore]
    exact htraced.segments

/-- More handles may become known. -/
theorem Traced.mono (htraced : state.Traced known) {more : String → Prop}
    (hmore : ∀ {handle}, known handle → more handle) : state.Traced more :=
  ⟨htraced.unlimited, fun hfound => (htraced.entries hfound).imp_left hmore,
    fun hlive => (htraced.segments hlive).imp_left hmore⟩

/-- Registering a segment under a known handle. -/
theorem Traced.register (htraced : state.Traced known) {handle : String} (hknown : known handle)
    (segment : Segment) :
    ({ state with store := state.store.register handle segment } : State).Traced known := by
  refine ⟨htraced.unlimited, htraced.entries, ?_⟩
  intro other hlive
  rcases (Store.contains_register _ _ _ _).mp hlive with rfl | hbefore
  · exact Or.inl hknown
  · exact htraced.segments hbefore

/-- An entry that leaves brings in no handle. -/
theorem Traced.drop (htraced : state.Traced known) {name : String} {table : Table} {entry : Entry}
    (hremove : state.table.remove name = .ok (table, entry)) :
    ({ state with table := table }.release entry).1.Traced known := by
  rw [release_state]
  refine ⟨htraced.unlimited, ?_, ?_⟩
  · intro other later hlater
    exact htraced.entries (Table.get?_of_remove hremove hlater).2
  · intro other hlive
    exact htraced.segments ((Store.contains_discard _ _ _).mp hlive).2

/-- Letting go of the entry under a name brings in no handle. -/
theorem Traced.vacate (htraced : state.Traced known) (name : String) :
    (state.vacate name).1.Traced known := by
  unfold State.vacate
  split
  · exact htraced
  · rename_i hremove
    exact htraced.drop hremove

/-- A hit brings in no handle. -/
theorem Traced.hit (htraced : state.Traced known) {next : State} {name : String} {hits : UInt64}
    (hhit : state.table.recordHit name = some (next.table, hits))
    (hstore : next.store = state.store) : next.Traced known := by
  obtain ⟨entry, hfound, -, -⟩ := Table.recordHit_eq_some hhit
  have hentries := Table.get?_recordHit hhit hfound
  refine ⟨hstore ▸ htraced.unlimited, ?_, hstore ▸ htraced.segments⟩
  intro other later hlater
  rw [hentries] at hlater
  split at hlater
  · have hsame := htraced.entries hfound
    cases hlater
    exact hsame
  · exact htraced.entries hlater

/-- The segment found for an object is the one it came in or a buffer. Only a buffer becomes
live. -/
theorem place_traced {store after : Store} {insertion : Insertion}
    {placed : Attempt SegmentFailure String} (hplace : place store insertion = (placed, after)) :
    after.limit = store.limit ∧
      (∀ {handle}, after.contains handle = true →
        store.contains handle = true ∨ Store.IsBuffer handle) ∧
      ∀ {handle}, placed = .ok handle → handle = insertion.handle ∨ Store.IsBuffer handle := by
  have hplacing := placing store insertion
  rw [hplace] at hplacing
  have hbuffer (device : UInt32) : Store.IsBuffer (store.nextBuffer device) :=
    ⟨device, store.next, rfl⟩
  refine ⟨?_, ?_, ?_⟩
  · rcases hplacing.store_eq with rfl | ⟨device, rfl⟩ | ⟨device, contents, rfl⟩
    all_goals rfl
  · intro handle hlive
    rcases hplacing.store_eq with rfl | ⟨device, rfl⟩ | ⟨device, contents, rfl⟩
    · exact Or.inl hlive
    · exact Or.inl hlive
    · rcases (store.contains_withBuffer device contents handle).mp hlive with rfl | hbefore
      · exact Or.inr (hbuffer device)
      · exact Or.inl hbefore
  · rintro handle rfl
    cases hlocality : insertion.locality with
    | cpu => exact Or.inl (hplacing.in_host hlocality).1
    | gpu device =>
      obtain ⟨rfl, -⟩ := hplacing.on_device hlocality
      exact Or.inr (hbuffer device)

/-- Adding an object under a free name brings in the handle of its segment or of a buffer. -/
theorem Traced.insert (htraced : state.Traced known) {insertion : Insertion}
    (hfree : state.table.contains insertion.name = false) (hknown : known insertion.handle) :
    (state.insert insertion).state.Traced known := by
  cases hcapacity : state.config.capacityFor insertion.locality with
  | none =>
    simp only [State.insert, hcapacity]
    exact htraced
  | some capacity =>
    have hroom := @makeRoom_induction (fun next => next.Traced known) state insertion.name
      insertion.locality insertion.size capacity htraced fun _ hremove hnext => hnext.drop hremove
    have hfree' := contains_makeRoom hfree insertion.name insertion.locality insertion.size capacity
    rw [insert_eq_settle _ _ hcapacity]
    generalize state.makeRoom insertion.name insertion.locality insertion.size capacity = made
      at hroom hfree' ⊢
    obtain ⟨room, events⟩ := made
    simp only [settle]
    split
    · exact hroom
    · cases hplace : place room.store insertion with
      | mk placed store =>
        obtain ⟨hlimit, hlive, hplaced⟩ := place_traced hplace
        have hsegments {handle : String} (hhandle : store.contains handle = true) :
            known handle ∨ Store.IsBuffer handle :=
          (hlive hhandle).elim hroom.segments Or.inr
        have hbeside : ({ room with store := store } : State).Traced known :=
          ⟨hlimit.trans hroom.unlimited, hroom.entries, hsegments⟩
        cases placed with
        | error failure => exact hbeside
        | crashed => exact hbeside
        | ok handle =>
          refine ⟨hbeside.unlimited, ?_, hsegments⟩
          intro name entry hentry
          rw [show ((({ room with store := store } : State).add insertion handle).done
            (events ++ [Event.added (insertion.entry handle)])).state.table.get? name = _ from
            @get?_add { room with store := store } insertion hfree' handle name] at hentry
          split at hentry
          · cases hentry
            rcases hplaced rfl with rfl | hbuffer
            · exact Or.inl hknown
            · exact Or.inr hbuffer
          · exact hroom.entries hentry

/-- An object comes in the segment that its message names. -/
theorem handle?_of_insertion? {message : Message} {insertion : Insertion}
    (hbrings : state.insertion? message = some insertion) :
    message.handle? = some insertion.handle := by
  obtain ⟨offer, rfl, -, rfl⟩ | ⟨offer, device, rfl, -, -, rfl⟩ | ⟨offer, rfl, rfl⟩ :=
    insertion?_cases hbrings
  all_goals rfl

/-- Handling a message brings in the handle that it names, and handles for buffers. -/
theorem Traced.handle (htraced : state.Traced known) {message : Message}
    (hnamed : ∀ {handle}, message.handle? = some handle → known handle) :
    (state.handle message).state.Traced known := by
  cases hbrings : state.insertion? message with
  | none =>
    have haside := handle_aside hbrings
    generalize state.handle message = outcome at haside ⊢
    cases haside with
    | stays _ htable hstore => exact htraced.congr htable hstore
    | hit hhit _ _ hstore => exact htraced.hit hhit hstore
    | vacates name => exact htraced.vacate name
  | some insertion =>
    rcases handle_refused_or_insert hbrings with
      ⟨-, -, hrefused⟩ | ⟨function, parameter, events, -, hinsert⟩
    · rw [hrefused]
      exact htraced
    · rw [hinsert, Outcome.after_state]
      have hvacated := @Traced.congr _ _ (htraced.vacate insertion.name)
        ((state.vacate insertion.name).1.countPut function parameter insertion.name) rfl rfl
      exact hvacated.insert (state.contains_vacate insertion.name) (hnamed (handle?_of_insertion? hbrings))

end State

end SegmentCache
