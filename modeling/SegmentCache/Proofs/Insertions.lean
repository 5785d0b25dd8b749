import SegmentCache.Proofs.Coherence
import SegmentCache.Proofs.Key
import SegmentCache.Proofs.PlainCache

/-!
# Messages that bring in an object

Three kinds of messages add an entry, and they differ only in what they do first: an offer under
a taken name is passed over, while a replacement makes the cache let go of the entry that has the
name. What follows is one and the same insertion, `handle_eq_insert` says. It makes room, checks
the counter, finds the segment and adds the entry, and `insert_eq_ok` reads off what a successful
one has done. What the other messages can do to entries, segments and counted uses is
`handle_aside`.
-/

namespace SegmentCache

namespace Outcome

/-- Putting no events first changes nothing. -/
@[simp] theorem after_nil (outcome : Outcome) : outcome.after [] = outcome := rfl

/-- Earlier events do not change the state. -/
@[simp] theorem after_state (events : List Event) (outcome : Outcome) :
    (outcome.after events).state = outcome.state := rfl

/-- Earlier events do not change the result. -/
@[simp] theorem after_result (events : List Event) (outcome : Outcome) :
    (outcome.after events).result = outcome.result := rfl

/-- Earlier events come before the others. -/
@[simp] theorem after_events (events : List Event) (outcome : Outcome) :
    (outcome.after events).events = events ++ outcome.events := rfl

end Outcome

namespace Table

/-- Only a name that is free cannot be taken out. -/
theorem contains_of_remove_error {table : Table} {name : String} {failure : CacheFailure}
    (herror : table.remove name = .error failure) : table.contains name = false := by
  cases hname : table.contains name with
  | false => rfl
  | true =>
    obtain ⟨entry, hfound⟩ := contains_iff.mp hname
    obtain ⟨rest, hrest⟩ := exists_remove_eq_ok hfound
    rw [hrest] at herror
    cases herror

/-- A name that was taken out is free. -/
theorem contains_of_remove_ok {table rest : Table} {name : String} {entry : Entry}
    (hremove : table.remove name = .ok (rest, entry)) : rest.contains name = false := by
  rw [contains_eq_false_iff, get?_remove hremove, if_pos rfl]

end Table

namespace Message

/-- Whether a message asks for the file with a key. -/
def gets (name : String) : Message → Bool
  | .get fileName _ _ => entryKey fileName = name
  | _ => false

/-- Whether a message asks to remove the entry with a key. -/
def removes (name : String) : Message → Bool
  | .remove fileName => entryKey fileName = name
  | _ => false

/-- The function and the parameter for which a message asks for an object or offers one. -/
def purpose? : Message → Option (String × String)
  | .get _ parameter function => some (function, parameter)
  | .put offer => some (offer.function, offer.parameter)
  | .putGpu offer => some (offer.function, offer.parameter)
  | .replace offer => some (offer.function, offer.parameter)
  | _ => none

end Message

namespace State

/-- The object that a message brings into the table, provided that it succeeds. An offer under a
taken name and a message of another kind bring in nothing. -/
def insertion? (state : State) : Message → Option Insertion
  | .put offer =>
    if state.isInCache offer.fileName then none
    else some (offer.insertion (entryKey offer.fileName))
  | .putGpu offer =>
    match state.config.deviceAt offer.bus with
    | none => none
    | some device =>
      if state.isInCache offer.fileName then none
      else some (offer.insertion device.id (entryKey offer.fileName))
  | .replace offer => some (offer.insertion (entryKey offer.fileName))
  | _ => none

/-- Lets go of the entry under a name, if there is one. -/
def vacate (state : State) (name : String) : State × List Event :=
  match state.table.remove name with
  | .error _ => (state, [])
  | .ok (table, entry) => { state with table := table }.release entry

/-- There is nothing to let go of under a free name. -/
theorem vacate_of_free {state : State} {name : String}
    (hfree : state.table.contains name = false) : state.vacate name = (state, []) := by
  have hnone : state.table.get? name = none := Table.contains_eq_false_iff.mp hfree
  simp [vacate, Table.remove, hnone]

/-- After letting go of its entry a name is free. -/
theorem contains_vacate (state : State) (name : String) :
    (state.vacate name).1.table.contains name = false := by
  unfold vacate
  split
  · rename_i failure herror
    exact Table.contains_of_remove_error herror
  · rename_i table entry hremove
    rw [release_state]
    exact Table.contains_of_remove_ok hremove

/-- Letting go of an entry changes the entries, what clients see of them and the store, and nothing
else. -/
theorem vacate_frame (state : State) (name : String) :
    ∃ table replica store, (state.vacate name).1 =
      { state with table := table, replica := replica, store := store } := by
  unfold vacate
  split
  · exact ⟨_, _, _, rfl⟩
  · rw [release_state]
    exact ⟨_, _, _, rfl⟩

/-- Letting go of an entry keeps the locks. -/
theorem vacate_locks (state : State) (name : String) :
    (state.vacate name).1.locks = state.locks := by
  obtain ⟨table, replica, store, hframe⟩ := state.vacate_frame name
  rw [hframe]

/-- Letting go of an entry that is not locked is a sequence of moves. -/
theorem vacate_moves (message : Message) {state : State} {name : String}
    (hunlocked : state.locks.isLocked name = false) :
    Moves message state (state.vacate name).1 := by
  unfold vacate
  split
  · exact .refl
  · rename_i table entry hremove
    exact .single (.drop hunlocked hremove)

/-- Putting an object under a free name is an insertion. -/
theorem put_of_free {state : State} {offer : Offer}
    (hfree : state.table.contains (entryKey offer.fileName) = false) :
    state.put offer =
      (state.countPut offer.function offer.parameter (entryKey offer.fileName)).insert
        (offer.insertion (entryKey offer.fileName)) := by
  simp only [put, hfree]
  rfl

/-- A locked entry is not replaced. -/
theorem replace_of_locked {state : State} {offer : Offer}
    (hthere : state.table.contains (entryKey offer.fileName) = true)
    (hlocked : state.locks.isLocked (entryKey offer.fileName) = true) :
    state.replace offer =
      state.fail (.removeLocked (entryKey offer.fileName))
        [.removing (entryKey offer.fileName)] := by
  simp [replace, hthere, remove, hlocked, fail]

/-- Putting an object in place of another lets go of the entry its name has and inserts it. -/
theorem replace_of_unlocked {state : State} {offer : Offer}
    (hthere : state.table.contains (entryKey offer.fileName) = true)
    (hunlocked : state.locks.isLocked (entryKey offer.fileName) = false) :
    state.replace offer =
      (((state.vacate (entryKey offer.fileName)).1.countPut offer.function offer.parameter
        (entryKey offer.fileName)).insert (offer.insertion (entryKey offer.fileName))).after
        (.removing (entryKey offer.fileName) :: (state.vacate (entryKey offer.fileName)).2) := by
  have hfree := state.contains_vacate (entryKey offer.fileName)
  obtain ⟨entry, hfound⟩ := Table.contains_iff.mp hthere
  obtain ⟨table, hremove⟩ := Table.exists_remove_eq_ok hfound
  have hremoved : state.remove (entryKey offer.fileName) =
      (state.vacate (entryKey offer.fileName)).1.done
        (.removing (entryKey offer.fileName) :: (state.vacate (entryKey offer.fileName)).2) := by
    simp [remove, hunlocked, hremove, vacate]
  have hput := @put_of_free (state.vacate (entryKey offer.fileName)).1
    { offer with fileName := entryKey offer.fileName } (by simpa using hfree)
  simp only [replace, hthere, if_true, hremoved, done]
  rw [hput]
  simp only [entryKey_entryKey]
  rfl

/-- Putting an object in place of another where there is none inserts it. -/
theorem replace_of_free {state : State} {offer : Offer}
    (hfree : state.table.contains (entryKey offer.fileName) = false) :
    state.replace offer =
      (state.countPut offer.function offer.parameter (entryKey offer.fileName)).insert
        (offer.insertion (entryKey offer.fileName)) := by
  have hput := @put_of_free state { offer with fileName := entryKey offer.fileName }
    (by simpa using hfree)
  simp only [replace, hfree]
  refine hput.trans ?_
  simp only [entryKey_entryKey]
  rfl

/-- The messages that bring in an object: an offer under a free name, for host memory or for a
device that is there, and a replacement. -/
theorem insertion?_cases {state : State} {message : Message} {insertion : Insertion}
    (hbrings : state.insertion? message = some insertion) :
    (∃ offer, message = .put offer ∧
      state.table.contains (entryKey offer.fileName) = false ∧
      insertion = offer.insertion (entryKey offer.fileName)) ∨
    (∃ offer device, message = .putGpu offer ∧ state.config.deviceAt offer.bus = some device ∧
      state.table.contains (entryKey offer.fileName) = false ∧
      insertion = offer.insertion device.id (entryKey offer.fileName)) ∨
    ∃ offer, message = .replace offer ∧ insertion = offer.insertion (entryKey offer.fileName) := by
  cases message with
  | put offer =>
    cases hname : state.table.contains (entryKey offer.fileName) with
    | true => simp [insertion?, isInCache, hname] at hbrings
    | false =>
      simp only [insertion?, isInCache, hname] at hbrings
      exact Or.inl ⟨offer, rfl, hname, (Option.some.inj hbrings).symm⟩
  | putGpu offer =>
    cases hdevice : state.config.deviceAt offer.bus with
    | none => simp [insertion?, hdevice] at hbrings
    | some device =>
      cases hname : state.table.contains (entryKey offer.fileName) with
      | true => simp [insertion?, isInCache, hdevice, hname] at hbrings
      | false =>
        simp only [insertion?, isInCache, hdevice, hname] at hbrings
        exact Or.inr (Or.inl ⟨offer, device, rfl, hdevice, hname, (Option.some.inj hbrings).symm⟩)
  | replace offer => exact Or.inr (Or.inr ⟨offer, rfl, (Option.some.inj hbrings).symm⟩)
  | get | remove | lock | unlock | isLocked | isInCache | endProfiling | quit => cases hbrings

/-- A message that brings in an object asks for none. -/
theorem gets_of_insertion? {state : State} {message : Message} {insertion : Insertion}
    (hbrings : state.insertion? message = some insertion) (name : String) :
    message.gets name = false := by
  obtain ⟨offer, rfl, -⟩ | ⟨offer, device, rfl, -⟩ | ⟨offer, rfl, -⟩ := insertion?_cases hbrings
  all_goals rfl

/-- A message that brings in an object lets go of the entry under its name, counts the use for its
own purpose and inserts the object, unless it would have to replace a locked entry. All it reports
before is that it removes that entry, and what came of letting go of it. -/
theorem handle_eq_insert {state : State} {message : Message} {insertion : Insertion}
    (hbrings : state.insertion? message = some insertion)
    (hunlocked : state.table.contains insertion.name = true →
      state.locks.isLocked insertion.name = false) :
    ∃ function parameter events, message.purpose? = some (function, parameter) ∧
      state.handle message =
        (((state.vacate insertion.name).1.countPut function parameter
          insertion.name).insert insertion).after events ∧
      ∀ event ∈ events, event = .removing insertion.name ∨
        event ∈ (state.vacate insertion.name).2 := by
  obtain ⟨offer, rfl, hfree, rfl⟩ | ⟨offer, device, rfl, hdevice, hfree, rfl⟩ | ⟨offer, rfl, rfl⟩ :=
    insertion?_cases hbrings
  · refine ⟨offer.function, offer.parameter, [], rfl, ?_, by simp⟩
    simp only [Offer.insertion, vacate_of_free hfree, Outcome.after_nil, handle]
    exact put_of_free hfree
  · refine ⟨offer.function, offer.parameter, [], rfl, ?_, by simp⟩
    simp only [DeviceOffer.insertion, vacate_of_free hfree]
    simp only [handle, putGpu, hdevice, hfree]
    rfl
  · simp only [Offer.insertion] at hunlocked ⊢
    refine ⟨offer.function, offer.parameter, ?_⟩
    cases hthere : state.table.contains (entryKey offer.fileName) with
    | false =>
      refine ⟨[], rfl, ?_, by simp⟩
      simp only [vacate_of_free hthere, Outcome.after_nil, handle]
      exact replace_of_free hthere
    | true =>
      refine ⟨_, rfl, replace_of_unlocked hthere (hunlocked hthere), ?_⟩
      simp +contextual

/-- A message that would have to replace a locked entry fails and changes nothing. -/
theorem handle_of_locked {state : State} {message : Message} {insertion : Insertion}
    (hbrings : state.insertion? message = some insertion)
    (hthere : state.table.contains insertion.name = true)
    (hlocked : state.locks.isLocked insertion.name = true) :
    state.handle message = state.fail (.removeLocked insertion.name) [.removing insertion.name] := by
  obtain ⟨offer, -, hfree, rfl⟩ | ⟨offer, device, -, -, hfree, rfl⟩ | ⟨offer, rfl, rfl⟩ :=
    insertion?_cases hbrings
  · exact absurd hthere (Bool.eq_false_iff.mp hfree)
  · exact absurd hthere (Bool.eq_false_iff.mp hfree)
  · exact replace_of_locked hthere hlocked

/-- A message that was to bring in an object is refused for a locked entry in its way, or it
inserts the object for its own purpose. -/
theorem handle_refused_or_insert {state : State} {message : Message} {insertion : Insertion}
    (hbrings : state.insertion? message = some insertion) :
    (state.table.contains insertion.name = true ∧
      state.locks.isLocked insertion.name = true ∧
      state.handle message =
        state.fail (.removeLocked insertion.name) [.removing insertion.name]) ∨
    ∃ function parameter events, message.purpose? = some (function, parameter) ∧
      state.handle message =
        (((state.vacate insertion.name).1.countPut function parameter
          insertion.name).insert insertion).after events := by
  by_cases hlocked : state.table.contains insertion.name = true ∧
      state.locks.isLocked insertion.name = true
  · exact Or.inl ⟨hlocked.1, hlocked.2, handle_of_locked hbrings hlocked.1 hlocked.2⟩
  · obtain ⟨function, parameter, events, hpurpose, hhandle, -⟩ := handle_eq_insert hbrings
      fun hthere => Bool.eq_false_iff.mpr fun hlocked' => hlocked ⟨hthere, hlocked'⟩
    exact Or.inr ⟨function, parameter, events, hpurpose, hhandle⟩

/-- A message that brought in an object did not have to replace a locked entry. -/
theorem isLocked_of_handle_ok {state : State} {message : Message} {insertion : Insertion}
    {response : Response} (hbrings : state.insertion? message = some insertion)
    (hok : (state.handle message).result = .ok response)
    (hthere : state.table.contains insertion.name = true) :
    state.locks.isLocked insertion.name = false := by
  cases hlocked : state.locks.isLocked insertion.name with
  | false => rfl
  | true => simp [handle_of_locked hbrings hthere hlocked, fail] at hok

/-- What a message does that brings in no object. -/
inductive Aside (state : State) (message : Message) : Outcome → Prop
  /-- Entries, segments and counted uses stay as they are. Only a message that locks adds a lock,
  and only a question or the wish to stop is responded to. -/
  | stays {outcome : Outcome} (hconfig : outcome.state.config = state.config)
      (htable : outcome.state.table = state.table) (hstore : outcome.state.store = state.store)
      (hlocks : message.action ≠ .lock → ∀ {name}, outcome.state.locks.isLocked name = true →
        state.locks.isLocked name = true)
      (hevents : ∀ {name handle}, Event.segmentGone name handle ∉ outcome.events)
      (hresponse : ∀ {response}, outcome.result = .ok response →
        message.action.isQuery = true ∨ message = .quit ∨ response = .none)
      (hprofile : outcome.state.profile = state.profile)
      (hreturns : outcome.result ≠ .crashed) : Aside state message outcome
  /-- A use of an entry is counted, because the message asks for it. -/
  | hit {next : State} {name : String} {hits : UInt64}
      (hhit : state.table.recordHit name = some (next.table, hits))
      (hconfig : next.config = state.config) (hlocks : next.locks = state.locks)
      (hstore : next.store = state.store)
      (hasks : message.gets name = true) : Aside state message (next.done [.hit name hits])
  /-- An entry is let go of, because the message asks to remove it. -/
  | vacates (name : String) (hremoves : message.removes name = true) :
      Aside state message
        ((state.vacate name).1.done (.removing name :: (state.vacate name).2))

/-- A message that succeeds without touching entries and segments. -/
theorem Aside.done {state next : State} {message : Message} (hconfig : next.config = state.config)
    (htable : next.table = state.table) (hstore : next.store = state.store)
    (hlocks : message.action ≠ .lock → ∀ {name}, next.locks.isLocked name = true →
      state.locks.isLocked name = true)
    {events : List Event} (hevents : ∀ {name handle}, Event.segmentGone name handle ∉ events)
    (hprofile : next.profile = state.profile) : state.Aside message (next.done events) :=
  .stays hconfig htable hstore hlocks hevents
    (fun hok => Or.inr (Or.inr (Attempt.ok.inj hok).symm)) hprofile
    (Attempt.ok_ne_crashed _)

/-- A message that fails before it has done anything. -/
theorem Aside.fail {state : State} {message : Message} {failure : CacheFailure}
    {events : List Event} (hevents : ∀ {name handle}, Event.segmentGone name handle ∉ events) :
    state.Aside message (state.fail failure events) :=
  .stays rfl rfl rfl (fun _ _ => id) hevents (fun hok => by cases hok) rfl
    (Attempt.error_ne_crashed _)

/-- A message that brings in no object leaves entries and segments as they are, counts a use, or
lets go of an entry. -/
theorem handle_aside {state : State} {message : Message}
    (hnone : state.insertion? message = none) : state.Aside message (state.handle message) := by
  cases message with
  | get fileName parameter function =>
    simp only [handle, get]
    split
    · exact .done rfl rfl rfl (fun _ _ => id) (by simp) rfl
    · rename_i hhit
      exact .hit hhit rfl rfl rfl (by simp [Message.gets])
  | put offer =>
    cases hname : state.table.contains (entryKey offer.fileName) with
    | true =>
      simp only [handle, put, hname]
      exact .done rfl rfl rfl (fun _ _ => id) (by simp) rfl
    | false => simp [insertion?, isInCache, hname] at hnone
  | putGpu offer =>
    cases hdevice : state.config.deviceAt offer.bus with
    | none =>
      simp only [handle, putGpu, hdevice]
      exact .fail (by simp)
    | some device =>
      cases hname : state.table.contains (entryKey offer.fileName) with
      | true =>
        simp only [handle, putGpu, hdevice, hname]
        exact .done rfl rfl rfl (fun _ _ => id) (by simp) rfl
      | false => simp [insertion?, isInCache, hdevice, hname] at hnone
  | replace offer => cases hnone
  | remove fileName =>
    simp only [handle, remove]
    split
    · exact .fail (by simp)
    · split
      · exact .fail (by simp)
      · rename_i hremove
        have hvacates := @Aside.vacates state (.remove fileName) (entryKey fileName)
          (by simp [Message.removes])
        simpa only [vacate, hremove] using hvacates
  | lock fileName =>
    simp only [handle, lock]
    split
    · split
      · exact .fail (by simp)
      · rename_i locks hlock
        exact @Aside.done state { state with locks := locks } (.lock fileName) rfl rfl rfl
          (fun hother => absurd rfl hother) _ (by simp) rfl
    · exact .fail (by simp)
  | unlock fileName =>
    simp only [handle, unlock]
    split
    · exact .fail (by simp)
    · rename_i locks hunlock
      exact @Aside.done state { state with locks := locks } (.unlock fileName) rfl rfl rfl
        (fun _ _ hlocked => ((isLocked_of_unlock hunlock).mp hlocked).2) _ (by simp) rfl
  | isLocked fileName =>
    exact .stays rfl rfl rfl (fun _ _ => id) (by simp [handle]) (fun _ => Or.inl rfl) rfl
      (Attempt.ok_ne_crashed _)
  | isInCache fileName =>
    exact .stays rfl rfl rfl (fun _ _ => id) (by simp [handle]) (fun _ => Or.inl rfl) rfl
      (Attempt.ok_ne_crashed _)
  | endProfiling =>
    simp only [handle, endProfiling]
    split
    · unfold writeReport
      split
      · exact .stays rfl rfl rfl (fun _ _ => id) (by simp) (fun hok => by cases hok) rfl
          (Attempt.error_ne_crashed _)
      · rename_i files _
        exact @Aside.done state { state with files := files } .endProfiling rfl rfl rfl
          (fun _ _ => id) _ (by simp) rfl
    · exact .done rfl rfl rfl (fun _ _ => id) (by simp) rfl
  | quit =>
    exact .stays rfl rfl rfl (fun _ _ => id) (by simp [handle, quit, statusEvents])
      (fun _ => Or.inr (Or.inl rfl)) rfl (Attempt.ok_ne_crashed _)

/-- What an insertion that succeeded has done: room was made, the counter can take the object, a
segment was found for it, and its entry was added. -/
theorem insert_eq_ok {state : State} {insertion : Insertion} {response : Response}
    (hok : (state.insert insertion).result = .ok response) :
    ∃ capacity room events handle store,
      state.config.capacityFor insertion.locality = some capacity ∧
      state.makeRoom insertion.name insertion.locality insertion.size capacity = (room, events) ∧
      (room.table.usedBytes insertion.locality).toNat + insertion.size.toNat < 2 ^ 64 ∧
      place room.store insertion = (.ok handle, store) ∧
      state.insert insertion =
        ({ room with store := store }.add insertion handle).done
          (events ++ [Event.added (insertion.entry handle)]) := by
  cases hcapacity : state.config.capacityFor insertion.locality with
  | none => simp [insert, hcapacity, fail] at hok
  | some capacity =>
    cases hmade : state.makeRoom insertion.name insertion.locality insertion.size capacity with
    | mk room events =>
      have hinsert := insert_eq_settle state insertion hcapacity
      simp only [hmade, settle] at hinsert
      cases hsum : Word.addChecked (room.table.usedBytes insertion.locality) insertion.size with
      | none => simp [hinsert, hsum, fail] at hok
      | some sum =>
        cases hplace : place room.store insertion with
        | mk placed store =>
          simp only [hsum, hplace] at hinsert
          cases placed with
          | error failure => simp [hinsert, fail] at hok
          | crashed => simp [hinsert, crash] at hok
          | ok handle =>
            exact ⟨capacity, room, events, handle, store, rfl, hmade,
              Word.lt_of_addChecked_eq_some hsum, hplace, hinsert⟩

/-- The entries with one more under a free name. -/
theorem get?_add {state : State} {insertion : Insertion}
    (hfree : state.table.contains insertion.name = false) (handle name : String) :
    (state.add insertion handle).table.get? name =
      if insertion.name = name then some (insertion.entry handle) else state.table.get? name :=
  @Table.get?_put state.table (insertion.entry handle) hfree name

/-- The counters with one more entry under a free name. -/
theorem usedBytes_add {state : State} {insertion : Insertion}
    (hfree : state.table.contains insertion.name = false) (handle : String) (locality : Locality) :
    (state.add insertion handle).usedBytes locality =
      if insertion.locality = locality then
        Word.addSat (state.usedBytes locality) insertion.size
      else state.usedBytes locality :=
  @Table.usedBytes_put state.table (insertion.entry handle) hfree locality

/-- An insertion that fails or crashes has at most made room and touched the store. -/
theorem insert_of_not_ok {state : State} {insertion : Insertion}
    (hbad : (state.insert insertion).result.isOk = false) :
    (state.insert insertion).state = state ∨
      ∃ capacity room events store,
        state.makeRoom insertion.name insertion.locality insertion.size capacity = (room, events) ∧
        (state.insert insertion).state = { room with store := store } := by
  cases hcapacity : state.config.capacityFor insertion.locality with
  | none =>
    left
    simp [insert, hcapacity, fail]
  | some capacity =>
    right
    cases hmade : state.makeRoom insertion.name insertion.locality insertion.size capacity with
    | mk room events =>
      refine ⟨capacity, room, events, ?_⟩
      have hinsert := insert_eq_settle state insertion hcapacity
      simp only [hmade, settle] at hinsert
      cases hsum : Word.addChecked (room.table.usedBytes insertion.locality) insertion.size with
      | none => exact ⟨room.store, hmade, by rw [hinsert, hsum]; rfl⟩
      | some sum =>
        cases hplace : place room.store insertion with
        | mk placed store =>
          simp only [hsum, hplace] at hinsert
          cases placed with
          | error failure => exact ⟨store, hmade, by rw [hinsert]; rfl⟩
          | crashed => exact ⟨store, hmade, by rw [hinsert]; rfl⟩
          | ok handle => simp [hinsert, done, Attempt.isOk] at hbad

/-- An insertion changes the entries, what clients see of them and the store, and nothing else. -/
theorem insert_frame (state : State) (insertion : Insertion) :
    ∃ table replica store, (state.insert insertion).state =
      { state with table := table, replica := replica, store := store } := by
  have hroom {capacity : UInt64} {room : State} {events : List Event}
      (hmade : state.makeRoom insertion.name insertion.locality insertion.size capacity =
        (room, events)) :
      ∃ table replica store,
        room = { state with table := table, replica := replica, store := store } := by
    have hframe := state.makeRoom_frame insertion.name insertion.locality insertion.size capacity
    rwa [hmade] at hframe
  cases hok : (state.insert insertion).result.isOk with
  | false =>
    rcases insert_of_not_ok hok with hsame | ⟨capacity, room, events, store, hmade, hstate⟩
    · exact ⟨_, _, _, hsame⟩
    · obtain ⟨table, replica, left, rfl⟩ := hroom hmade
      exact ⟨table, replica, store, hstate⟩
  | true =>
    obtain ⟨response, hresult⟩ := Attempt.isOk_iff.mp hok
    obtain ⟨capacity, room, events, handle, store, -, hmade, -, -, hinsert⟩ := insert_eq_ok hresult
    obtain ⟨table, replica, left, rfl⟩ := hroom hmade
    rw [hinsert]
    exact ⟨_, _, _, rfl⟩

end State

end SegmentCache
