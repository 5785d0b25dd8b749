import SegmentCache.Proofs.Insertions
import SegmentCache.Proofs.Runs

/-!
# The uses of an entry since it came in

An object may come into the cache under one name many times over. In between its entry is removed,
replaced or evicted, often for the sake of another object. `get?_handle` says what one message can
have done when it leaves an entry under a name: it has brought in a fresh one, or there was one
before, of which it has counted a use if it asks for the name. So the hits of an entry count the
uses since the last message that brought in an object under its name.
-/

namespace SegmentCache

namespace Entry

/-- The entry after a message that asks for it or does not. -/
def asked (entry : Entry) : Bool → Entry
  | true => { entry with hits := Word.addSat entry.hits 1 }
  | false => entry

/-- Asking for an entry leaves the object as it is. -/
theorem sameObject_asked (entry : Entry) (asks : Bool) : entry.SameObject (entry.asked asks) := by
  cases asks with
  | true => exact entry.sameObject_hit
  | false => exact .refl entry

/-- Asking for an entry counts one hit, up to the largest word. -/
theorem toNat_hits_asked (entry : Entry) (asks : Bool) :
    (entry.asked asks).hits.toNat = min (2 ^ 64 - 1) (entry.hits.toNat + asks.toNat) := by
  have hbound := entry.hits.toNat_lt
  cases asks with
  | true =>
    show (Word.addSat entry.hits 1).toNat = min (2 ^ 64 - 1) (entry.hits.toNat + 1)
    rw [Word.toNat_addSat, Word.size_eq]
    exact Nat.min_comm _ _
  | false =>
    show entry.hits.toNat = min (2 ^ 64 - 1) (entry.hits.toNat + 0)
    omega

end Entry

namespace State

/-- The messages of a run, each with the state that it meets. -/
def turns (state : State) : List Message → List (State × Message)
  | [] => []
  | message :: messages => (state, message) :: (state.handle message).state.turns messages

/-- Later messages meet the states that the earlier ones have led to. -/
theorem turns_append (state : State) (earlier later : List Message) :
    state.turns (earlier ++ later) =
      state.turns earlier ++ (state.handleAll earlier).turns later := by
  induction earlier generalizing state with
  | nil => rfl
  | cons message earlier ih => exact congrArg ((state, message) :: ·) (ih _)

/-- Whether a message brings an object into the table under a name. -/
def inserts (state : State) (name : String) (message : Message) : Bool :=
  (state.insertion? message).any (·.name = name) && (state.handle message).result.isOk

/-- A message brings in an object under a name when its insertion is under that name and it
succeeds. -/
theorem inserts_iff {state : State} {name : String} {message : Message} :
    state.inserts name message = true ↔
      ∃ insertion response, state.insertion? message = some insertion ∧ insertion.name = name ∧
        (state.handle message).result = .ok response := by
  cases hbrings : state.insertion? message with
  | none => simp [inserts, hbrings]
  | some insertion =>
    cases hresult : (state.handle message).result <;>
      simp [inserts, hbrings, hresult, Attempt.isOk]

/-- Letting go of an entry touches no other. -/
theorem get?_vacate (state : State) (name other : String) :
    (state.vacate name).1.table.get? other =
      if name = other then none else state.table.get? other := by
  unfold vacate
  split
  · rename_i failure herror
    split
    · rename_i hname
      exact hname ▸ Table.contains_eq_false_iff.mp (Table.contains_of_remove_error herror)
    · rfl
  · rename_i table entry hremove
    rw [release_state]
    exact Table.get?_remove hremove other

/-- The entries after letting go of one. -/
theorem entries_vacate (state : State) (name : String) :
    (state.vacate name).1.table.entries = state.table.entries.erase name := by
  apply Std.ExtTreeMap.ext_getElem?
  intro other
  have hget := state.get?_vacate name other
  rw [Table.get?, Table.get?] at hget
  simp [hget, Std.ExtTreeMap.getElem?_erase]

/-- After letting go of its entry a name is free, also when the next use of it is counted. -/
theorem contains_countPut_vacate (state : State) (function parameter name : String) :
    ((state.vacate name).1.countPut function parameter name).table.contains name = false :=
  state.contains_vacate name

/-- What is left when room has been made was there before. -/
theorem get?_of_makeRoom {state room : State} {name other : String} {locality : Locality}
    {size capacity : UInt64} {events : List Event}
    (hmade : state.makeRoom name locality size capacity = (room, events)) {entry : Entry}
    (hleft : room.table.get? other = some entry) : state.table.get? other = some entry := by
  have hkept := makeRoom_induction
    (motive := fun next =>
      next.table.get? other = some entry → state.table.get? other = some entry) name locality
    size capacity id ?_
  · rw [hmade] at hkept
    exact hkept hleft
  · intro next victim table gone _ hremove hnext hlater
    rw [release_state] at hlater
    exact hnext (Table.get?_of_remove hremove hlater).2

/-- After an insertion that succeeded, the name of the object has the new entry, and the others have
what was left when room had been made. -/
theorem get?_insert_of_ok {state : State} {insertion : Insertion} {response : Response}
    (hfree : state.table.contains insertion.name = false)
    (hok : (state.insert insertion).result = .ok response) :
    response = .none ∧ ∃ (room : Table) (handle : String),
      (∀ {name entry}, room.get? name = some entry → state.table.get? name = some entry) ∧
      ∀ name, (state.insert insertion).state.table.get? name =
        if insertion.name = name then some (insertion.entry handle) else room.get? name := by
  obtain ⟨capacity, room, events, handle, store, -, hmade, -, -, hinsert⟩ := insert_eq_ok hok
  have hfree' := contains_makeRoom hfree insertion.name insertion.locality insertion.size capacity
  rw [hmade] at hfree'
  rw [hinsert] at hok ⊢
  exact ⟨(Attempt.ok.inj hok).symm, room.table, handle, get?_of_makeRoom hmade,
    @get?_add { room with store := store } insertion hfree' handle⟩

/-- After an insertion a name has the new entry, if it is the name of the object and the insertion
succeeded, or the entry that it had. -/
theorem get?_of_insert {state : State} {insertion : Insertion}
    (hfree : state.table.contains insertion.name = false) {name : String} {entry : Entry}
    (hfound : (state.insert insertion).state.table.get? name = some entry) :
    (insertion.name = name ∧ (state.insert insertion).result = .ok .none ∧
      ∃ handle, entry = insertion.entry handle) ∨
    (insertion.name ≠ name ∧ state.table.get? name = some entry) := by
  cases hok : (state.insert insertion).result.isOk with
  | false =>
    right
    have hbefore : state.table.get? name = some entry := by
      rcases insert_of_not_ok hok with hsame | ⟨capacity, room, events, store, hmade, hstate⟩
      · rwa [hsame] at hfound
      · rw [hstate] at hfound
        exact get?_of_makeRoom hmade hfound
    refine ⟨?_, hbefore⟩
    rintro rfl
    cases hbefore.symm.trans (Table.contains_eq_false_iff.mp hfree)
  | true =>
    obtain ⟨response, hresult⟩ := Attempt.isOk_iff.mp hok
    obtain ⟨rfl, room, handle, hroom, hget⟩ := get?_insert_of_ok hfree hresult
    rw [hget] at hfound
    split at hfound
    · rename_i hname
      exact Or.inl ⟨hname, hresult, handle, (Option.some.inj hfound).symm⟩
    · rename_i hname
      exact Or.inr ⟨hname, hroom hfound⟩

/-- After a message that brings in an object under a name, the name has a fresh entry. -/
theorem get?_of_inserts {state : State} {name : String} {message : Message}
    (hinserts : state.inserts name message = true) :
    ∃ entry, (state.handle message).state.table.get? name = some entry ∧ entry.hits = 0 := by
  obtain ⟨insertion, response, hbrings, rfl, hok⟩ := inserts_iff.mp hinserts
  rcases handle_refused_or_insert hbrings with
    ⟨-, -, hhandle⟩ | ⟨function, parameter, events, -, hhandle⟩
  · rw [hhandle] at hok
    cases hok
  · rw [hhandle] at hok ⊢
    obtain ⟨-, room, handle, -, hget⟩ :=
      get?_insert_of_ok (state.contains_countPut_vacate function parameter insertion.name) hok
    exact ⟨insertion.entry handle, (hget insertion.name).trans (if_pos rfl), rfl⟩

/-- A message that was to bring in an object leaves under a name a fresh entry that it has brought
in, or the entry that was there. -/
theorem get?_of_insertion {state : State} {message : Message} {insertion : Insertion}
    (hbrings : state.insertion? message = some insertion) {name : String} {entry : Entry}
    (hfound : (state.handle message).state.table.get? name = some entry) :
    (state.inserts name message = true ∧ entry.hits = 0) ∨
      (state.inserts name message = false ∧ state.table.get? name = some entry) := by
  rcases handle_refused_or_insert hbrings with
    ⟨-, -, hhandle⟩ | ⟨function, parameter, events, -, hhandle⟩
  · right
    rw [hhandle] at hfound
    exact ⟨by simp [inserts, hhandle, fail, Attempt.isOk], hfound⟩
  · have hfree := state.contains_countPut_vacate function parameter insertion.name
    rw [hhandle, Outcome.after_state] at hfound
    rcases get?_of_insert hfree hfound with ⟨hname, hok, handle, rfl⟩ | ⟨hname, hbefore⟩
    · left
      refine ⟨inserts_iff.mpr ⟨insertion, .none, hbrings, hname, ?_⟩, rfl⟩
      rw [hhandle, Outcome.after_result, hok]
    · right
      refine ⟨by simp [inserts, hbrings, hname], ?_⟩
      have hvacated := state.get?_vacate insertion.name name
      rw [if_neg hname] at hvacated
      exact hvacated.symm.trans hbefore

/-- A file that is not cached is missed. -/
theorem get_of_free {state : State} {fileName : String}
    (hfree : state.table.get? (entryKey fileName) = none) (parameter function : String) :
    state.get fileName parameter function = state.done [.miss (entryKey fileName)] := by
  simp [get, Table.recordHit, hfree]

/-- A use of a cached file is counted in its entry, shown to clients and added to the profile. -/
theorem get_of_there {state : State} {fileName : String} {entry : Entry}
    (hfound : state.table.get? (entryKey fileName) = some entry) (parameter function : String) :
    ∃ table, state.table.recordHit (entryKey fileName) =
        some (table, Word.addSat entry.hits 1) ∧
      state.get fileName parameter function =
        { state.countGet function parameter (entryKey fileName) with
          table := table
          replica := state.replica.modify (entryKey fileName) fun entry' =>
            { entry' with hits := Word.addSat entry.hits 1 } }.done
          [.hit (entryKey fileName) (Word.addSat entry.hits 1)] := by
  simp [get, Table.recordHit, hfound]

/-- A message that brings in no object leaves an entry under a name only if there was one, of which
it has counted a use if it asks for the name. -/
theorem get?_of_aside {state : State} {message : Message}
    (hnone : state.insertion? message = none) {name : String} {entry : Entry}
    (hfound : (state.handle message).state.table.get? name = some entry) :
    ∃ before, state.table.get? name = some before ∧
      entry = before.asked (message.gets name) := by
  cases hget : message.gets name with
  | true =>
    cases message with
    | get fileName parameter function =>
      obtain rfl : entryKey fileName = name := by simpa [Message.gets] using hget
      cases hbefore : state.table.get? (entryKey fileName) with
      | none =>
        rw [handle, get_of_free hbefore] at hfound
        cases hbefore.symm.trans hfound
      | some before =>
        obtain ⟨table, hhit, houtcome⟩ := get_of_there hbefore parameter function
        have hcounted := Table.get?_recordHit hhit hbefore (entryKey fileName)
        rw [if_pos rfl] at hcounted
        rw [handle, houtcome] at hfound
        exact ⟨before, rfl, Option.some.inj (hfound.symm.trans hcounted)⟩
    | put | putGpu | replace | remove | lock | unlock | isLocked | isInCache | endProfiling
    | quit =>
      cases hget
  | false =>
    refine ⟨entry, ?_, rfl⟩
    have haside := handle_aside hnone
    generalize state.handle message = outcome at haside hfound
    cases haside with
    | stays _ htable => rwa [htable] at hfound
    | @hit next asked hits hhit _ _ _ hasks =>
      obtain ⟨counted, hcounted, -, -⟩ := Table.recordHit_eq_some hhit
      have hother : asked ≠ name := by
        rintro rfl
        cases hget.symm.trans hasks
      have hbefore := Table.get?_recordHit hhit hcounted name
      rw [if_neg hother] at hbefore
      exact hbefore.symm.trans hfound
    | vacates gone =>
      have hvacated := state.get?_vacate gone name
      rw [done, hvacated] at hfound
      split at hfound
      · cases hfound
      · exact hfound

/-- What a message has done that leaves an entry under a name: it has brought in a fresh one, or
there was one before, of which it has counted a use if it asks for the name. -/
theorem get?_handle {state : State} {message : Message} {name : String} {entry : Entry}
    (hfound : (state.handle message).state.table.get? name = some entry) :
    (state.inserts name message = true ∧ entry.hits = 0) ∨
      (state.inserts name message = false ∧ ∃ before, state.table.get? name = some before ∧
        entry = before.asked (message.gets name)) := by
  cases hbrings : state.insertion? message with
  | none => exact Or.inr ⟨by simp [inserts, hbrings], get?_of_aside hbrings hfound⟩
  | some insertion =>
    refine (get?_of_insertion hbrings hfound).imp id fun ⟨hother, hbefore⟩ => ?_
    exact ⟨hother, entry, hbefore, by rw [gets_of_insertion? hbrings, Entry.asked]⟩

/-- Over messages none of which brings in an object under a name, its entry stays the same object,
and its hits grow by the number of times it is asked for, up to the largest word. -/
theorem get?_handleAll_of_kept {name : String} {messages : List Message} {state : State}
    (hkept : ∀ turn ∈ state.turns messages, turn.1.inserts name turn.2 = false) {entry : Entry}
    (hfound : (state.handleAll messages).table.get? name = some entry) :
    ∃ first, state.table.get? name = some first ∧ first.SameObject entry ∧
      entry.hits.toNat =
        min (2 ^ 64 - 1) (first.hits.toNat + messages.countP (·.gets name)) := by
  induction messages generalizing state with
  | nil =>
    refine ⟨entry, hfound, .refl entry, ?_⟩
    have hbound := entry.hits.toNat_lt
    simp only [List.countP_nil]
    omega
  | cons message messages ih =>
    obtain ⟨hfirst, hrest⟩ := List.forall_mem_cons.mp hkept
    obtain ⟨second, hsecond, hsame, hhits⟩ := ih hrest hfound
    rcases get?_handle hsecond with ⟨hinserts, -⟩ | ⟨-, first, hbefore, rfl⟩
    · cases hfirst.symm.trans hinserts
    · refine ⟨first, hbefore, (first.sameObject_asked _).trans hsame, ?_⟩
      rw [hhits, first.toNat_hits_asked, List.countP_cons]
      cases message.gets name <;> simp <;> omega

/-- An entry under a name that was free has come in with one of the messages, the last to bring in
an object under that name. -/
theorem exists_insertion {name : String} {messages : List Message} {state : State}
    (hfree : state.table.get? name = none) {entry : Entry}
    (hfound : (state.handleAll messages).table.get? name = some entry) :
    ∃ earlier message later, messages = earlier ++ message :: later ∧
      (state.handleAll earlier).inserts name message = true ∧
      ∀ turn ∈ (state.handleAll (earlier ++ [message])).turns later,
        turn.1.inserts name turn.2 = false := by
  induction messages using List.reverseRecOn generalizing entry with
  | nil => cases hfree.symm.trans hfound
  | append_singleton messages last ih =>
    rw [handleAll_append] at hfound
    rcases get?_handle hfound with ⟨hinserts, -⟩ | ⟨hother, before, hbefore, -⟩
    · exact ⟨messages, last, [], rfl, hinserts, by simp [turns]⟩
    · obtain ⟨earlier, message, later, rfl, hinserts, hkept⟩ := ih hbefore
      refine ⟨earlier, message, later ++ [last], by simp, hinserts, ?_⟩
      rw [turns_append, List.forall_mem_append]
      refine ⟨hkept, ?_⟩
      rw [← handleAll_append, List.append_assoc, List.singleton_append]
      simpa [turns] using hother

/-- Whatever messages have been handled, an entry has come in with the last of them to bring in an
object under its name. It has stayed the same object since, and its hits are the number of times
that it was asked for since, up to the largest word. -/
theorem hits_eq_gets_since_insertion (config : Config) (store : Store) (files : FileTree)
    (clock : String) (messages : List Message) {name : String} {entry : Entry}
    (hfound : ((State.initial config store files clock).handleAll messages).table.get? name =
      some entry) :
    let start := State.initial config store files clock
    ∃ earlier message later, messages = earlier ++ message :: later ∧
      (start.handleAll earlier).inserts name message = true ∧
      (∀ turn ∈ (start.handleAll (earlier ++ [message])).turns later,
        turn.1.inserts name turn.2 = false) ∧
      (∀ between, between <+: later →
        ∃ found, (start.handleAll (earlier ++ message :: between)).table.get? name = some found ∧
          found.SameObject entry) ∧
      entry.hits.toNat = min (2 ^ 64 - 1) (later.countP (·.gets name)) := by
  intro start
  have hfree : start.table.get? name = none := by
    simp [start, State.initial, Table.empty, Table.get?]
  obtain ⟨earlier, message, later, rfl, hinserts, hkept⟩ := exists_insertion hfree hfound
  have hsplit (between : List Message) : start.handleAll (earlier ++ message :: between) =
      (start.handleAll (earlier ++ [message])).handleAll between := by
    rw [← handleAll_append, List.append_assoc, List.singleton_append]
  rw [hsplit] at hfound
  refine ⟨earlier, message, later, rfl, hinserts, hkept, ?_, ?_⟩
  · rintro between ⟨rest, rfl⟩
    rw [turns_append, List.forall_mem_append] at hkept
    rw [handleAll_append] at hfound
    obtain ⟨found, hbetween, hsame, -⟩ := get?_handleAll_of_kept hkept.2 hfound
    rw [hsplit]
    exact ⟨found, hbetween, hsame⟩
  · obtain ⟨first, hfirst, -, hhits⟩ := get?_handleAll_of_kept hkept hfound
    rw [handleAll_append] at hfirst
    rcases get?_handle hfirst with ⟨-, hfresh⟩ | ⟨hother, -⟩
    · simpa [hfresh] using hhits
    · cases hinserts.symm.trans hother

/-- An object was used, evicted, missed and offered again. Only the use of its last incarnation
counts, under whatever path it was asked for. -/
theorem hits_eq_gets_since_insertion_evicted :
    let start := State.initial (Config.ofCapacity 10) (Store.empty none) FileTree.empty ""
    let messages : List Message :=
      [.put { fileName := "a", handle := "h", size := 6 }, .get "a" "x" "f", .get "a" "x" "f",
        .put { fileName := "b", handle := "g", size := 6 }, .get "a" "x" "f",
        .put { fileName := "data/a", handle := "k", size := 6 },
        .put { fileName := "a", handle := "g", size := 1 }, .get "tmp/a/" "x" "f", .remove "b"]
    ∃ entry, (start.handleAll messages).table.get? "a" = some entry ∧ entry.hits = 1 ∧
      ∃ earlier message later, messages = earlier ++ message :: later ∧
        (start.handleAll earlier).inserts "a" message = true ∧
        entry.hits.toNat = min (2 ^ 64 - 1) (later.countP (·.gets "a")) := by
  intro start messages
  have hhits : ((start.handleAll messages).table.get? "a").map (·.hits) = some 1 := by decide
  obtain ⟨entry, hfound, hone⟩ := Option.map_eq_some_iff.mp hhits
  obtain ⟨earlier, message, later, hmessages, hinserts, -, -, hcount⟩ :=
    hits_eq_gets_since_insertion _ _ _ _ messages hfound
  exact ⟨entry, hfound, hone, earlier, message, later, hmessages, hinserts, hcount⟩

end State

end SegmentCache
