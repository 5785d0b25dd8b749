import SegmentCache.Proofs.ScheduleIndependence

/-!
# Scripts print what they say

When the messages of a script name different segments, and none that could be made up for a buffer,
they may be read ahead (`Traced.safeAhead`), and reciting them is playing them in sequence
(`Traced.recital_eq`). So the questions get the answers that handling the messages one after the
other gives, in whatever order the reader and the loop act (`replay_prints_sequential_answers`), up
to a segment that is too long to be made, where reading crashes
(`replay_crashes_at_overlong_segment`).
-/

namespace SegmentCache

/-- What evicting takes out was in the table. -/
theorem Table.exists_get?_of_mem_evicted {locality : Locality} {requested capacity : UInt64}
    {names : List String} {table : Table} {entry : Entry}
    (hentry : entry ∈ (evict locality requested capacity names table).evicted) :
    ∃ name, table.get? name = some entry := by
  induction names generalizing table with
  | nil => simp [evict] at hentry
  | cons first names ih =>
    unfold evict at hentry
    split at hentry
    · cases hentry
    · split at hentry
      · exact ih hentry
      · rename_i rest taken hremove
        rcases List.mem_cons.mp hentry with rfl | hlater
        · exact ⟨first, (remove_eq_ok hremove).1⟩
        · obtain ⟨name, hfound⟩ := ih hlater
          exact ⟨name, (get?_of_remove hremove hfound).2⟩

/-- The messages before one that names a segment too long to be made. -/
def Message.beforeOverlong (messages : List Message) : List Message :=
  messages.takeWhile (!·.isOverlong)

/-- A message that names no such segment comes before it. -/
theorem Message.beforeOverlong_cons {message : Message} (hshort : message.isOverlong = false)
    (messages : List Message) :
    beforeOverlong (message :: messages) = message :: beforeOverlong messages := by
  simp [beforeOverlong, hshort]

/-- A run crashes if reading does, and fails too when a line cannot be read or the loop failed. -/
theorem Recital.result_spec {recital : Recital} (hreturns : recital.loop ≠ .crashed)
    (ending : Except (List RunCause) Unit) :
    (recital.result ending = .crashed ↔ recital.crashed = true) ∧
      (!(recital.result ending).isOk) =
        (recital.crashed || !ending.isOk || !recital.loop.isOk) := by
  unfold result
  cases recital.crashed with
  | true => simp [Attempt.isOk]
  | false =>
    cases ending with
    | error causes => simp [Attempt.isOk, Except.isOk, Except.toBool]
    | ok => simp [hreturns, Except.isOk, Except.toBool]

/-- A loop that has stopped does not crash the run. -/
theorem Exit.outcome_ne_crashed (exit : Exit) : exit.outcome ≠ .crashed := by
  cases exit <;> simp [outcome]

namespace State

/-- In a cache that has just been opened there are no entries and no segments. -/
theorem Traced.initial (config : Config) (files : FileTree) (clock : String) :
    (State.initial config (Store.empty none) files clock).Traced fun _ => False where
  unlimited := rfl
  entries hfound := by simp [State.initial, Table.get?, Table.empty] at hfound
  segments hlive := by simp [State.initial, Store.contains, Store.empty] at hlive

section Sequence

/-- What fails in the first messages or in the later ones. -/
theorem anyFails_append (state : State) (earlier later : List Message) :
    state.anyFails (earlier ++ later) =
      (state.anyFails earlier || (state.playAll earlier).anyFails later) := by
  induction earlier generalizing state with
  | nil => rfl
  | cons message earlier ih =>
    rw [List.cons_append, anyFails, anyFails, ih, Bool.or_assoc]
    rfl

/-- When nothing has failed yet, the answer to a question is that in the state it has led to. -/
theorem answerAfter_append {state : State} {earlier : List Message}
    (hfine : state.anyFails earlier = false) (later : List Message) (message : Message) :
    state.answerAfter (earlier ++ later) message =
      (state.playAll earlier).answerAfter later message := by
  have hplayed : state.playAll (earlier ++ later) = (state.playAll earlier).playAll later :=
    List.foldl_append
  rw [answerAfter, answerAfter, anyFails_append, hfine, Bool.false_or, hplayed]

/-- When nothing has failed yet, later messages print what they do in the state it has led to. -/
theorem printout_append {state : State} {earlier : List Message}
    (hfine : state.anyFails earlier = false) (later messages : List Message) :
    state.printout (earlier ++ later) messages =
      (state.playAll earlier).printout later messages := by
  induction messages generalizing later with
  | nil => rfl
  | cons message messages ih =>
    rw [printout, printout, answerAfter_append hfine, List.append_assoc, ih]

/-- When a message has failed, no question is answered. -/
theorem printout_of_fails {state : State} {earlier : List Message}
    (hfails : state.anyFails earlier = true) (messages : List Message) :
    state.printout earlier messages = Message.unanswered messages := by
  induction messages generalizing earlier with
  | nil => rfl
  | cons message messages ih =>
    have hlater : state.anyFails (earlier ++ [message]) = true := by
      rw [anyFails_append, hfails, Bool.true_or]
    rw [printout, ih hlater, answerAfter, if_pos hfails]
    cases hquestion : message.action.isQuery <;> simp [Message.unanswered, hquestion]

/-- What the first message prints is its answer, if it is a question. -/
theorem printout_head (state : State) (message : Message) :
    (if message.action.isQuery then [message.report (state.answerAfter [] message)] else []) =
      ((state.supply message).answer? message).toList.map message.report := by
  cases hquestion : message.action.isQuery with
  | false => simp [(state.supply message).answer?_of_command hquestion]
  | true =>
    obtain ⟨answer, hsays⟩ := Option.isSome_iff_exists.mp
      (((state.supply message).isSome_answer? message).trans hquestion)
    have hresult : (state.play message).result = .ok (.answer answer) := handle_of_question hsays
    simp [answerAfter, anyFails, playAll, hresult, hsays]

end Sequence

/-- What it says about a message that the loop goes on after it, or stops. -/
theorem exitAt_cases (state : State) (message : Message) :
    (state.exitAt message = none ∧ (state.handle message).result.isOk = true) ∨
      (∃ exit, state.exitAt message = some exit ∧ (state.handle message).result.isOk = false ∧
        exit.outcome.isOk = false) ∨
      (∃ exit, state.exitAt message = some exit ∧ (state.handle message).result.isOk = true ∧
        message = .quit ∧ exit.outcome = .ok ()) := by
  unfold exitAt
  cases (state.handle message).result with
  | error failure => exact Or.inr (Or.inl ⟨_, rfl, rfl, rfl⟩)
  | crashed => exact Or.inr (Or.inl ⟨_, rfl, rfl, rfl⟩)
  | ok response =>
    by_cases hquit : message = .quit
    · exact Or.inr (Or.inr ⟨_, if_pos hquit, rfl, hquit, rfl⟩)
    · exact Or.inl ⟨if_neg hquit, rfl⟩

/-- The buffer that a message is to copy its object to has a handle that is made up. -/
theorem isBuffer_of_buffer? {state : State} {message : Message} {handle : String}
    (hbuffer : state.buffer? message = some handle) : Store.IsBuffer handle := by
  cases message with
  | putGpu offer =>
    obtain ⟨device, -, rfl⟩ := Option.map_eq_some_iff.mp hbuffer
    exact ⟨device.id, state.store.next, rfl⟩
  | _ => cases hbuffer

section Fresh

variable {state : State} {known : String → Prop} {message : Message} {messages : List Message}

/-- What a message discards has a handle that is known or was made up. -/
theorem Traced.of_mem_released (htraced : state.Traced known) {handle : String}
    (hgone : handle ∈ state.released message) : known handle ∨ Store.IsBuffer handle := by
  obtain ⟨entry, hleaves, rfl⟩ := List.mem_map.mp hgone
  by_cases hremove : ∃ fileName, message = .remove fileName
  · obtain ⟨fileName, rfl⟩ := hremove
    rw [leaving] at hleaves
    split at hleaves
    · cases hleaves
    · exact htraced.entries (Option.mem_toList.mp hleaves)
  · cases hbrings : state.insertion? message with
    | none =>
      rw [leaving_of_none (not_exists.mp hremove) hbrings] at hleaves
      cases hleaves
    | some insertion =>
      rcases state.locked_or_open insertion.name with ⟨hthere, hlocked⟩ | hopen
      · rw [leaving_of_locked hbrings hthere hlocked] at hleaves
        cases hleaves
      · obtain ⟨capacity, hcapacity⟩ := capacityFor_of_insertion? hbrings
        rw [leaving_of_insertion hbrings hopen hcapacity] at hleaves
        rcases List.mem_append.mp hleaves with hreplaced | hevicted
        · exact htraced.entries (Option.mem_toList.mp hreplaced)
        · obtain ⟨name, hfound⟩ := Table.exists_get?_of_mem_evicted hevicted
          exact (htraced.vacate insertion.name).entries hfound

/-- A message that names a segment which nobody uses finds it filled with zeros, unless it is too
long to be made. -/
theorem Traced.equip?_eq_supply (htraced : state.Traced known)
    (hfresh : Message.Fresh known (message :: messages)) :
    state.equip? message = if message.isOverlong then none else some (state.supply message) := by
  cases hsource : message.source? with
  | none => simp [equip?, Store.ensure?, Message.isOverlong, State.supply, hsource, withStore]
  | some source =>
    obtain ⟨handle, size⟩ := source
    have hnamed : handle ∈ Message.handles (message :: messages) :=
      Message.mem_handles_cons.mpr (Or.inl (by rw [Message.handle?, hsource]; rfl))
    have habsent := htraced.not_contains (hfresh.unknown hnamed) (hfresh.notBuffer hnamed)
    by_cases hshort : size.toNat ≤ Contents.maxLength
    · simp [equip?, Store.ensure?, Message.isOverlong, State.supply, hsource, habsent,
        Contents.blank?, hshort, withStore]
    · simp [equip?, Store.ensure?, Message.isOverlong, hsource, habsent, Contents.blank?, hshort,
        Nat.lt_of_not_ge hshort]

/-- Messages that name segments which nobody uses may be read ahead. -/
theorem Traced.safeAhead (htraced : state.Traced known) (hfresh : Message.Fresh known messages) :
    state.safeAhead messages = true := by
  induction messages generalizing state known with
  | nil => rfl
  | cons message messages ih =>
    have hrest := hfresh.tail
    have hunnamed {handle : String} (hgone : handle ∈ state.released message) :
        handle ∉ Message.handles messages := fun hnamed =>
      (htraced.of_mem_released hgone).elim (fun hknown => hrest.unknown hnamed (Or.inl hknown))
        (hrest.notBuffer hnamed)
    have hbefore : Message.handles (Message.beforeQuestion messages) ⊆ Message.handles messages :=
      ((List.takeWhile_prefix _).filterMap _).subset
    have halike : state.CrashAlike message messages := by
      refine ⟨fun handle hgone hnamed => absurd (hbefore hnamed) (hunnamed hgone), ?_⟩
      intro handle hbuffer hlong
      refine hrest.notBuffer (hbefore (Message.mem_handles_of_overlong hlong)) ?_
      exact isBuffer_of_buffer? (Option.mem_toList.mp hbuffer)
    rw [State.safeAhead, htraced.equip?_eq_supply hfresh]
    by_cases hlong : message.isOverlong = true
    · rw [if_pos hlong]
      rfl
    · rw [if_neg hlong, decide_eq_true halike]
      cases hnext : state.goesOn? message with
      | none => rfl
      | some next =>
        have hplayed : next = (state.play message).state := by
          rw [goesOn?, htraced.equip?_eq_supply hfresh, if_neg hlong, Option.bind_some] at hnext
          split at hnext
          · exact (Option.some.inj hnext).symm
          · cases hnext
        subst hplayed
        have htolerates : ∀ handle ∈ state.released message,
            (state.play message).state.Tolerates messages handle := by
          refine fun handle hgone => ⟨fun hcopied => hunnamed hgone ?_, Or.inl fun hnamed =>
            hunnamed hgone (hbefore hnamed)⟩
          exact hbefore ((@copied_append _ [] _ _ hcopied).resolve_left (by simp [copied]))
        simp only [Option.isNone_some, Bool.false_or, Bool.true_and, Bool.and_eq_true,
          decide_eq_true_eq]
        exact ⟨htolerates, ih (htraced.play message) hrest⟩

/-- When the loop has stopped, reading crashes at a segment that is too long to be made, and no
question before is answered. -/
theorem Traced.recital_store (htraced : state.Traced known)
    (hfresh : Message.Fresh known messages) (loop : Attempt (List RunCause) Unit) :
    state.store.recital loop messages =
      { printed := Message.unanswered (Message.beforeOverlong messages)
        loop
        crashed := messages.any Message.isOverlong } := by
  induction messages generalizing state known with
  | nil => rfl
  | cons message messages ih =>
    have hequip := htraced.equip?_eq_supply hfresh
    cases hlong : message.isOverlong with
    | true =>
      rw [hlong, if_pos rfl, equip?, Option.map_eq_none_iff] at hequip
      simp [Store.recital, hequip, Message.beforeOverlong, hlong, Message.unanswered]
    | false =>
      rw [hlong, if_neg Bool.false_ne_true, equip?, Option.map_eq_some_iff] at hequip
      obtain ⟨store, hensured, hsupplied⟩ := hequip
      have hstore : store = (state.supply message).store := by
        rw [← hsupplied]
        rfl
      rw [Store.recital, hensured, Message.beforeOverlong_cons hlong]
      dsimp only
      rw [hstore, ih (htraced.supply message) hfresh.tail]
      simp [Recital.after, hlong, ← Message.unanswered_append]

/-- Reciting messages that name segments which nobody uses is playing them in sequence, up to a
segment that is too long to be made. -/
theorem Traced.recital_eq (htraced : state.Traced known) (hfresh : Message.Fresh known messages)
    (hquit : .quit ∉ messages.dropLast) :
    (state.recital messages).printed = state.printout [] (Message.beforeOverlong messages) ∧
      (state.recital messages).crashed = messages.any Message.isOverlong ∧
      (!(state.recital messages).loop.isOk) =
        state.anyFails (Message.beforeOverlong messages) ∧
      (state.recital messages).loop ≠ .crashed := by
  induction messages generalizing state known with
  | nil => exact ⟨rfl, rfl, rfl, Attempt.ok_ne_crashed _⟩
  | cons message messages ih =>
    have hplay := htraced.play message
    have hrest := hfresh.tail
    rw [recital, htraced.equip?_eq_supply hfresh]
    cases hlong : message.isOverlong with
    | true =>
      simp [Message.beforeOverlong, hlong, printout, anyFails, Attempt.isOk]
    | false =>
      simp only [if_neg Bool.false_ne_true, Message.beforeOverlong_cons hlong, List.any_cons, hlong,
        Bool.false_or, printout, List.nil_append]
      rw [printout_head]
      rcases (state.supply message).exitAt_cases message with
        ⟨hgoes, hok⟩ | ⟨exit, hexit, hfails, houtcome⟩ | ⟨exit, hexit, -, rfl, houtcome⟩
      · have hfine : state.anyFails [message] = false := by simp [anyFails, State.play, hok]
        obtain ⟨hprinted, hcrashed, hloop, hreturns⟩ := ih hplay hrest
          fun hlater => hquit (Message.mem_dropLast_cons hlater)
        have hlater := printout_append hfine [] (Message.beforeOverlong messages)
        rw [List.append_nil] at hlater
        rw [hgoes, hlater, anyFails, State.play, hok]
        exact ⟨congrArg _ hprinted, hcrashed, hloop, hreturns⟩
      · have hsilent : (state.supply message).answer? message = none := by
          cases hsays : (state.supply message).answer? message with
          | none => rfl
          | some answer => cases hexit.symm.trans (exitAt_of_question hsays)
        have hfails' : state.anyFails [message] = true := by simp [anyFails, State.play, hfails]
        rw [hexit, hsilent, printout_of_fails hfails', anyFails, State.play, hfails, ← State.play]
        dsimp only
        rw [hplay.recital_store hrest]
        exact ⟨rfl, rfl, by simp [houtcome], exit.outcome_ne_crashed⟩
      · -- Nothing comes after a message that asks to stop.
        obtain rfl : messages = [] := by
          cases messages with
          | nil => rfl
          | cons next messages => simp at hquit
        simp only [hexit, houtcome]
        exact ⟨rfl, rfl, rfl, Attempt.ok_ne_crashed _⟩

end Fresh

end State

/-- Playing a script gives the answers that its messages get one after the other, whatever the
order in which the reader and the loop act, provided that the messages name different segments and
none that could be made up for a buffer. At a segment that is too long to be made the run
crashes. -/
theorem replay_prints_sequential_answers {config : Config} (hvalid : config.validate = .ok ())
    (files : FileTree) (clock : String) {lines : List ScriptLine}
    (hdistinct : (Message.handles (ScriptLine.outline 1 lines).1).Nodup)
    (hplain : ∀ handle ∈ Message.handles (ScriptLine.outline 1 lines).1,
      ¬ Store.IsBuffer handle) :
    let script := (ScriptLine.outline 1 lines).1
    let ending := (ScriptLine.outline 1 lines).2
    let initial := State.initial config (Store.empty none) files clock
    let read := Message.beforeOverlong script
    let crashes := script.any Message.isOverlong
    let printout := initial.printout [] read
    let fails := crashes || !ending.isOk || initial.anyFails read
    ∃ session events, Session.start config (Store.empty none) files clock = .ok (session, events) ∧
      -- At any point a beginning of the answers has been printed. When the run is over all of them
      -- have, and the run fails if reading crashed, a line could not be read or a message failed.
      (∀ turns, let playback := (Playback.opening session lines).performAll turns
        playback.printed <+: printout ∧
          ∀ result, playback.result? = some result →
            playback.printed = printout ∧ (result = .crashed ↔ crashes = true) ∧
              (!result.isOk) = fails) ∧
      -- The run is over when the reader and the loop have both had enough turns.
      (∀ turns (rounds : List (List Turn)), (∀ round ∈ rounds, .reader ∈ round ∧ .loop ∈ round) →
        4 * lines.length + 3 < rounds.length →
        ((Playback.opening session lines).performAll (turns ++ rounds.flatten)).result?.isSome =
          true) ∧
      -- The program runs the script in this way.
      ∀ arguments tree input bytes, RunArguments.prepared arguments tree = files →
        arguments.cacheConfig files = .ok config → arguments.scriptBytes files input = .ok bytes →
        ScriptLine.ofBytes bytes.toList = lines →
        (arguments.run tree input clock).printed = printout ∧
          ((arguments.run tree input clock).result = .crashed ↔ crashes = true) ∧
          (!(arguments.run tree input clock).result.isOk) = fails := by
  intro script ending initial read crashes printout fails
  have htraced : initial.Traced fun _ => False := .initial config files clock
  have hfresh : Message.Fresh (fun _ => False) script :=
    ⟨hdistinct, fun _ => id, fun {handle} => hplain handle⟩
  obtain ⟨session, events, hstart, hrecited⟩ :=
    Recited.of_safeAhead hvalid (htraced.safeAhead hfresh)
  obtain ⟨hprinted, hcrashed, hfails, hreturns⟩ :=
    htraced.recital_eq hfresh (ScriptLine.quit_not_mem_dropLast_outline 1 lines)
  have hspec := Recital.result_spec hreturns ending
  rw [hcrashed, hfails] at hspec
  rw [show ((State.initial config (Store.empty none) files clock).recital
    (ScriptLine.outline 1 lines).1).printed = printout from hprinted] at hrecited
  refine ⟨session, events, hstart, ?_, hrecited.finishes, ?_⟩
  · intro turns playback
    obtain ⟨hbegins, hover⟩ := hrecited.prints turns
    refine ⟨hbegins, fun result hresult => ?_⟩
    obtain ⟨hall, rfl⟩ := hover result hresult
    exact ⟨hall, hspec⟩
  · intro arguments tree input bytes hfiles hconfig hbytes hlines
    obtain ⟨hall, hresult⟩ := hrecited.runs arguments tree input bytes hfiles hconfig hbytes hlines
    rw [hresult]
    exact ⟨hall, hspec⟩

/-- A script copies an object to a device, asks for it, and locks a file that is not there, which
fails. So the answer to the question after that is no, and the run fails. -/
theorem replay_prints_sequential_answers_failing :
    let config := (Config.ofCapacity 10).addDevice 0 "0000:01:00.0" 10
    let lines : List ScriptLine :=
      ["\x7b\"action\":\"PUT_GPU\",\"file_name\":\"a\",\"handle\":\"h\",\"size\":3," ++
          "\"pci_bus_id\":\"0000:01:00.0\"\x7d",
        "# a comment", "\x7b\"action\":\"IS_IN_CACHE\",\"file_name\":\"./a\"\x7d",
        "\x7b\"action\":\"LOCK\",\"file_name\":\"b\"\x7d",
        "\x7b\"action\":\"IS_IN_CACHE\",\"file_name\":\"./a\"\x7d"].map fun text =>
        { bytes := text.toUTF8.toList, waits := false }
    ∃ session events,
      Session.start config (Store.empty none) FileTree.empty "" = .ok (session, events) ∧
      ∀ turns result,
        ((Playback.opening session lines).performAll turns).result? = some result →
        ((Playback.opening session lines).performAll turns).printed =
            ["IS_IN_CACHE ./a true", "IS_IN_CACHE ./a false"] ∧
          result ≠ .crashed ∧ (!result.isOk) = true := by
  intro config lines
  have houtline : ScriptLine.outline 1 lines =
      ([.putGpu { fileName := "a", handle := "h", bus := "0000:01:00.0", size := 3 },
        .isInCache "./a", .lock "b", .isInCache "./a"], .ok ()) := by
    decide +kernel
  have hhandles : Message.handles (ScriptLine.outline 1 lines).1 = ["h"] := by
    rw [houtline]
    rfl
  have hplain : ∀ handle ∈ Message.handles (ScriptLine.outline 1 lines).1,
      ¬ Store.IsBuffer handle := by
    rw [hhandles]
    exact List.forall_mem_singleton.mpr (Store.not_isBuffer (by decide))
  obtain ⟨session, events, hstart, hprints, -⟩ := @replay_prints_sequential_answers config
    (by decide +kernel) FileTree.empty "" lines (by rw [hhandles]; decide) hplain
  refine ⟨session, events, hstart, fun turns result hover => ?_⟩
  obtain ⟨hprinted, hcrashed, hfails⟩ := (hprints turns).2 result hover
  rw [hprinted, Ne, hcrashed, hfails, houtline]
  decide +kernel

/-- A script puts an object into a segment of more bytes than a buffer can have, and asks for it.
Handled one after the other the messages find the object in the cache, but reading crashes at the
first of them, whatever the schedule. -/
theorem replay_crashes_at_overlong_segment :
    let config := Config.ofCapacity 18446744073709551615
    let lines : List ScriptLine :=
      ["\x7b\"action\":\"PUT\",\"file_name\":\"a\",\"handle\":\"h\"," ++
          "\"size\":9223372036854775808\x7d",
        "\x7b\"action\":\"IS_IN_CACHE\",\"file_name\":\"a\"\x7d"].map fun text =>
        { bytes := text.toUTF8.toList, waits := false }
    let initial := State.initial config (Store.empty none) FileTree.empty ""
    initial.printout [] (ScriptLine.outline 1 lines).1 = ["IS_IN_CACHE a true"] ∧
      (ScriptLine.outline 1 lines).2.isOk = true ∧
      initial.anyFails (ScriptLine.outline 1 lines).1 = false ∧
      ∃ session events,
        Session.start config (Store.empty none) FileTree.empty "" = .ok (session, events) ∧
        ((Playback.opening session lines).performAll [.reader]).result? = some .crashed ∧
        ∀ turns result,
          ((Playback.opening session lines).performAll turns).result? = some result →
          ((Playback.opening session lines).performAll turns).printed = [] ∧
            result = .crashed := by
  intro config lines initial
  have houtline : ScriptLine.outline 1 lines =
      ([.put { fileName := "a", handle := "h", size := 9223372036854775808 }, .isInCache "a"],
        .ok ()) := by
    decide +kernel
  obtain ⟨session, events, hstart, hrecited⟩ := @Recited.of_safeAhead config FileTree.empty "" lines
    (by decide +kernel) (by rw [houtline]; decide +kernel)
  rw [houtline] at hrecited ⊢
  refine ⟨by decide +kernel, rfl, by decide +kernel, session, events, hstart, ?_, ?_⟩
  · rw [Session.start_eq_ok hstart]
    decide +kernel
  intro turns result hover
  obtain ⟨hprinted, hresult⟩ := (hrecited.prints turns).2 result hover
  rw [hprinted, hresult]
  decide +kernel

end SegmentCache
