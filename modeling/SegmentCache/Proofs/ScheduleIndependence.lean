import SegmentCache.Proofs.Courses
import SegmentCache.Proofs.ProgramSchedule

/-!
# Scripts and schedules

If the messages of a script may be read ahead, all schedules recite it, and so does the program
(`Recited`). So all schedules print the same answers and end alike
(`replay_independent_of_schedule`). Handles may be used again and again. A script that copies a
segment to a device right after it was discarded is another matter: there the answers do depend on
the schedule (`replay_dependent_on_schedule`).
-/

namespace SegmentCache

/-- A session that has just been opened has one client, and nothing was sent. -/
theorem Session.start_eq_ok {config : Config} {store : Store} {files : FileTree} {clock : String}
    {session : Session} {events : List Event}
    (hstart : start config store files clock = .ok (session, events)) :
    session =
      { state := State.initial config store files clock, queue := [], exit := none
        clients := (∅ : Std.ExtTreeSet Nat).insert 0 } := by
  unfold start at hstart
  split at hstart
  · cases hstart
  · exact (congrArg Prod.fst (Except.ok.inj hstart)).symm

/-- All schedules of a script print what a recital does and come to the same result, and so does the
program. -/
structure Recited (config : Config) (files : FileTree) (clock : String) (lines : List ScriptLine)
    (session : Session) (printed : List String) (result : Attempt (List RunCause) Unit) : Prop where
  /-- A run that is not over has printed a beginning, and one that is over has printed all. -/
  prints : ∀ turns, let playback := (Playback.opening session lines).performAll turns
    playback.printed <+: printed ∧
      ∀ ending, playback.result? = some ending → playback.printed = printed ∧ ending = result
  /-- A run is over when the reader and the loop have both had enough turns. -/
  finishes : ∀ turns (rounds : List (List Turn)),
    (∀ round ∈ rounds, .reader ∈ round ∧ .loop ∈ round) → 4 * lines.length + 3 < rounds.length →
    ((Playback.opening session lines).performAll (turns ++ rounds.flatten)).result?.isSome = true
  /-- The program runs the script in this way. -/
  runs : ∀ arguments tree input bytes, RunArguments.prepared arguments tree = files →
    arguments.cacheConfig files = .ok config → arguments.scriptBytes files input = .ok bytes →
    ScriptLine.ofBytes bytes.toList = lines →
    (arguments.run tree input clock).printed = printed ∧
      (arguments.run tree input clock).result = result

section Recited

variable {config : Config} {files : FileTree} {clock : String} {lines : List ScriptLine}

/-- A script that may be read ahead is about to be recited. -/
theorem Playback.Recites.opening {session : Session} {events : List Event}
    (hstart : Session.start config (Store.empty none) files clock = .ok (session, events))
    (hsafe : (State.initial config (Store.empty none) files clock).safeAhead
      (ScriptLine.outline 1 lines).1 = true) :
    Recites
      ((State.initial config (Store.empty none) files clock).recital (ScriptLine.outline 1 lines).1)
      (ScriptLine.outline 1 lines).2 (opening session lines) := by
  obtain rfl := Session.start_eq_ok hstart
  refine ⟨fun _ => rfl, fun _ => rfl, fun hended => (by cases hended), fun _ => ?_,
    fun hcrashed => (by cases hcrashed)⟩
  refine .going [] ⟨⟨rfl, rfl⟩, rfl, rfl, ⟨⟨rfl, rfl⟩, rfl⟩, fun _ => rfl, fun _ => rfl, ?_,
    fun _ => rfl, hsafe⟩ rfl (by simp) (fun hwaits => by cases hwaits) rfl
  intro handle segment hmade
  cases hmade

/-- A script that may be read ahead is recited by all schedules and by the program. -/
theorem Recited.of_safeAhead (hvalid : config.validate = .ok ())
    (hsafe : (State.initial config (Store.empty none) files clock).safeAhead
      (ScriptLine.outline 1 lines).1 = true) :
    let recital :=
      (State.initial config (Store.empty none) files clock).recital (ScriptLine.outline 1 lines).1
    ∃ session events, Session.start config (Store.empty none) files clock = .ok (session, events) ∧
      Recited config files clock lines session recital.printed
        (recital.result (ScriptLine.outline 1 lines).2) := by
  intro recital
  obtain ⟨session, events, hstart⟩ : ∃ session events,
      Session.start config (Store.empty none) files clock = .ok (session, events) := by
    simp only [Session.start, hvalid]
    exact ⟨_, _, rfl⟩
  have hsteady := Playback.Recites.steady recital (ScriptLine.outline 1 lines).2
  have hopening := Playback.Recites.opening hstart hsafe
  have hrecites (turns : List Turn) := hsteady.performAll hopening turns
  refine ⟨session, events, hstart, ?_, ?_, ?_⟩
  · intro turns
    exact ⟨(hrecites turns).begins, fun ending hover => (hrecites turns).of_result? hover⟩
  · intro turns rounds hrounds henough
    have hwork := (Playback.opening session lines).effort_performAll_le turns
    have hbound : (Playback.opening session lines).effort = 4 * lines.length + 3 := by
      rw [Session.start_eq_ok hstart]
      rfl
    rw [Playback.performAll_append]
    exact hsteady.over_of_rounds (hrecites turns) hrounds (by omega)
  · intro arguments tree input bytes hfiles hconfig hbytes hlines
    obtain ⟨hprinted, hresult⟩ := RunArguments.run_eq hfiles hconfig hbytes hstart
    rw [hlines] at hprinted hresult
    have hmatches : ({ session, printed := [] } : Replay).Matches (.opening session lines) :=
      ⟨rfl, rfl, fun _ => rfl⟩
    obtain ⟨turns, hover, hprinted'⟩ := hsteady.exists_replay hopening hmatches rfl
    rw [hprinted, hresult, ← hprinted']
    exact (hrecites turns).of_result? hover

end Recited

/-- Any two schedules of a script print the same answers and end alike, provided that its messages
may be read ahead: what a message discards is not copied to a device by another one before the next
question, and if one before the next question names it again, it is not copied later or always named
with the same size, and never named as too long to be made. Nor is a buffer that a message may leave
named so before the next question. -/
theorem replay_independent_of_schedule {config : Config} (hvalid : config.validate = .ok ())
    (files : FileTree) (clock : String) {lines : List ScriptLine}
    (hsafe : (State.initial config (Store.empty none) files clock).safeAhead
      (ScriptLine.outline 1 lines).1 = true) :
    let recital :=
      (State.initial config (Store.empty none) files clock).recital (ScriptLine.outline 1 lines).1
    let result := recital.result (ScriptLine.outline 1 lines).2
    ∃ session events, Session.start config (Store.empty none) files clock = .ok (session, events) ∧
      (∀ turns turns' ending ending',
        let playback := (Playback.opening session lines).performAll turns
        let playback' := (Playback.opening session lines).performAll turns'
        playback.result? = some ending → playback'.result? = some ending' →
          playback.printed = playback'.printed ∧ ending = ending') ∧
      -- Before a run is over it has printed a beginning of the answers, and then all of them. They
      -- are what handling each message before the segment of the next one is made gives.
      (∀ turns, let playback := (Playback.opening session lines).performAll turns
        playback.printed <+: recital.printed ∧
          ∀ ending, playback.result? = some ending →
            playback.printed = recital.printed ∧ ending = result) ∧
      -- A run is over when the reader and the loop have both had enough turns.
      (∀ turns (rounds : List (List Turn)), (∀ round ∈ rounds, .reader ∈ round ∧ .loop ∈ round) →
        4 * lines.length + 3 < rounds.length →
        ((Playback.opening session lines).performAll (turns ++ rounds.flatten)).result?.isSome =
          true) ∧
      -- The program runs the script in this way.
      ∀ arguments tree input bytes, RunArguments.prepared arguments tree = files →
        arguments.cacheConfig files = .ok config → arguments.scriptBytes files input = .ok bytes →
        ScriptLine.ofBytes bytes.toList = lines →
        (arguments.run tree input clock).printed = recital.printed ∧
          (arguments.run tree input clock).result = result := by
  intro recital result
  obtain ⟨session, events, hstart, hrecited⟩ := Recited.of_safeAhead hvalid hsafe
  refine ⟨session, events, hstart, ?_, hrecited.prints, hrecited.finishes, hrecited.runs⟩
  intro turns turns' ending ending' playback playback' hover hover'
  obtain ⟨hprinted, hending⟩ := (hrecited.prints turns).2 ending hover
  obtain ⟨hprinted', hending'⟩ := (hrecited.prints turns').2 ending' hover'
  exact ⟨hprinted.trans hprinted'.symm, hending.trans hending'.symm⟩

/-- A script removes an object and puts it again in the same segment, which it copies to a device
after a question. All schedules find both objects. -/
theorem replay_independent_of_schedule_reused :
    let config := (Config.ofCapacity 100).addDevice 0 "0000:01:00.0" 100
    let lines : List ScriptLine :=
      ["\x7b\"action\":\"PUT\",\"file_name\":\"a\",\"handle\":\"h\",\"size\":4\x7d",
        "\x7b\"action\":\"REMOVE\",\"file_name\":\"a\"\x7d",
        "\x7b\"action\":\"PUT\",\"file_name\":\"a\",\"handle\":\"h\",\"size\":4\x7d",
        "\x7b\"action\":\"IS_IN_CACHE\",\"file_name\":\"a\"\x7d",
        "\x7b\"action\":\"PUT_GPU\",\"file_name\":\"b\",\"handle\":\"h\",\"size\":4," ++
          "\"pci_bus_id\":\"0000:01:00.0\"\x7d",
        "\x7b\"action\":\"IS_IN_CACHE\",\"file_name\":\"b\"\x7d"].map fun text =>
        { bytes := text.toUTF8.toList, waits := false }
    ∃ session events,
      Session.start config (Store.empty none) FileTree.empty "" = .ok (session, events) ∧
      ∀ turns result,
        ((Playback.opening session lines).performAll turns).result? = some result →
        ((Playback.opening session lines).performAll turns).printed =
            ["IS_IN_CACHE a true", "IS_IN_CACHE b true"] ∧
          result = .ok () := by
  intro config lines
  have houtline : ScriptLine.outline 1 lines =
      ([.put { fileName := "a", handle := "h", size := 4 }, .remove "a",
        .put { fileName := "a", handle := "h", size := 4 }, .isInCache "a",
        .putGpu { fileName := "b", handle := "h", bus := "0000:01:00.0", size := 4 },
        .isInCache "b"], .ok ()) := by
    decide +kernel
  obtain ⟨session, events, hstart, -, hprints, -⟩ := @replay_independent_of_schedule config
    (by decide +kernel) FileTree.empty "" lines (by rw [houtline]; decide +kernel)
  refine ⟨session, events, hstart, fun turns result hover => ?_⟩
  obtain ⟨hprinted, hresult⟩ := (hprints turns).2 result hover
  rw [hprinted, hresult, houtline]
  decide +kernel

/-- A script removes an object and copies the segment in which it was to a device. A reader that is
ahead finds the segment there, the loop discards it and then misses it. A loop that keeps up
discards it first, and the reader makes it again. -/
theorem replay_dependent_on_schedule :
    let config := (Config.ofCapacity 100).addDevice 0 "0000:01:00.0" 100
    let lines : List ScriptLine :=
      ["\x7b\"action\":\"PUT\",\"file_name\":\"a\",\"handle\":\"h\",\"size\":4\x7d",
        "\x7b\"action\":\"REMOVE\",\"file_name\":\"a\"\x7d",
        "\x7b\"action\":\"PUT_GPU\",\"file_name\":\"b\",\"handle\":\"h\",\"size\":4," ++
          "\"pci_bus_id\":\"0000:01:00.0\"\x7d",
        "\x7b\"action\":\"IS_IN_CACHE\",\"file_name\":\"b\"\x7d"].map fun text =>
        { bytes := text.toUTF8.toList, waits := false }
    ∃ session events,
      Session.start config (Store.empty none) FileTree.empty "" = .ok (session, events) ∧
      ∃ turns turns' : List Turn,
        let hasty := (Playback.opening session lines).performAll turns
        let patient := (Playback.opening session lines).performAll turns'
        hasty.printed = ["IS_IN_CACHE b false"] ∧
          hasty.result? = some (.error [.note
            ("cache manager terminated: Memory backend error: " ++
              "Unknown memory segment: h")]) ∧
          patient.printed = ["IS_IN_CACHE b true"] ∧ patient.result? = some (.ok ()) := by
  intro config lines
  have hvalid : config.validate = .ok () := by decide +kernel
  have hstart := Session.start.eq_1 config (Store.empty none) FileTree.empty ""
  rw [hvalid] at hstart
  refine ⟨_, _, hstart, ?_⟩
  refine Exists.intro
    [.reader, .reader, .reader, .reader, .reader, .reader, .reader, .reader, .loop, .loop, .loop,
      .loop, .reader, .reader] ?_
  refine Exists.intro
    [.reader, .reader, .loop, .reader, .reader, .loop, .reader, .reader, .loop, .reader, .reader,
      .loop, .reader, .reader, .loop, .loop] ?_
  decide +kernel

end SegmentCache
