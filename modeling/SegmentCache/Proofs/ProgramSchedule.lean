import SegmentCache.Proofs.Interleavings
import SegmentCache.Proofs.PlaybackProgress

/-!
# The schedule of the program

The program lets the loop work through the queue whenever its reader has to wait, and leaves the
rest to the end. `Steady.exists_replay` says that this is one of the schedules of a playback, so
what holds of all of them holds of the program.
-/

namespace SegmentCache

namespace Playback

/-- The loop may have several turns in a row. -/
theorem performAll_replicate_loop (playback : Playback) (steps : Nat) :
    playback.performAll (List.replicate steps .loop) =
      { playback with exchange := playback.exchange.performAll (List.replicate steps .loop) } := by
  induction steps generalizing playback with
  | zero => rfl
  | succ steps ih => exact ih (playback.perform .loop)

end Playback

/-- The loop works through its queue when nobody else acts, and then knows whether it goes on. -/
theorem Exchange.exists_drain {exchange : Exchange}
    (hclients : exchange.session.clients.isEmpty = false)
    (hsettled : exchange.session.exit = none → exchange.verdict = none) :
    ∃ steps, let after := exchange.performAll (List.replicate steps .loop)
      after.session = exchange.session.drain.1 ∧
      after.replies = exchange.replies ++ exchange.session.drain.2.1 ∧
      (after.session.exit = none → after.verdict = none) := by
  cases hexit : exchange.session.exit with
  | some exit =>
    refine ⟨0, ?_⟩
    simp [performAll, Session.drain, hexit]
  | none =>
    refine ⟨exchange.session.queue.length + 1, ?_⟩
    have hverdict := hsettled hexit
    obtain ⟨hsession, hreplies, -⟩ := @performAll_loop_eq_drain _ hverdict hexit hclients
      (exchange.session.queue.length + 1) (by omega)
    refine ⟨hsession, hreplies, ?_⟩
    -- One more step of a loop that has decided to stop would change the session.
    obtain ⟨hsession', -, -⟩ := @performAll_loop_eq_drain _ hverdict hexit hclients
      (exchange.session.queue.length + 1 + 1) (by omega)
    intro hopen
    cases hdecided : (exchange.performAll
        (List.replicate (exchange.session.queue.length + 1) .loop)).verdict with
    | none => rfl
    | some exit =>
      rw [List.replicate_succ', performAll_append, ← hsession] at hsession'
      generalize exchange.performAll (List.replicate (exchange.session.queue.length + 1) .loop) =
        after at hsession' hopen hdecided
      have hgone : after.loop.session.exit = some exit := by simp [loop, hopen, hdecided]
      rw [show after.loop.session = after.session from hsession', hopen] at hgone
      cases hgone

/-- A loop that goes on after working through its queue has nothing left to do. -/
theorem Session.queue_drain {session : Session} (hopen : session.drain.1.exit = none) :
    session.drain.1.queue = [] := by
  unfold drain at hopen ⊢
  split
  · rename_i hexit
    simp [hexit] at hopen
  · rfl

/-- A replay and a playback stand at the same point, with a loop that knows whether it goes on. -/
structure Replay.Matches (replay : Replay) (playback : Playback) : Prop where
  /-- The session is the same. -/
  session : playback.exchange.session = replay.session
  /-- The same was printed. -/
  printed : playback.printed = replay.printed
  /-- A loop that is there has not decided to stop. -/
  settled : replay.session.exit = none → playback.exchange.verdict = none

/-- A playback stands where replaying lines has come to: at a line that cannot be read, at a segment
that cannot be made, or behind the last line. -/
def Replay.EndsAt (ended : Attempt (List RunCause) Unit × Replay) (playback : Playback) : Prop :=
  ended.2.Matches playback ∧
    match ended.1 with
    | .error causes => playback.phase = .ended (.error causes)
    | .crashed => playback.phase = .crashed
    | .ok () => ∃ number, playback.phase = .reading number []

/-- What a run comes to when its lines have been replayed: if reading has ended well, the loop is to
finish. -/
def Replay.outcome (ended : Attempt (List RunCause) Unit × Replay) :
    Attempt (List RunCause) Unit :=
  match ended.1 with
  | .error causes => .error causes
  | .crashed => .crashed
  | .ok () => ended.2.session.finish.2.1.outcome

/-- What a replay does with its next line. -/
theorem Replay.lines_cons (replay : Replay) (number : Nat) (line : ScriptLine)
    (lines : List ScriptLine) :
    replay.lines number (line :: lines) =
      let replay := if line.waits then replay.wait else replay
      match line.message? number with
      | .error causes => (.error causes, replay)
      | .ok none => replay.lines (number + 1) lines
      | .ok (some message) =>
        match replay.session.ensureSegment? message with
        | none => (.crashed, replay)
        | some session =>
          (replay.send session message).lines (number + 1)
            (ScriptLine.following message lines) := by
  rw [Replay.lines, ScriptLine.message?]
  dsimp only
  cases line.text? with
  | none => rfl
  | some text =>
    dsimp only
    split
    · rfl
    · cases Message.ofText text with
      | error failure => rfl
      | ok message =>
        dsimp only
        cases (if line.waits then replay.wait else replay).session.ensureSegment? message with
        | none => rfl
        | some session =>
          dsimp only
          unfold ScriptLine.following
          split <;> rfl

/-- Sending a message that is no question puts it into the queue. -/
theorem Replay.send_of_command {replay : Replay} {message : Message}
    (hcommand : message.action.isQuery = false) (session : Session) :
    replay.send session message = { replay with session := (session.submit message).1 } := by
  simp only [send, hcommand, Bool.false_eq_true, if_false]

/-- Sending a question prints its answer. -/
theorem Replay.send_of_question {replay : Replay} {message : Message}
    (hquestion : message.action.isQuery = true) (session : Session) :
    replay.send session message =
      { session := (session.query message).1
        printed := replay.printed ++ [message.report (session.query message).2.1] } := by
  simp only [send, hquestion, if_true]
  rfl

namespace Playback

variable {Holds : Playback → Prop} {playback : Playback} {replay : Replay}

/-- While a replay waits the loop works through the queue. -/
theorem Steady.exists_wait (hsteady : Steady Holds) (hholds : Holds playback)
    (hgoes : playback.phase.isEnded = false) (hmatches : replay.Matches playback) :
    ∃ turns, replay.wait.Matches (playback.performAll turns) ∧
      (playback.performAll turns).phase = playback.phase := by
  have hclients := Exchange.isEmpty_eq_false_of_hasClient (hsteady.present hholds hgoes)
  obtain ⟨steps, hsession, -, hsettled⟩ := Exchange.exists_drain hclients
    (fun hopen => hmatches.settled (hmatches.session ▸ hopen))
  refine ⟨List.replicate steps .loop, ?_⟩
  rw [performAll_replicate_loop]
  have hdrained : replay.wait.session = playback.exchange.session.drain.1 := by
    rw [hmatches.session]
    rfl
  refine ⟨⟨hsession.trans hdrained.symm, hmatches.printed, ?_⟩, rfl⟩
  rw [hdrained, ← hsession]
  exact hsettled

/-- A question is asked, the loop works through the queue, and the answer is printed. -/
theorem Steady.exists_answer (hsteady : Steady Holds) (hholds : Holds playback)
    {message : Message} {number : Nat}
    {lines : List ScriptLine} (hphase : playback.phase = .sending message number lines)
    (hquestion : message.action.isQuery = true) (hopen : playback.exchange.session.exit = none)
    (hsettled : playback.exchange.verdict = none) :
    ∃ turns, (playback.performAll turns).phase = .reading number lines ∧
      (playback.performAll turns).exchange.session = (playback.exchange.session.query message).1 ∧
      (playback.performAll turns).printed =
        playback.printed ++ [message.report (playback.exchange.session.query message).2.1] ∧
      ((playback.performAll turns).exchange.session.exit = none →
        (playback.performAll turns).exchange.verdict = none) := by
  have hread := read_of_question hphase hquestion hopen
  have hasked := Exchange.call_query hopen 0 message
  have hclients : (playback.exchange.call 0 (.query message)).session.clients.isEmpty = false := by
    rw [hasked]
    exact Exchange.isEmpty_eq_false_of_hasClient (hsteady.present hholds (by rw [hphase]; rfl))
  obtain ⟨steps, hsession, hreplies, hsettled'⟩ :=
    Exchange.exists_drain hclients fun _ => by rw [hasked]; exact hsettled
  have hschedule : playback.performAll (.reader :: List.replicate steps .loop) =
      { playback with
        exchange := (playback.exchange.call 0 (.query message)).performAll
          (List.replicate steps .loop)
        phase := .waiting message playback.exchange.arrived.length number lines } := by
    show playback.read.performAll (List.replicate steps .loop) = _
    rw [performAll_replicate_loop, hread]
  have hafter := hsteady.performAll hholds (.reader :: List.replicate steps .loop)
  have hlength := hsteady.count hholds (by rw [hphase]; rfl) hopen hsettled
  rw [show (playback.exchange.call 0 (.query message)).session =
    playback.exchange.session.ask message from rfl] at hsession hreplies
  rw [show (playback.exchange.call 0 (.query message)).replies = playback.exchange.replies by
    rw [hasked]] at hreplies
  rw [hschedule] at hafter
  generalize (playback.exchange.call 0 (.query message)).performAll (List.replicate steps .loop) =
    drained at hschedule hafter hsession hreplies hsettled'
  -- The reader finds its question replied to, or the loop gone.
  have htold : drained.resolved playback.exchange.arrived.length =
      some (playback.exchange.session.query message).2.1 := by
    have hsome := hsteady.resolved_isSome hafter rfl fun hthere =>
      ⟨hsettled' hthere, by
        simp only [hsession] at hthere ⊢
        exact Session.queue_drain hthere⟩
    rw [Exchange.resolved_eq_some hsome, Session.query_of_connected hopen, hreplies, hlength,
      List.getElem?_append_right (Nat.le_add_right _ _), Nat.add_sub_cancel_left]
  refine ⟨.reader :: List.replicate steps .loop ++ [.reader], ?_⟩
  have hend : playback.performAll (.reader :: List.replicate steps .loop ++ [.reader]) =
      { exchange := drained
        phase := .reading number lines
        printed := playback.printed ++
          [message.report (playback.exchange.session.query message).2.1] } := by
    rw [performAll_append, hschedule]
    exact @read_of_answer
      { playback with
        exchange := drained
        phase := .waiting message playback.exchange.arrived.length number lines }
      _ _ _ _ rfl _ htold
  have hquery : (playback.exchange.session.query message).1 =
      (playback.exchange.session.ask message).drain.1 := by
    simp [Session.query, Session.ask, Session.isConnected, hopen]
  rw [hend, hquery]
  exact ⟨rfl, hsession, rfl, hsettled'⟩

/-- Sending the message of a line is a schedule in which the loop acts when an answer is awaited. -/
theorem Steady.exists_send (hsteady : Steady Holds) (hholds : Holds playback)
    {message : Message} {number : Nat}
    {lines : List ScriptLine} (hphase : playback.phase = .sending message number lines)
    (hprinted : playback.printed = replay.printed)
    (hsettled : playback.exchange.session.exit = none → playback.exchange.verdict = none) :
    ∃ turns,
      (replay.send playback.exchange.session message).Matches (playback.performAll turns) ∧
      (playback.performAll turns).phase = .reading number lines := by
  cases hquestion : message.action.isQuery with
  | false =>
    have hexit : (playback.exchange.session.submit message).1.exit =
        playback.exchange.session.exit := by
      unfold Session.submit
      split <;> rfl
    refine ⟨[.reader], ?_⟩
    show Replay.Matches _ playback.read ∧ playback.read.phase = _
    rw [read_of_command hphase hquestion, Replay.send_of_command hquestion]
    exact ⟨⟨rfl, hprinted, fun hopen => hsettled (hexit ▸ hopen)⟩, rfl⟩
  | true =>
    rw [Replay.send_of_question hquestion, ← hprinted]
    cases hexit : playback.exchange.session.exit with
    | none =>
      obtain ⟨turns, hafter, hsame, hanswer, hsettled'⟩ :=
        hsteady.exists_answer hholds hphase hquestion hexit (hsettled hexit)
      exact ⟨turns, ⟨hsame, hanswer, fun hopen => hsettled' (hsame ▸ hopen)⟩, hafter⟩
    | some exit =>
      have hquery : playback.exchange.session.query message =
          (playback.exchange.session, false, [.unanswered message.action]) := by
        simp [Session.query, Session.isConnected, hexit]
      refine ⟨[.reader], ?_⟩
      show Replay.Matches _ playback.read ∧ playback.read.phase = _
      rw [read_of_miss hphase hquestion (Option.isSome_of_mem hexit), hquery]
      exact ⟨⟨rfl, rfl, hsettled⟩, rfl⟩

/-- What some schedule leads to after another one, some schedule leads to. -/
theorem exists_performAll_after {P : Playback → Prop} (earlier : List Turn)
    (hlater : ∃ turns, P ((playback.performAll earlier).performAll turns)) :
    ∃ turns, P (playback.performAll turns) := by
  obtain ⟨turns, hturns⟩ := hlater
  exact ⟨earlier ++ turns, by rwa [performAll_append]⟩

/-- Replaying lines is a schedule in which the loop acts when reading has to wait. -/
theorem Steady.exists_lines (hsteady : Steady Holds) {playback : Playback} {replay : Replay}
    {number : Nat} {lines : List ScriptLine} (hholds : Holds playback)
    (hmatches : replay.Matches playback) (hphase : playback.phase = .reading number lines) :
    ∃ turns, Replay.EndsAt (replay.lines number lines) (playback.performAll turns) := by
  induction lines generalizing playback replay number with
  | nil => exact ⟨[], hmatches, number, hphase⟩
  | cons line lines ih =>
    -- First the loop may work through the queue.
    obtain ⟨before, hbefore, hphase'⟩ : ∃ turns,
        (if line.waits then replay.wait else replay).Matches (playback.performAll turns) ∧
          (playback.performAll turns).phase = .reading number (line :: lines) := by
      split
      · obtain ⟨turns, hwaited, hsame⟩ :=
          hsteady.exists_wait hholds (by rw [hphase]; rfl) hmatches
        exact ⟨turns, hwaited, hsame.trans hphase⟩
      · exact ⟨[], hmatches, hphase⟩
    have hholds' := hsteady.performAll hholds before
    refine exists_performAll_after before ?_
    rw [Replay.lines_cons]
    dsimp only
    generalize (if line.waits then replay.wait else replay) = waited at hbefore ⊢
    generalize playback.performAll before = ready at hbefore hphase' hholds' ⊢
    cases hline : line.message? number with
    | error causes =>
      refine ⟨[.reader], ?_⟩
      show Replay.EndsAt _ ready.read
      rw [read_of_error hphase' hline]
      exact ⟨⟨hbefore.session, hbefore.printed, hbefore.settled⟩, rfl⟩
    | ok content =>
      have hnext : Holds ready.read := hsteady.step hholds' .reader
      cases content with
      | none =>
        have hread := read_of_blank hphase' hline
        have hsame : waited.Matches ready.read := by
          rw [hread]
          exact ⟨hbefore.session, hbefore.printed, hbefore.settled⟩
        have hphase'' : ready.read.phase = .reading (number + 1) lines := by rw [hread]
        exact exists_performAll_after [.reader] (ih hnext hsame hphase'')
      | some message =>
        dsimp only
        cases hensured : waited.session.ensureSegment? message with
        | none =>
          rw [← hbefore.session] at hensured
          refine ⟨[.reader], ?_⟩
          show Replay.EndsAt _ ready.read
          rw [read_of_crash hphase' hline hensured]
          exact ⟨⟨hbefore.session, hbefore.printed, hbefore.settled⟩, rfl⟩
        | some session =>
          have hexit := (Session.ensureSegment?_frame hensured).2.1
          rw [← hbefore.session] at hensured
          have hread := read_of_message hphase' hline hensured
          obtain ⟨turns, hsent, hreading⟩ := @Steady.exists_send _ _ waited hsteady hnext
            message (number + 1) (ScriptLine.following message lines) (by rw [hread])
            (by rw [hread]; exact hbefore.printed)
            (by rw [hread]; exact fun hopen => hbefore.settled (hexit ▸ hopen))
          rw [show ready.read.exchange.session = session by rw [hread]] at hsent
          refine exists_performAll_after [.reader] (exists_performAll_after turns ?_)
          have hlast := hsteady.performAll hnext turns
          by_cases hquit : message = .quit
          · simp only [ScriptLine.following, if_pos hquit] at hreading ⊢
            exact ⟨[], hsent, number + 1, hreading⟩
          · simp only [ScriptLine.following, if_neg hquit] at hreading ⊢
            exact ih hlast hsent hreading

/-- When all lines are read, the reader goes and the loop comes to its end. -/
theorem Steady.exists_finish (hsteady : Steady Holds) (hholds : Holds playback)
    (hmatches : replay.Matches playback) {number : Nat}
    (hphase : playback.phase = .reading number []) :
    ∃ turns, (playback.performAll turns).result? = some replay.session.finish.2.1.outcome ∧
      (playback.performAll turns).printed = replay.printed := by
  obtain ⟨before, hwaited, hsame⟩ := hsteady.exists_wait hholds (by rw [hphase]; rfl) hmatches
  have hholds' := hsteady.performAll hholds before
  have hfinish := replay.session.finish_eq.2
  refine @exists_performAll_after _ (fun after =>
    after.result? = some replay.session.finish.2.1.outcome ∧ after.printed = replay.printed)
    before ?_
  generalize playback.performAll before = ready at hwaited hsame hholds' ⊢
  rw [hphase] at hsame
  have hread := read_of_end hsame
  have hleft : Holds ready.read := hsteady.step hholds' .reader
  have hdrained : ready.exchange.session = replay.session.drain.1 := hwaited.session
  cases hexit : replay.session.drain.1.exit with
  | some exit =>
    refine ⟨[.reader], ?_⟩
    show ready.read.result? = _ ∧ ready.read.printed = _
    rw [hread, hfinish, hexit]
    refine ⟨?_, hwaited.printed⟩
    simp [result?, Exchange.call, Session.dropClient, hdrained, hexit]
  | none =>
    -- The loop finds that nobody is there, and goes.
    have hopen : (ready.exchange.call 0 .drop).session.exit = none := by
      rw [← hexit, ← hdrained]
      rfl
    have hqueue : (ready.exchange.call 0 .drop).session.queue = [] := by
      rw [← Session.queue_drain hexit, ← hdrained]
      rfl
    have hverdict : (ready.exchange.call 0 .drop).verdict = none := hwaited.settled hexit
    have hnobody : (ready.exchange.call 0 .drop).session.clients.isEmpty = true := by
      have hgone := hsteady.gone hleft (by rw [hread])
      rw [hread] at hgone
      exact hgone
    refine ⟨[.reader, .loop, .loop], ?_⟩
    have hend : ready.performAll [.reader, .loop, .loop] =
        { ready.read with exchange := ready.read.exchange.loop.loop } := rfl
    rw [hend, hread, hfinish, hexit]
    generalize ready.exchange.call 0 .drop = left at hopen hqueue hverdict hnobody ⊢
    refine ⟨?_, hwaited.printed⟩
    simp [result?, Exchange.loop, hopen, hqueue, hverdict, hnobody, Exit.outcome]

/-- What replaying lines comes to. -/
theorem Steady.exists_replay (hsteady : Steady Holds) (hholds : Holds playback)
    (hmatches : replay.Matches playback) {number : Nat} {lines : List ScriptLine}
    (hphase : playback.phase = .reading number lines) :
    ∃ turns,
      (playback.performAll turns).result? = some (Replay.outcome (replay.lines number lines)) ∧
        (playback.performAll turns).printed = (replay.lines number lines).2.printed := by
  obtain ⟨earlier, hends⟩ := hsteady.exists_lines hholds hmatches hphase
  have hholds' := hsteady.performAll hholds earlier
  generalize replay.lines number lines = ended at hends ⊢
  obtain ⟨ended, replay⟩ := ended
  obtain ⟨hmatches', hphase'⟩ := hends
  cases ended with
  | error causes =>
    dsimp only at hphase'
    exact ⟨earlier, by simp only [result?, hphase', Replay.outcome], hmatches'.printed⟩
  | crashed =>
    dsimp only at hphase'
    exact ⟨earlier, by simp only [result?, hphase', Replay.outcome], hmatches'.printed⟩
  | ok =>
    obtain ⟨number', hphase'⟩ := hphase'
    obtain ⟨later, hfinish⟩ := hsteady.exists_finish hholds' hmatches' hphase'
    exact ⟨earlier ++ later, by rw [performAll_append]; exact hfinish⟩

end Playback

/-- The files when the directory for logs has been made. -/
def RunArguments.prepared (arguments : RunArguments) (files : FileTree) : FileTree :=
  match arguments.logDir with
  | some directory => (files.makeDirectories directory).2
  | none => files

/-- What a run does once it has its configuration and its script. -/
theorem RunArguments.run_eq {arguments : RunArguments} {tree files : FileTree} {input : ByteArray}
    {clock : String} {config : Config} {bytes : ByteArray} {session : Session}
    {events : List Event} (hfiles : arguments.prepared tree = files)
    (hconfig : arguments.cacheConfig files = .ok config)
    (hbytes : arguments.scriptBytes files input = .ok bytes)
    (hstart : Session.start config (Store.empty none) files clock = .ok (session, events)) :
    let ended := ({ session, printed := [] } : Replay).lines 1 (ScriptLine.ofBytes bytes.toList)
    let run := arguments.run tree input clock
    run.printed = ended.2.printed ∧ run.result = Replay.outcome ended := by
  subst hfiles
  dsimp only
  cases hlogs : arguments.logDir
  all_goals
    simp only [prepared, hlogs] at hconfig hbytes hstart
    simp only [run, hlogs, hconfig, hbytes, hstart]
    generalize ({ session, printed := [] } : Replay).lines 1 (ScriptLine.ofBytes bytes.toList) =
      ended
    obtain ⟨ended, replay⟩ := ended
    cases ended <;> exact ⟨rfl, rfl⟩

end SegmentCache
