import SegmentCache.Proofs.PlaybackProgress
import SegmentCache.Proofs.Recitals

/-!
# Every schedule recites the script

`Playback.Course` says that what was printed and what is yet to come make up the recital of a
script, whether the loop goes on or has stopped. Every step of the reader and of the loop keeps to
this, or the reader crashes where the recital does. So all schedules that come to an end have
printed the same and end alike (`Recites.of_result?`).
-/

namespace SegmentCache.Playback

/-- What was printed and what is yet to come make up a recital. -/
inductive Course (recital : Recital) (playback : Playback) : Prop where
  /-- The loop goes on. No message in the queue is a question, except the last one if the reader
  waits for its answer. -/
  | going {base : State} {store : Store} (plain : List Envelope) (leads : playback.Leads base store)
      (queue : playback.exchange.session.queue =
        plain ++ playback.phase.pending.map fun message => { message, awaited := true })
      (commands : ∀ envelope ∈ plain, envelope.message.action.isQuery = false)
      (asked : ∀ {message position number lines},
        playback.phase = .waiting message position number lines →
          message.action.isQuery = true ∧
            position = playback.exchange.replies.length + plain.length)
      (comes : (base.recital playback.unhandled).after playback.printed = recital)
  /-- The loop goes on and has answered the question for whose answer the reader waits. -/
  | told {base : State} {store : Store} {message : Message} {position number : Nat}
      {lines : List ScriptLine} {answer : Bool} (leads : playback.Leads base store)
      (waits : playback.phase = .waiting message position number lines)
      (queue : playback.exchange.session.queue = [])
      (reply : playback.exchange.replies[position]? = some (some answer))
      (comes : (base.recital playback.unhandled).after
        (playback.printed ++ [message.report answer]) = recital)
  /-- The loop has decided to stop. No question that is left will be answered. -/
  | stopped {exit : Exit} (verdict : playback.exchange.verdict = some exit)
      (gone : ∀ {other}, playback.exchange.session.exit = some other → other = exit)
      (count : playback.exchange.replies.length ≤ playback.exchange.arrived.length)
      (asked : ∀ {message position number lines},
        playback.phase = .waiting message position number lines →
          message.action.isQuery = true ∧ playback.exchange.replies.length ≤ position ∧
            position < playback.exchange.arrived.length)
      (comes : (playback.exchange.session.state.store.recital exit.outcome
          playback.phase.ahead).after
        (playback.printed ++ Message.unanswered (playback.phase.pending ++ playback.phase.made)) =
          recital)

variable {recital : Recital} {playback : Playback} {base : State} {store : Store}

/-- The loop takes a message after which it decides to stop. -/
theorem Course.take_last (hleads : playback.Leads base store) {envelope : Envelope}
    {plain : List Envelope}
    (hqueue : playback.exchange.session.queue =
      envelope :: (plain ++ playback.phase.pending.map fun message => { message, awaited := true }))
    (hasked : ∀ {message position number lines},
      playback.phase = .waiting message position number lines →
        message.action.isQuery = true ∧
          position = playback.exchange.replies.length + (plain.length + 1))
    {exit : Exit} (hexit : playback.exchange.session.state.exitAt envelope.message = some exit)
    (hcomes : ((playback.exchange.session.state.handle envelope.message).state.store.recital
        exit.outcome playback.phase.ahead).after
      (playback.printed ++ Message.unanswered (playback.phase.pending ++ playback.phase.made)) =
        recital) : (playback.perform .loop).Course recital := by
  obtain ⟨hverdict, hopen⟩ := hleads.goes
  have hcount := hleads.count
  rw [hqueue] at hcount
  simp only [List.length_cons, List.length_append, List.length_map] at hcount
  rw [perform, Exchange.loop_take hverdict hopen hqueue, hexit]
  refine .stopped rfl (fun hgone => ?_) ?_ (fun hwaits => ?_) hcomes
  · cases hopen.symm.trans hgone
  · simp only [List.length_append, List.length_singleton]
    omega
  · -- The replies fall short of the question that is asked.
    obtain ⟨hquestion, rfl⟩ := hasked hwaits
    have hpending : playback.phase.pending.length = 1 := by
      rw [show playback.phase = _ from hwaits]
      rfl
    simp only [List.length_append, List.length_singleton]
    exact ⟨hquestion, by omega, by omega⟩

/-- The loop takes a message that is no question. -/
theorem Course.take_command (hleads : playback.Leads base store) {envelope : Envelope}
    {plain : List Envelope}
    (hqueue : playback.exchange.session.queue =
      envelope :: (plain ++ playback.phase.pending.map fun message => { message, awaited := true }))
    (hcommands : ∀ command ∈ envelope :: plain, command.message.action.isQuery = false)
    (hasked : ∀ {message position number lines},
      playback.phase = .waiting message position number lines →
        message.action.isQuery = true ∧
          position = playback.exchange.replies.length + (plain.length + 1))
    (hcomes : (base.recital playback.unhandled).after playback.printed = recital) :
    (playback.perform .loop).Course recital := by
  obtain ⟨hverdict, hopen⟩ := hleads.goes
  obtain ⟨hcommand, hplain⟩ := List.forall_mem_cons.mp hcommands
  have hloop := Exchange.loop_take hverdict hopen hqueue
  have hstops {exit : Exit} := @take_last recital _ _ _ hleads _ _ hqueue hasked exit
  generalize hrest : plain ++ playback.phase.pending.map
    (fun message => ({ message, awaited := true } : Envelope)) = rest at hqueue hloop
  have hmessages : rest.map Envelope.message =
      plain.map Envelope.message ++ playback.phase.pending := by
    simp [← hrest, Function.comp_def]
  have hplain' : ∀ message ∈ plain.map Envelope.message, message.action.isQuery = false := by
    simpa using hplain
  have hlast : ∀ message ∈ (rest.map Envelope.message ++ playback.phase.made).dropLast,
      message.action.isQuery = false := by
    rw [hmessages, List.append_assoc]
    exact Message.commands_dropLast hplain' playback.phase.length_pending_made
  have hprepared : playback.prepared =
      envelope.message :: (rest.map Envelope.message ++ playback.phase.made) := by
    simp [prepared, queued, hqueue]
  have haffords := hleads.affords
  rw [hprepared] at haffords
  rw [unhandled_eq, hprepared, List.cons_append] at hcomes
  cases hexit : (base.ready envelope.message).exitAt envelope.message with
  | some exit =>
    obtain ⟨haffords', hthere⟩ := hleads.handled hprepared hlast
    refine hstops ((hleads.exitAt hprepared).trans hexit) ?_
    -- No question is left among the messages in the queue but the one that is asked.
    have hunanswered : Message.unanswered (rest.map Envelope.message ++ playback.phase.made) =
        Message.unanswered (playback.phase.pending ++ playback.phase.made) := by
      rw [hmessages, List.append_assoc, Message.unanswered_append,
        Message.unanswered_eq_nil hplain', List.nil_append]
    rw [← hcomes, State.recital_cons_of_stop haffords hexit, Store.recital_append haffords',
      ← Store.recital_congr _ hthere, hunanswered, Recital.after_after]
  | none =>
    obtain ⟨after, hleads'⟩ := hleads.take hqueue hlast hexit
    rw [perform, hloop] at hleads' ⊢
    refine .going plain hleads' hrest.symm hplain (fun hwaits => ?_) ?_
    · obtain ⟨hquestion, rfl⟩ := hasked hwaits
      simp only [List.length_append, List.length_singleton]
      exact ⟨hquestion, by omega⟩
    · rw [← hcomes, State.recital_cons_of_goes haffords hexit, base.answer?_of_command hcommand,
        unhandled_eq]
      rfl

/-- The loop takes the question that the reader has asked, and answers it. -/
theorem Course.take_question (hleads : playback.Leads base store) {message : Message}
    {number : Nat} {lines : List ScriptLine}
    (hwaits : playback.phase =
      .waiting message playback.exchange.replies.length number lines)
    (hqueue : playback.exchange.session.queue = [{ message, awaited := true }])
    (hquestion : message.action.isQuery = true)
    (hcomes : (base.recital playback.unhandled).after playback.printed = recital) :
    (playback.perform .loop).Course recital := by
  obtain ⟨hverdict, hopen⟩ := hleads.goes
  have hloop := Exchange.loop_take hverdict hopen hqueue
  obtain ⟨answer, hsays⟩ := Option.isSome_iff_exists.mp
    ((base.isSome_answer? message).trans hquestion)
  have hgoes : (base.ready message).exitAt message = none :=
    State.exitAt_of_question ((base.answer?_withStore _ message).trans hsays)
  obtain ⟨after, hleads'⟩ := hleads.take hqueue (by simp [hwaits, Phase.made]) hgoes
  rw [perform, hloop] at hleads' ⊢
  have hunhandled : playback.unhandled = message :: playback.phase.outline.1 := by
    simp [unhandled, queued, hqueue]
  have haffords : base.store.Affords [message] := by
    have hprepared := hleads.affords
    rwa [prepared, queued, hqueue, hwaits] at hprepared
  have hreply : (playback.exchange.replies ++
      [if true then playback.exchange.session.state.answer? message else none])[
        playback.exchange.replies.length]? = some (some answer) := by
    simp [hleads.state, State.answer?_withStore, hsays]
  refine .told hleads' hwaits rfl hreply ?_
  rw [hunhandled, State.recital_cons_of_goes haffords hgoes, hsays, Recital.after_after] at hcomes
  exact hcomes

/-- The loop finds that nobody is there any more. -/
theorem Course.take_leave (hleads : playback.Leads base store)
    (hqueue : playback.exchange.session.queue = [])
    (hended : playback.phase.isEnded = true)
    (hnobody : playback.exchange.session.clients.isEmpty = true)
    (hcomes : (base.recital playback.unhandled).after playback.printed = recital) :
    (playback.perform .loop).Course recital := by
  obtain ⟨hverdict, hopen⟩ := hleads.goes
  have hpending : playback.phase.pending = [] ∧ playback.phase.made = [] ∧
      playback.phase.ahead = [] := by
    cases hphase : playback.phase with
    | ended | crashed => exact ⟨rfl, rfl, rfl⟩
    | reading | sending | waiting => simp [hphase, Phase.isEnded] at hended
  have hloop : playback.exchange.loop =
      { playback.exchange with
        verdict := some (.disconnected playback.exchange.session.state.summary) } := by
    simp [Exchange.loop, hverdict, hopen, hqueue, hnobody]
  rw [perform, hloop]
  refine .stopped rfl (fun hgone => ?_) ?_ (fun hwaits => ?_) ?_
  · cases hopen.symm.trans hgone
  · rw [hleads.count]
    exact Nat.le_add_right _ _
  · rw [show playback.phase = _ from hwaits] at hpending
    cases hpending.1
  · rw [unhandled_eq, prepared, queued, hqueue, hpending.2.1, hpending.2.2] at hcomes
    rw [← hcomes]
    simp only [hpending]
    simp [Message.unanswered, State.recital, Store.recital, Recital.after, Exit.outcome]

/-- The loop waits for messages while somebody is there. -/
theorem Leads.perform_loop (hleads : playback.Leads base store)
    (hqueue : playback.exchange.session.queue = [])
    (hclients : playback.exchange.session.clients.isEmpty = false) :
    playback.perform .loop = playback := by
  obtain ⟨hverdict, hopen⟩ := hleads.goes
  have hloop : playback.exchange.loop = playback.exchange := by
    simp [Exchange.loop, hverdict, hopen, hqueue, hclients]
  rw [perform, hloop]

/-- The loop takes its step. -/
theorem Course.loop (hcourse : playback.Course recital)
    (hpresent : playback.phase.isEnded = false →
      playback.exchange.session.clients.isEmpty = false) :
    (playback.perform .loop).Course recital := by
  cases hcourse with
  | going plain hleads hqueue hcommands hasked hcomes =>
    cases plain with
    | cons envelope plain =>
      exact Course.take_command hleads hqueue hcommands (fun hwaits => hasked hwaits) hcomes
    | nil =>
      cases hpending : playback.phase.pending with
      | cons message later =>
        obtain ⟨position, number, lines, hwaits⟩ : ∃ position number lines,
            playback.phase = .waiting message position number lines := by
          cases hphase : playback.phase with
          | waiting =>
            rw [hphase] at hpending
            cases hpending
            exact ⟨_, _, _, rfl⟩
          | reading | sending | ended | crashed => simp [hphase, Phase.pending] at hpending
        obtain ⟨hquestion, rfl⟩ := hasked hwaits
        rw [hwaits] at hqueue
        exact Course.take_question hleads hwaits hqueue hquestion hcomes
      | nil =>
        have hempty : playback.exchange.session.queue = [] := by
          rw [hqueue, hpending]
          rfl
        cases hclients : playback.exchange.session.clients.isEmpty with
        | false =>
          rw [hleads.perform_loop hempty hclients]
          exact .going [] hleads hqueue hcommands hasked hcomes
        | true =>
          have hended : playback.phase.isEnded = true := by
            by_contra hreads
            cases (hpresent (by simpa using hreads)).symm.trans hclients
          exact Course.take_leave hleads hempty hended hclients hcomes
  | told hleads hwaits hqueue hreply hcomes =>
    rw [hleads.perform_loop hqueue (hpresent (by rw [hwaits]; rfl))]
    exact .told hleads hwaits hqueue hreply hcomes
  | @stopped exit hverdict hgone hcount hasked hcomes =>
    cases hexit : playback.exchange.session.exit with
    | some other =>
      have hloop : playback.exchange.loop = playback.exchange := by
        simp [Exchange.loop, hexit]
      rw [perform, hloop]
      exact .stopped hverdict hgone hcount hasked hcomes
    | none =>
      have hloop : playback.exchange.loop =
          { playback.exchange with
            session := { playback.exchange.session with queue := [], exit := some exit } } := by
        simp [Exchange.loop, hexit, hverdict]
      rw [perform, hloop]
      exact .stopped hverdict (fun hgone => (Option.some.inj hgone).symm) hcount hasked hcomes

/-- The reader passes over a line, or comes to its end. -/
theorem Course.skip (hcourse : playback.Course recital) {number : Nat} {lines : List ScriptLine}
    (hphase : playback.phase = .reading number lines) {next : Phase} (hpending : next.pending = [])
    (hmade : next.made = []) (houtline : next.outline.1 = (ScriptLine.outline number lines).1)
    (clients : Std.ExtTreeSet Nat) :
    Course recital
      { playback with
        exchange := { playback.exchange with
          session := { playback.exchange.session with clients } }
        phase := next } := by
  have hnobody {message : Message} {position number : Nat} {lines : List ScriptLine}
      (hwaits : next = .waiting message position number lines) : False := by
    rw [hwaits] at hpending
    cases hpending
  have hsame : next.outline.1 = playback.phase.outline.1 := by
    rw [houtline, hphase]
    rfl
  have hahead : next.ahead = playback.phase.ahead := by
    rw [Phase.outline_eq, Phase.outline_eq, hmade, hphase] at hsame
    rw [hphase]
    exact hsame
  cases hcourse with
  | going plain hleads hqueue hcommands hasked hcomes =>
    have hunhandled : playback.queued ++ next.outline.1 = playback.unhandled := by
      rw [hsame]
      rfl
    refine .going plain (hleads.congr hleads.goes hleads.count rfl ?_ hunhandled) ?_ hcommands
      (fun hwaits => (hnobody hwaits).elim) ?_
    · rw [prepared, prepared, hphase]
      exact congrArg (playback.queued ++ ·) hmade
    · rw [hphase] at hqueue
      rw [hpending]
      exact hqueue
    · rw [← hcomes, ← hunhandled]
      rfl
  | told hleads hwaits hqueue hreply hcomes => cases hphase.symm.trans hwaits
  | stopped hverdict hgone hcount hasked hcomes =>
    refine .stopped hverdict hgone hcount (fun hwaits => (hnobody hwaits).elim) ?_
    simp only [hpending, hmade, hahead]
    rw [← hcomes, hphase]
    rfl

/-- The message that the reader comes to is the next one. -/
theorem ahead_of_message {number : Nat} {line : ScriptLine} {lines : List ScriptLine}
    (hphase : playback.phase = .reading number (line :: lines)) {message : Message}
    (hline : line.message? number = .ok (some message)) :
    playback.phase.ahead = message ::
      (ScriptLine.outline (number + 1) (ScriptLine.following message lines)).1 := by
  rw [hphase, Phase.ahead, ScriptLine.outline_of_message hline]

/-- The reader makes the segment that a message names. -/
theorem Course.ensure (hcourse : playback.Course recital) {number : Nat} {line : ScriptLine}
    {lines : List ScriptLine} (hphase : playback.phase = .reading number (line :: lines))
    {message : Message} (hline : line.message? number = .ok (some message)) {session : Session}
    (hensured : playback.exchange.session.ensureSegment? message = some session) :
    playback.read.Course recital := by
  have hahead := ahead_of_message hphase hline
  have houtline : playback.phase.outline.1 =
      (Phase.sending message (number + 1) (ScriptLine.following message lines)).outline.1 := by
    refine Eq.trans ?_ hahead
    rw [hphase]
    rfl
  rw [read_of_message hphase hline hensured]
  obtain ⟨made, hmade, rfl⟩ := Option.map_eq_some_iff.mp hensured
  cases hcourse with
  | @going base store plain hleads hqueue hcommands hasked hcomes =>
    rw [hphase] at hqueue
    rw [unhandled, houtline] at hcomes
    rw [hleads.state] at hmade
    have hsome : store.ensure? message ≠ none := fun hnone => by cases hmade.symm.trans hnone
    cases hmade.symm.trans (Store.ensure?_eq_ensure hsome)
    refine .going plain (hleads.ensure hahead rfl ?_ ?_ hleads.goes hleads.count ?_) hqueue
      hcommands (fun hwaits => by cases hwaits) hcomes
    · rw [prepared, prepared, hphase]
      exact (congrArg (· ++ [message]) (List.append_nil _)).symm
    · refine fun hlong hnamed => Bool.of_not_eq_false fun habsent => hsome ?_
      exact Store.ensure?_eq_none_iff.mpr ⟨hlong, _, hnamed, habsent⟩
    · rw [hleads.state]
      rfl
  | told hleads hwaits hqueue hreply hcomes => cases hphase.symm.trans hwaits
  | stopped hverdict hgone hcount hasked hcomes =>
    refine .stopped hverdict hgone hcount (fun hwaits => by cases hwaits) ?_
    rw [hahead, Store.recital, hmade, hphase] at hcomes
    simp only [Recital.after_after] at hcomes
    rw [← hcomes]
    simp [Phase.pending, Phase.made, Phase.ahead, Message.unanswered]

/-- The reader crashes at a segment that cannot be made. So does the recital. -/
theorem Course.crash (hcourse : playback.Course recital) {number : Nat} {line : ScriptLine}
    {lines : List ScriptLine} (hphase : playback.phase = .reading number (line :: lines))
    {message : Message} (hline : line.message? number = .ok (some message))
    (hnone : playback.exchange.session.ensureSegment? message = none) :
    recital.crashed = true ∧ recital.printed = playback.printed := by
  have hahead := ahead_of_message hphase hline
  have hnone' : playback.exchange.session.state.store.ensure? message = none :=
    Option.map_eq_none_iff.mp hnone
  cases hcourse with
  | @going base store plain hleads hqueue hcommands hasked hcomes =>
    have hplain : playback.exchange.session.queue = plain := by
      rw [hqueue, hphase]
      exact List.append_nil _
    obtain ⟨after, hafter, hrest⟩ :=
      hleads.exists_recital (by rw [hphase]; rfl) (by rwa [hplain])
    rw [hleads.state] at hnone'
    obtain ⟨hlong, handle, hnamed, habsent⟩ := Store.ensure?_eq_none_iff.mp hnone'
    -- The segment is not there in the recital either.
    have hcrash : after.ensure? message = none := by
      refine Store.ensure?_eq_none_iff.mpr ⟨hlong, handle, hnamed, hafter ?_ habsent⟩
      refine Message.mem_overlongHandles.mpr ⟨message, ?_, hlong, hnamed⟩
      rw [hahead]
      simp [Message.beforeQuestion, Message.isQuery_of_handle? hnamed]
    rw [hahead] at hrest
    rw [← hcomes]
    rcases hrest with ⟨next, rfl, hrest⟩ | ⟨loop, hrest⟩
    · rw [hrest]
      simp [State.recital, State.equip?, hcrash, Recital.after]
    · rw [hrest]
      simp [Store.recital, hcrash, Recital.after]
  | told hleads hwaits hqueue hreply hcomes => cases hphase.symm.trans hwaits
  | stopped hverdict hgone hcount hasked hcomes =>
    rw [hahead, Store.recital, hnone', hphase] at hcomes
    rw [← hcomes]
    simp [Recital.after, Phase.pending, Phase.made, Message.unanswered]

/-- A message that is sent to a loop that goes on is still to be handled. -/
theorem Leads.post (hleads : playback.Leads base store) {message : Message} {number : Nat}
    {lines : List ScriptLine} (hphase : playback.phase = .sending message number lines)
    (awaited : Bool) {next : Phase} (hmade : next.made = [])
    (houtline : next.outline.1 = (ScriptLine.outline number lines).1) :
    let sent : Playback :=
      { playback with
        exchange := { playback.exchange with
          session := { playback.exchange.session with
            queue := playback.exchange.session.queue ++ [{ message, awaited }] }
          arrived := playback.exchange.arrived ++ [{ message, awaited }] }
        phase := next }
    sent.unhandled = playback.unhandled ∧ sent.Leads base store := by
  intro sent
  have hfirst : playback.phase.outline.1 = message :: next.outline.1 := by
    rw [hphase, houtline]
    rfl
  have hmade' : playback.phase.made = [message] := by
    rw [hphase]
    rfl
  have hunhandled : sent.unhandled = playback.unhandled := by
    simp [sent, unhandled, queued, hfirst]
  refine ⟨hunhandled, hleads.congr hleads.goes ?_ rfl ?_ hunhandled⟩
  · simp only [sent, List.length_append, List.length_singleton, hleads.count, Nat.add_assoc]
  · simp [sent, prepared, queued, hmade, hmade']

/-- The reader sends a message that is no question. -/
theorem Course.submit (hcourse : playback.Course recital) {message : Message} {number : Nat}
    {lines : List ScriptLine} (hphase : playback.phase = .sending message number lines)
    (hcommand : message.action.isQuery = false) : playback.read.Course recital := by
  rw [read_of_command hphase hcommand, Exchange.call_submit_eq_post]
  cases hcourse with
  | going plain hleads hqueue hcommands hasked hcomes =>
    obtain ⟨hunhandled, hleads'⟩ := @Leads.post _ _ _ hleads _ _ _ hphase false
      (.reading number lines) rfl rfl
    rw [hphase] at hqueue
    rw [Exchange.post_of_open hleads.goes.2]
    refine .going (plain ++ [{ message, awaited := false }]) hleads' ?_ ?_
      (fun hwaits => by cases hwaits) ?_
    · rw [hqueue]
      simp [Phase.pending]
    · simpa [or_imp, forall_and, hcommand] using hcommands
    · rw [← hcomes, ← hunhandled]
  | told hleads hwaits hqueue hreply hcomes => cases hphase.symm.trans hwaits
  | stopped hverdict hgone hcount hasked hcomes =>
    obtain ⟨hverdict', hreplies, harrived⟩ :=
      playback.exchange.post_replies { message, awaited := false }
    obtain ⟨hstate, hexit, -⟩ := playback.exchange.post_frame { message, awaited := false }
    refine .stopped (hverdict'.trans hverdict) (fun hgone' => hgone (hexit.symm.trans hgone')) ?_
      (fun hwaits => by cases hwaits) ?_
    · rw [hreplies]
      exact hcount.trans harrived
    · rw [hstate, ← hcomes, hphase]
      simp [Message.unanswered, Phase.pending, Phase.made, Phase.ahead, hcommand]

/-- The reader asks a question while the loop is there. -/
theorem Course.ask (hcourse : playback.Course recital) {message : Message} {number : Nat}
    {lines : List ScriptLine} (hphase : playback.phase = .sending message number lines)
    (hquestion : message.action.isQuery = true) (hopen : playback.exchange.session.exit = none) :
    playback.read.Course recital := by
  rw [read_of_question hphase hquestion hopen, Exchange.call_query_eq_post,
    Exchange.post_of_open hopen]
  cases hcourse with
  | going plain hleads hqueue hcommands hasked hcomes =>
    obtain ⟨hunhandled, hleads'⟩ := @Leads.post _ _ _ hleads _ _ _ hphase true
      (.waiting message playback.exchange.arrived.length number lines) rfl rfl
    have hplain : playback.exchange.session.queue = plain := by
      rw [hqueue, hphase]
      exact List.append_nil _
    refine .going plain hleads' ?_ hcommands (fun hwaits => ?_) ?_
    · rw [hplain]
      rfl
    · cases hwaits
      exact ⟨hquestion, by rw [hleads.count, hplain]⟩
    · rw [← hcomes, ← hunhandled]
  | told hleads hwaits hqueue hreply hcomes => cases hphase.symm.trans hwaits
  | stopped hverdict hgone hcount hasked hcomes =>
    refine .stopped hverdict hgone ?_ (fun hwaits => ?_) ?_
    · exact hcount.trans (by simp)
    · cases hwaits
      exact ⟨hquestion, hcount, by simp⟩
    · rw [← hcomes, hphase]
      rfl

/-- The reader answers a question itself when the loop is gone. -/
theorem Course.miss (hcourse : playback.Course recital) {message : Message} {number : Nat}
    {lines : List ScriptLine} (hphase : playback.phase = .sending message number lines)
    (hquestion : message.action.isQuery = true)
    (hgone : playback.exchange.session.exit.isSome = true) : playback.read.Course recital := by
  rw [read_of_miss hphase hquestion hgone]
  cases hcourse with
  | going plain hleads hqueue hcommands hasked hcomes =>
    rw [hleads.goes.2] at hgone
    cases hgone
  | told hleads hwaits hqueue hreply hcomes => cases hphase.symm.trans hwaits
  | stopped hverdict hgone hcount hasked hcomes =>
    refine .stopped hverdict hgone hcount (fun hwaits => by cases hwaits) ?_
    rw [← hcomes, hphase]
    simp [Message.unanswered, Phase.pending, Phase.made, Phase.ahead, hquestion]

/-- The reader prints the answer that it was given. -/
theorem Course.answer (hcourse : playback.Course recital) {message : Message}
    {position number : Nat} {lines : List ScriptLine}
    (hphase : playback.phase = .waiting message position number lines) {answer : Bool}
    (hresolved : playback.exchange.resolved position = some answer) :
    playback.read.Course recital := by
  rw [read_of_answer hphase hresolved]
  -- Without a reply the answer is no, and the loop is gone.
  have hunreplied (hlate : playback.exchange.replies.length ≤ position) :
      playback.exchange.session.exit.isSome = true ∧ answer = false := by
    unfold Exchange.resolved at hresolved
    rw [List.getElem?_eq_none hlate] at hresolved
    dsimp only at hresolved
    split at hresolved
    · rename_i hgone
      exact ⟨hgone, (Option.some.inj hresolved).symm⟩
    · cases hresolved
  cases hcourse with
  | going plain hleads hqueue hcommands hasked hcomes =>
    obtain ⟨-, rfl⟩ := hasked hphase
    obtain ⟨hgone, -⟩ := hunreplied (Nat.le_add_right _ _)
    rw [hleads.goes.2] at hgone
    cases hgone
  | told hleads hwaits hqueue hreply hcomes =>
    cases hphase.symm.trans hwaits
    simp only [Exchange.resolved, hreply, Option.getD_some, Option.some.injEq] at hresolved
    subst hresolved
    have hunhandled : playback.queued ++ (ScriptLine.outline number lines).1 =
        playback.unhandled := by
      rw [unhandled, hphase]
      rfl
    refine .going [] (hleads.congr hleads.goes hleads.count rfl ?_ hunhandled) hqueue (by simp)
      (fun hwaits => by cases hwaits) ?_
    · rw [prepared, prepared, hphase]
      rfl
    · rw [← hcomes, ← hunhandled]
      rfl
  | stopped hverdict hgone hcount hasked hcomes =>
    obtain ⟨hquestion, hlate, -⟩ := hasked hphase
    obtain ⟨-, rfl⟩ := hunreplied hlate
    refine .stopped hverdict hgone hcount (fun hwaits => by cases hwaits) ?_
    rw [← hcomes, hphase]
    simp [Message.unanswered, Phase.pending, Phase.made, Phase.ahead, hquestion]

/-- A playback recites a script that is read to an ending. -/
structure Recites (recital : Recital) (ending : Except (List RunCause) Unit) (playback : Playback) :
    Prop where
  /-- Reading will end as it should, unless it crashes. -/
  ends : playback.phase ≠ .crashed → playback.phase.outline.2 = ending
  /-- The reader is the only client, until it goes. -/
  present : playback.phase.isEnded = false →
    playback.exchange.session.clients = (∅ : Std.ExtTreeSet Nat).insert 0
  /-- When reading has ended well the reader is gone. -/
  gone : playback.phase = .ended (.ok ()) → playback.exchange.session.clients.isEmpty = true
  /-- What was printed and what is yet to come make up the recital. -/
  course : playback.phase ≠ .crashed → playback.Course recital
  /-- When reading has crashed nothing is yet to come. -/
  crash : playback.phase = .crashed → recital.crashed = true ∧ recital.printed = playback.printed

variable {ending : Except (List RunCause) Unit}

/-- The loop keeps to the recital. -/
theorem Recites.loop (hrecites : playback.Recites recital ending) :
    (playback.perform .loop).Recites recital ending := by
  obtain ⟨-, hclients⟩ := playback.exchange.loop_frame
  refine ⟨hrecites.ends, fun hgoes => hclients.trans (hrecites.present hgoes), ?_, ?_,
    hrecites.crash⟩
  · intro hended
    rw [show (playback.perform .loop).exchange.session.clients = _ from hclients]
    exact hrecites.gone hended
  · refine fun hreads => (hrecites.course hreads).loop fun hgoes => ?_
    rw [hrecites.present hgoes]
    decide

/-- The reader keeps to the recital while it reads on. -/
theorem Recites.read_on (hrecites : playback.Recites recital ending) {next : Playback}
    (hgoes : playback.phase.isEnded = false) (hcourse : next.Course recital)
    (hends : next.phase.outline.2 = playback.phase.outline.2)
    (hclients : next.exchange.session.clients = playback.exchange.session.clients)
    (hended : next.phase ≠ .ended (.ok ()) ∧ next.phase ≠ .crashed) :
    next.Recites recital ending := by
  exact ⟨fun _ => hends.trans (hrecites.ends (Phase.ne_crashed hgoes)),
    fun _ => hclients.trans (hrecites.present hgoes), fun hleft => absurd hleft hended.1,
    fun _ => hcourse, fun hcrashed => absurd hcrashed hended.2⟩

/-- The reader keeps to the recital when it comes to a line or to the end. -/
theorem Recites.read_line (hrecites : playback.Recites recital ending) {number : Nat}
    {lines : List ScriptLine} (hphase : playback.phase = .reading number lines) :
    playback.read.Recites recital ending := by
  have hreads : playback.phase ≠ .crashed := by simp [hphase]
  have hcourse := hrecites.course hreads
  have hgoes : playback.phase.isEnded = false := by
    rw [hphase]
    rfl
  cases lines with
  | nil =>
    have hends := hrecites.ends hreads
    rw [hphase] at hends
    rw [read_of_end hphase]
    refine ⟨fun _ => hends, fun hreads => (by cases hreads), fun _ => ?_, fun _ => ?_,
      fun hcrashed => (by cases hcrashed)⟩
    · simp only [Exchange.call, Session.dropClient, hrecites.present hgoes]
      decide
    · exact hcourse.skip hphase rfl rfl rfl _
  | cons line lines =>
    cases hline : line.message? number with
    | error causes =>
      rw [read_of_error hphase hline]
      refine hrecites.read_on hgoes (hcourse.skip hphase rfl rfl ?_ _) ?_ rfl (by simp)
      · simp only [Phase.outline, ScriptLine.outline, hline]
      · simp only [Phase.outline, hphase, ScriptLine.outline, hline]
    | ok content =>
      cases content with
      | none =>
        rw [read_of_blank hphase hline]
        refine hrecites.read_on hgoes (hcourse.skip hphase rfl rfl ?_ _) ?_ rfl (by simp)
        · simp only [Phase.outline, ScriptLine.outline, hline]
        · simp only [Phase.outline, hphase, ScriptLine.outline, hline]
      | some message =>
        cases hensured : playback.exchange.session.ensureSegment? message with
        | none =>
          rw [read_of_crash hphase hline hensured]
          exact ⟨fun hreads => absurd rfl hreads, fun hreads => (by cases hreads),
            fun hended => (by cases hended), fun hreads => absurd rfl hreads,
            fun _ => hcourse.crash hphase hline hensured⟩
        | some session =>
          refine hrecites.read_on hgoes (hcourse.ensure hphase hline hensured) ?_ ?_ ?_
          all_goals rw [read_of_message hphase hline hensured]
          · simp only [hphase, Phase.outline, ScriptLine.outline_of_message hline]
          · exact (Session.ensureSegment?_frame hensured).2.2
          · simp

/-- The reader keeps to the recital when it has a message to send. -/
theorem Recites.send (hrecites : playback.Recites recital ending) {message : Message}
    {number : Nat} {lines : List ScriptLine}
    (hphase : playback.phase = .sending message number lines) :
    playback.read.Recites recital ending := by
  have hcourse := hrecites.course (by simp [hphase])
  have hgoes : playback.phase.isEnded = false := by
    rw [hphase]
    rfl
  have hclients (envelope : Envelope) := (playback.exchange.post_frame envelope).2.2
  cases hquestion : message.action.isQuery with
  | false =>
    refine hrecites.read_on hgoes (hcourse.submit hphase hquestion) ?_ ?_ ?_
    all_goals simp [read_of_command hphase hquestion, hphase, Phase.outline,
      Exchange.call_submit_eq_post, hclients]
  | true =>
    cases hexit : playback.exchange.session.exit with
    | none =>
      refine hrecites.read_on hgoes (hcourse.ask hphase hquestion hexit) ?_ ?_ ?_
      all_goals simp [read_of_question hphase hquestion hexit, hphase, Phase.outline,
        Exchange.call_query_eq_post, hclients]
    | some exit =>
      have hgone := Option.isSome_of_mem hexit
      refine hrecites.read_on hgoes (hcourse.miss hphase hquestion hgone) ?_ ?_ ?_
      all_goals simp [read_of_miss hphase hquestion hgone, hphase, Phase.outline]

/-- The reader keeps to the recital. -/
theorem Recites.read (hrecites : playback.Recites recital ending) :
    playback.read.Recites recital ending := by
  cases hphase : playback.phase with
  | reading number lines => exact hrecites.read_line hphase
  | sending message number lines => exact hrecites.send hphase
  | waiting message position number lines =>
    cases hresolved : playback.exchange.resolved position with
    | none =>
      rw [read_of_unresolved hphase hresolved]
      exact hrecites
    | some answer =>
      refine hrecites.read_on (by rw [hphase]; rfl)
        ((hrecites.course (by simp [hphase])).answer hphase hresolved) ?_ ?_ ?_
      all_goals simp [read_of_answer hphase hresolved, hphase, Phase.outline]
  | ended | crashed =>
    rw [read_of_isEnded (by rw [hphase]; rfl)]
    exact hrecites

/-- Every step of a schedule keeps to the recital. -/
theorem Recites.perform (hrecites : playback.Recites recital ending) (turn : Turn) :
    (playback.perform turn).Recites recital ending := by
  cases turn with
  | reader => exact hrecites.read
  | loop => exact hrecites.loop

/-- When nothing more is read everything has been printed, and reading does not crash. -/
theorem Course.of_ended (hcourse : playback.Course recital) {reason : Except (List RunCause) Unit}
    (hphase : playback.phase = .ended reason) :
    recital.crashed = false ∧ playback.printed = recital.printed := by
  cases hcourse with
  | told hleads hwaits hqueue hreply hcomes => cases hphase.symm.trans hwaits
  | @going base store plain hleads hqueue hcommands hasked hcomes =>
    have hplain : playback.exchange.session.queue = plain := by
      rw [hqueue, hphase]
      exact List.append_nil _
    obtain ⟨after, -, hrest⟩ := hleads.exists_recital (by rw [hphase]; rfl) (by rwa [hplain])
    rw [← hcomes]
    rcases hrest with ⟨next, -, hrest⟩ | ⟨loop, hrest⟩
    · rw [hrest, hphase]
      simp [Phase.ahead, State.recital, Recital.after]
    · rw [hrest, hphase]
      simp [Phase.ahead, Store.recital, Recital.after]
  | stopped hverdict hgone hcount hasked hcomes =>
    rw [hphase] at hcomes
    rw [← hcomes]
    simp [Phase.ahead, Phase.pending, Phase.made, Store.recital, Recital.after, Message.unanswered]

/-- When the loop is gone and nothing more is read, the recital says how it stopped. -/
theorem Course.of_exit (hcourse : playback.Course recital) {reason : Except (List RunCause) Unit}
    (hphase : playback.phase = .ended reason) {exit : Exit}
    (hexit : playback.exchange.session.exit = some exit) : recital.loop = exit.outcome := by
  cases hcourse with
  | told hleads hwaits hqueue hreply hcomes => cases hphase.symm.trans hwaits
  | going plain hleads hqueue hcommands hasked hcomes => cases hleads.goes.2.symm.trans hexit
  | stopped hverdict hgone hcount hasked hcomes =>
    rw [← hcomes, ← hgone hexit, hphase]
    rfl

/-- A run that is over has printed the recital and ends as it does. -/
theorem Recites.of_result? (hrecites : playback.Recites recital ending)
    {result : Attempt (List RunCause) Unit} (hover : playback.result? = some result) :
    playback.printed = recital.printed ∧ result = recital.result ending := by
  cases hphase : playback.phase with
  | reading | sending | waiting => simp [result?, hphase] at hover
  | crashed =>
    obtain ⟨hcrash, hprinted⟩ := hrecites.crash hphase
    simp only [result?, hphase, Option.some.injEq] at hover
    unfold Recital.result
    rw [if_pos hcrash]
    exact ⟨hprinted.symm, hover.symm⟩
  | ended reason =>
    have hreads : playback.phase ≠ .crashed := by simp [hphase]
    have hends : ending = reason := by
      rw [← hrecites.ends hreads, hphase]
      rfl
    subst hends
    obtain ⟨hcrash, hprinted⟩ := (hrecites.course hreads).of_ended hphase
    refine ⟨hprinted, ?_⟩
    unfold Recital.result
    rw [hcrash, if_neg Bool.false_ne_true]
    cases ending with
    | error causes =>
      simp only [result?, hphase, Option.some.injEq] at hover
      exact hover.symm
    | ok =>
      simp only [result?, hphase] at hover
      obtain ⟨exit, hexit, rfl⟩ := Option.map_eq_some_iff.mp hover
      exact ((hrecites.course hreads).of_exit hphase hexit).symm

/-- What has been printed is the beginning of the recital. -/
theorem Recites.begins (hrecites : playback.Recites recital ending) :
    playback.printed <+: recital.printed := by
  by_cases hcrashed : playback.phase = .crashed
  · rw [(hrecites.crash hcrashed).2]
  · cases hrecites.course hcrashed with
    | going plain hleads hqueue hcommands hasked hcomes =>
      rw [← hcomes]
      exact List.prefix_append _ _
    | told hleads hwaits hqueue hreply hcomes =>
      rw [← hcomes, Recital.after, List.append_assoc]
      exact List.prefix_append _ _
    | stopped hverdict hgone hcount hasked hcomes =>
      rw [← hcomes, Recital.after, List.append_assoc]
      exact List.prefix_append _ _

/-- Reciting a script is steady. -/
theorem Recites.steady (recital : Recital) (ending : Except (List RunCause) Unit) :
    Steady (Recites recital ending) where
  step hrecites turn := hrecites.perform turn
  present hrecites hgoes := by simp [Session.hasClient, hrecites.present hgoes]
  gone hrecites hended := hrecites.gone hended
  count := by
    intro playback hrecites hgoes _ hverdict
    cases hrecites.course (Phase.ne_crashed hgoes) with
    | going plain hleads hqueue hcommands hasked hcomes => exact hleads.count
    | told hleads hwaits hqueue hreply hcomes => exact hleads.count
    | stopped hverdict' hgone hcount hasked hcomes => cases hverdict.symm.trans hverdict'
  asked := by
    intro playback hrecites message position number lines hphase
    cases hrecites.course (by simp [hphase]) with
    | going plain hleads hqueue hcommands hasked hcomes =>
      obtain ⟨-, rfl⟩ := hasked hphase
      rw [hleads.count, hqueue, hphase]
      simp [Phase.pending]
    | told hleads hwaits hqueue hreply hcomes =>
      cases hphase.symm.trans hwaits
      rw [hleads.count]
      exact Nat.lt_add_right _ (List.getElem?_eq_some_iff.mp hreply).1
    | stopped hverdict hgone hcount hasked hcomes => exact (hasked hphase).2.2

end SegmentCache.Playback
