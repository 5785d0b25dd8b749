import SegmentCache.Proofs.Playback
import SegmentCache.Proofs.ReadAhead

/-!
# Reciting a script

`State.recital` is what messages come to when each is handled before the segment of the next one is
made. Whoever plays a script may be ahead of this: segments are made, and messages wait in the
queue, that the loop has not come to. `Playback.Leads` says how far ahead a playback may be. The
loop handles the next message as in the recital all the same (`Leads.parallel`), and is then ahead
as before (`Leads.take`), provided that later messages tolerate what each one discards
(`State.safeAhead`). The reader crashes where the recital does (`State.recital_commands`).
-/

namespace SegmentCache

/-- What questions print when nobody answers them. -/
def Message.unanswered (messages : List Message) : List String :=
  (messages.filter (·.action.isQuery)).map (·.report false)

namespace Message

variable {messages : List Message}

/-- What the first of several messages print comes first. -/
theorem unanswered_append (earlier later : List Message) :
    unanswered (earlier ++ later) = unanswered earlier ++ unanswered later := by
  simp [unanswered]

/-- Messages that are no questions print nothing. -/
theorem unanswered_eq_nil (hcommands : ∀ message ∈ messages, message.action.isQuery = false) :
    unanswered messages = [] := by
  simpa [unanswered] using hcommands

end Message

/-- The messages before the next question. -/
def Message.beforeQuestion (messages : List Message) : List Message :=
  messages.takeWhile (!·.action.isQuery)

/-- What messages come to. -/
structure Recital where
  /-- The lines that are printed. -/
  printed : List String
  /-- What the run comes to as far as the loop goes. -/
  loop : Attempt (List RunCause) Unit
  /-- Whether reading crashes. -/
  crashed : Bool

/-- The recital when lines were printed before. -/
def Recital.after (recital : Recital) (printed : List String) : Recital :=
  { recital with printed := printed ++ recital.printed }

/-- Lines may have been printed in two stretches. -/
theorem Recital.after_after (recital : Recital) (earlier later : List String) :
    (recital.after later).after earlier = recital.after (earlier ++ later) := by
  simp [after]

/-- How a run ends: it crashes if reading does. When a line cannot be read it fails for that, and
otherwise if the loop failed or crashed. -/
def Recital.result (recital : Recital) (ending : Except (List RunCause) Unit) :
    Attempt (List RunCause) Unit :=
  if recital.crashed then .crashed
  else
    match ending with
    | .error causes => .error causes
    | .ok () => recital.loop

/-- What messages come to when the loop has stopped: no question is answered. -/
def Store.recital (store : Store) (loop : Attempt (List RunCause) Unit) : List Message → Recital
  | [] => { printed := [], loop, crashed := false }
  | message :: messages =>
    match store.ensure? message with
    | none => { printed := [], loop, crashed := true }
    | some store => (store.recital loop messages).after (Message.unanswered [message])

namespace State

/-- The state with the segment that a message names, if that is there or can be made. -/
def equip? (state : State) (message : Message) : Option State :=
  (state.store.ensure? message).map state.withStore

/-- What messages come to when each is handled before the segment of the next one is made. -/
def recital (state : State) : List Message → Recital
  | [] => { printed := [], loop := .ok (), crashed := false }
  | message :: messages =>
    match state.equip? message with
    | none => { printed := [], loop := .ok (), crashed := true }
    | some ready =>
      let next := (ready.handle message).state
      match ready.exitAt message with
      | some exit => next.store.recital exit.outcome messages
      | none => (next.recital messages).after ((ready.answer? message).toList.map message.report)

/-- The state after a message, if neither reading nor the loop stops at it. -/
def goesOn? (state : State) (message : Message) : Option State :=
  (state.equip? message).bind fun ready =>
    if (ready.exitAt message).isNone then some (ready.handle message).state else none

/-- The handles of the segments that messages copy to devices, up to one at which reading or the
loop stops. -/
def copied (state : State) : List Message → List String
  | [] => []
  | message :: messages =>
    (state.copies? message).toList ++
      match state.goesOn? message with
      | none => []
      | some next => next.copied messages

/-- Messages come to the same whether the segment under a handle is discarded before or after the
segments of those before the next question are made: none of these copies it, and they do not name
it, or it is not copied later, or all messages that name it give it one size. -/
def Tolerates (state : State) (messages : List Message) (handle : String) : Prop :=
  handle ∉ state.copied (Message.beforeQuestion messages) ∧
    (handle ∉ Message.handles (Message.beforeQuestion messages) ∨
      handle ∉ state.copied messages ∨
      ∀ message ∈ messages, ∀ other ∈ messages, message.handle? = some handle →
        other.handle? = some handle → message.source? = other.source?)

instance (state : State) (messages : List Message) (handle : String) :
    Decidable (state.Tolerates messages handle) :=
  inferInstanceAs (Decidable (_ ∧ (_ ∨ _ ∨ _)))

/-- Later messages crash the reader or not, whether it makes their segments before or after a message
is handled: no segment that the message discards is named before the next question, unless it is
never named as too long to be made, and the buffer that the message may leave is not named as too
long before the next question. -/
def CrashAlike (state : State) (message : Message) (messages : List Message) : Prop :=
  (∀ handle ∈ state.released message,
      handle ∈ Message.handles (Message.beforeQuestion messages) →
        handle ∉ Message.overlongHandles messages) ∧
    ∀ handle ∈ (state.buffer? message).toList,
      handle ∉ Message.overlongHandles (Message.beforeQuestion messages)

instance (state : State) (message : Message) (messages : List Message) :
    Decidable (state.CrashAlike message messages) :=
  inferInstanceAs (Decidable (_ ∧ _))

/-- Whether messages may be read ahead: up to the one at which reading or the loop stops, later
messages crash the reader alike and tolerate what is discarded. -/
def safeAhead (state : State) : List Message → Bool
  | [] => true
  | message :: messages =>
    (state.equip? message).isNone ||
      (decide (state.CrashAlike message messages) &&
        match state.goesOn? message with
        | none => true
        | some next =>
          decide (∀ handle ∈ state.released message, next.Tolerates messages handle) &&
            next.safeAhead messages)

variable {state : State} {message : Message} {messages : List Message}

/-- Fewer messages copy nothing else. -/
theorem copied_subset {earlier : List Message} (hearlier : earlier <+: messages) :
    state.copied earlier ⊆ state.copied messages := by
  induction earlier generalizing state messages with
  | nil => exact List.nil_subset _
  | cons message earlier ih =>
    obtain ⟨later, rfl⟩ := hearlier
    simp only [List.cons_append, copied]
    refine List.append_subset.mpr ⟨List.subset_append_left _ _, ?_⟩
    refine List.subset_append_of_subset_right _ ?_
    cases state.goesOn? message with
    | none => exact List.Subset.refl _
    | some next => exact ih (List.prefix_append _ _)

/-- What is copied is copied by earlier messages or named by later ones. -/
theorem copied_append {earlier later : List Message} {handle : String}
    (hcopied : handle ∈ state.copied (earlier ++ later)) :
    handle ∈ state.copied earlier ∨ handle ∈ Message.handles later := by
  have hnamed {state : State} {messages : List Message} (hcopied : handle ∈ state.copied messages) :
      handle ∈ Message.handles messages := by
    induction messages generalizing state with
    | nil => cases hcopied
    | cons message messages ih =>
      rw [Message.mem_handles_cons]
      rcases List.mem_append.mp hcopied with hfirst | hlater
      · exact Or.inl (handle?_of_copies? (Option.mem_toList.mp hfirst))
      · cases hnext : state.goesOn? message with
        | none => simp [hnext] at hlater
        | some next => exact Or.inr (ih (by simpa [hnext] using hlater))
  induction earlier generalizing state with
  | nil => exact Or.inr (hnamed hcopied)
  | cons message earlier ih =>
    simp only [List.cons_append, copied, List.mem_append] at hcopied ⊢
    rcases hcopied with hfirst | hlater
    · exact Or.inl (Or.inl hfirst)
    · cases hnext : state.goesOn? message with
      | none => simp [hnext] at hlater
      | some next =>
        rw [hnext] at hlater
        exact (ih hlater).imp_left Or.inr

/-- Answers do not depend on the store. -/
theorem answer?_withStore (state : State) (store : Store) (message : Message) :
    (state.withStore store).answer? message = state.answer? message := by
  cases message <;> rfl

/-- What is no question has no answer. -/
theorem answer?_of_command (state : State) (hcommand : message.action.isQuery = false) :
    state.answer? message = none := by
  rw [← Option.not_isSome_iff_eq_none, isSome_answer?, hcommand]
  simp

/-- The state with the segment that a message names, however long that is. -/
def ready (state : State) (message : Message) : State :=
  state.withStore (state.store.ensure message)

/-- A message finds its segment where it is there or can be made. -/
theorem equip?_eq_ready (haffords : state.store.Affords (message :: messages)) :
    state.equip? message = some (state.ready message) := by
  rw [equip?, haffords.head]
  rfl

/-- Making a segment does not take a handle from the counter. -/
theorem buffer?_ready (state : State) (message other : Message) :
    (state.ready message).buffer? other = state.buffer? other := by
  cases other with
  | putGpu offer =>
    simp only [buffer?, ready, withStore, Store.nextBuffer, (state.store.ensure_frame message).1]
  | _ => rfl

/-- Whether neither reading nor the loop stops at a message. -/
theorem goesOn?_eq_some (haffords : state.store.Affords (message :: messages))
    (hgoes : (state.ready message).exitAt message = none) :
    state.goesOn? message = some ((state.ready message).handle message).state := by
  simp [goesOn?, equip?_eq_ready haffords, hgoes]

/-- What messages come to after one at which neither reading nor the loop stops. -/
theorem recital_cons_of_goes (haffords : state.store.Affords (message :: messages))
    (hgoes : (state.ready message).exitAt message = none) (later : List Message) :
    state.recital (message :: later) =
      (((state.ready message).handle message).state.recital later).after
        ((state.answer? message).toList.map message.report) := by
  simp only [recital, equip?_eq_ready haffords, hgoes]
  rw [ready, answer?_withStore]

/-- What messages come to after one at which the loop stops. -/
theorem recital_cons_of_stop (haffords : state.store.Affords (message :: messages)) {exit : Exit}
    (hexit : (state.ready message).exitAt message = some exit) (later : List Message) :
    state.recital (message :: later) =
      ((state.ready message).handle message).state.store.recital exit.outcome later := by
  simp only [recital, equip?_eq_ready haffords, hexit]

/-- What it means that messages may be read ahead. -/
theorem crashAlike_of_safeAhead (haffords : state.store.Affords (message :: messages))
    {later : List Message} (hsafe : state.safeAhead (message :: later) = true) :
    state.CrashAlike message later ∧
      ((state.ready message).exitAt message = none →
        (∀ handle ∈ state.released message,
          ((state.ready message).handle message).state.Tolerates later handle) ∧
        ((state.ready message).handle message).state.safeAhead later = true) := by
  rw [safeAhead, equip?_eq_ready haffords, Option.isNone_some, Bool.false_or, Bool.and_eq_true,
    decide_eq_true_eq] at hsafe
  refine ⟨hsafe.1, fun hgoes => ?_⟩
  have hnext := hsafe.2
  rw [goesOn?_eq_some haffords hgoes] at hnext
  simpa only [Bool.and_eq_true, decide_eq_true_eq] using hnext

end State

/-- The message whose segment was made and that is not sent yet. -/
def Phase.made : Phase → List Message
  | .sending message _ _ => [message]
  | _ => []

/-- What is not sent yet is that message and those whose segments have not been made. -/
theorem Phase.outline_eq (phase : Phase) : phase.outline.1 = phase.made ++ phase.ahead := by
  cases phase <;> rfl

/-- Whoever reads a script waits for one answer or has made one segment, not both. -/
theorem Phase.length_pending_made (phase : Phase) : (phase.pending ++ phase.made).length ≤ 1 := by
  cases phase <;> simp [pending, made]

namespace Message

/-- A question names no segment. -/
theorem isQuery_of_handle? {message : Message} {handle : String}
    (hnamed : message.handle? = some handle) : message.action.isQuery = false := by
  cases message with
  | put | putGpu | replace => rfl
  | get | remove | lock | unlock | isLocked | isInCache | endProfiling | quit => cases hnamed

/-- Only the last message may be a question if at most one comes after messages that are none. -/
theorem commands_dropLast {messages last : List Message}
    (hcommands : ∀ message ∈ messages, message.action.isQuery = false) (hlast : last.length ≤ 1) :
    ∀ message ∈ (messages ++ last).dropLast, message.action.isQuery = false := by
  intro message hmessage
  cases last with
  | nil =>
    rw [List.append_nil] at hmessage
    exact hcommands message (List.mem_of_mem_dropLast hmessage)
  | cons question last =>
    obtain rfl : last = [] := List.length_eq_zero_iff.mp (by simpa using hlast)
    rw [List.dropLast_concat] at hmessage
    exact hcommands message hmessage

/-- Of messages that come first, all but a question at the end come before the next question. -/
theorem exists_beforeQuestion {ahead messages : List Message} (hahead : ahead <+: messages)
    (hcommands : ∀ message ∈ ahead.dropLast, message.action.isQuery = false) :
    ∃ commands questions, ahead = commands ++ questions ∧ handles questions = [] ∧
      commands <+: beforeQuestion messages := by
  have hfront {commands : List Message} (hfront : commands <+: messages)
      (hcommands : ∀ message ∈ commands, message.action.isQuery = false) :
      commands <+: beforeQuestion messages := by
    obtain ⟨later, rfl⟩ := hfront
    rw [beforeQuestion, List.takeWhile_append_of_pos (by simpa using hcommands)]
    exact List.prefix_append _ _
  rcases List.eq_nil_or_concat' ahead with rfl | ⟨commands, last, rfl⟩
  · exact ⟨[], [], rfl, rfl, List.nil_prefix⟩
  · rw [List.dropLast_concat] at hcommands
    cases hquestion : last.action.isQuery with
    | true =>
      have hunnamed : last.handle? = none := by
        cases hhandle : last.handle? with
        | none => rfl
        | some handle => cases (isQuery_of_handle? hhandle).symm.trans hquestion
      refine ⟨commands, [last], rfl, by simp [handles, hunnamed], hfront ?_ hcommands⟩
      exact (List.prefix_append _ _).trans hahead
    | false =>
      refine ⟨commands ++ [last], [], (List.append_nil _).symm, rfl, hfront hahead ?_⟩
      simpa [or_imp, forall_and, hquestion] using hcommands

/-- What messages name that come first, but for a question at the end, is named before the next
question. -/
theorem mem_handles_beforeQuestion {ahead later : List Message}
    (hcommands : ∀ message ∈ ahead.dropLast, message.action.isQuery = false) {handle : String}
    (hnamed : handle ∈ handles ahead) : handle ∈ handles (beforeQuestion (ahead ++ later)) := by
  obtain ⟨commands, questions, rfl, hnone, hbefore⟩ :=
    exists_beforeQuestion (List.prefix_append ahead later) hcommands
  rw [handles, List.filterMap_append, ← handles, ← handles, hnone, List.append_nil] at hnamed
  exact (hbefore.filterMap _).subset hnamed

/-- What is named as too long is named. -/
theorem mem_handles_of_overlong {messages : List Message} {handle : String}
    (hlong : handle ∈ overlongHandles messages) : handle ∈ handles messages := by
  obtain ⟨message, hmessage, -, hnamed⟩ := mem_overlongHandles.mp hlong
  exact List.mem_filterMap.mpr ⟨message, hmessage, hnamed⟩

/-- Handles are named as too long by earlier messages or by later ones. -/
theorem overlongHandles_append (earlier later : List Message) :
    overlongHandles (earlier ++ later) = overlongHandles earlier ++ overlongHandles later := by
  simp [overlongHandles, handles]

end Message

namespace Store

variable {store other : Store} {messages earlier : List Message}

/-- Where the segments of the first messages can be made, reading crashes later if at all. -/
theorem recital_append (haffords : store.Affords earlier) (loop : Attempt (List RunCause) Unit)
    (later : List Message) :
    store.recital loop (earlier ++ later) =
      ((store.ensureAll earlier).recital loop later).after (Message.unanswered earlier) := by
  induction earlier generalizing store with
  | nil => rfl
  | cons message earlier ih =>
    rw [List.cons_append, recital, haffords.head]
    dsimp only
    rw [ih haffords.tail, Recital.after_after, ← Message.unanswered_append]
    rfl

/-- What messages come to depends on the store only in which segments are there that they name as
too long to be made. -/
theorem recital_congr (loop : Attempt (List RunCause) Unit)
    (hsame : ∀ {handle}, handle ∈ Message.overlongHandles messages →
      store.contains handle = other.contains handle) :
    store.recital loop messages = other.recital loop messages := by
  induction messages generalizing store other with
  | nil => rfl
  | cons message messages ih =>
    have halike : store.ensure? message = none ↔ other.ensure? message = none := by
      rw [ensure?_eq_none_iff, ensure?_eq_none_iff]
      refine and_congr_right fun hlong => exists_congr fun handle => and_congr_right fun hnamed => ?_
      rw [hsame (Message.mem_overlongHandles.mpr ⟨message, List.mem_cons_self, hlong, hnamed⟩)]
    unfold recital
    by_cases hnone : store.ensure? message = none
    · rw [hnone, halike.mp hnone]
    · rw [ensure?_eq_ensure hnone, ensure?_eq_ensure (mt halike.mpr hnone)]
      dsimp only
      rw [ih fun {handle} hlong => ?_]
      rw [contains_ensure, contains_ensure, hsame]
      obtain ⟨later, hlater, hfar⟩ := Message.mem_overlongHandles.mp hlong
      exact Message.mem_overlongHandles.mpr ⟨later, List.mem_cons_of_mem _ hlater, hfar⟩

end Store

namespace State

variable {state base : State} {message : Message} {earlier later : List Message}

/-- Of segments that messages name as too long, those that were read ahead and those that were not
are kept apart. -/
theorem CrashAlike.not_mem_handles (halike : state.CrashAlike message (earlier ++ later))
    (hcommands : ∀ message ∈ earlier.dropLast, message.action.isQuery = false) {handle : String}
    (hgone : handle ∈ state.released message)
    (hlong : handle ∈ Message.overlongHandles (earlier ++ later)) :
    handle ∉ Message.handles earlier := fun hnamed =>
  halike.1 handle hgone (Message.mem_handles_beforeQuestion hcommands hnamed) hlong

/-- When a message was handled, segments that could be made still can be. -/
theorem CrashAlike.affords (halike : state.CrashAlike message (earlier ++ later))
    (hcommands : ∀ message ∈ earlier.dropLast, message.action.isQuery = false)
    {edit : String → Option (Option Segment)} {store after : Store}
    (hgone : ∀ {handle}, edit handle = some none → handle ∈ state.released message)
    (hedited : Store.Edited edit store after) (haffords : store.Affords earlier) :
    after.Affords earlier := by
  refine haffords.edited hedited fun {handle} hlong hreleased => ?_
  refine halike.not_mem_handles hcommands (hgone hreleased) ?_ (Message.mem_handles_of_overlong hlong)
  rw [Message.overlongHandles_append]
  exact List.mem_append_left _ hlong

/-- When a message was handled, what was not there is not there either, if it is named as too long
before the next question. -/
theorem CrashAlike.not_contains (halike : state.CrashAlike message later)
    {edit : String → Option (Option Segment)} {store after : Store}
    (hmade : ∀ {handle segment}, edit handle = some (some segment) →
      state.buffer? message = some handle)
    (hedited : Store.Edited edit store after) {handle : String}
    (hlong : handle ∈ Message.overlongHandles (Message.beforeQuestion later))
    (habsent : store.contains handle = false) : after.contains handle = false := by
  rw [Store.contains_eq_isSome] at habsent ⊢
  rw [hedited handle]
  cases hedit : edit handle with
  | none => exact habsent
  | some change =>
    cases change with
    | none => rfl
    | some segment => exact absurd hlong (halike.2 handle (Option.mem_toList.mpr (hmade hedit)))

/-- Messages that are no questions and whose segments can be made print nothing and do not crash the
reader. What is not there afterwards would not be there either if all their segments were made
first. -/
theorem recital_commands (hunlimited : base.store.limit = none)
    (haffords : base.store.Affords earlier)
    (hcommands : ∀ message ∈ earlier, message.action.isQuery = false)
    (hsafe : base.safeAhead (earlier ++ later) = true) :
    ∃ store : Store,
      (∀ {handle}, handle ∈ Message.overlongHandles (Message.beforeQuestion later) →
        (base.store.ensureAll earlier).contains handle = false → store.contains handle = false) ∧
      ((∃ next : State, next.store = store ∧
          base.recital (earlier ++ later) = next.recital later) ∨
        ∃ loop, base.recital (earlier ++ later) = store.recital loop later) := by
  induction earlier generalizing base with
  | nil => exact ⟨base.store, fun _ habsent => habsent, Or.inl ⟨base, rfl, rfl⟩⟩
  | cons message earlier ih =>
    obtain ⟨hcommand, hcommands'⟩ := List.forall_mem_cons.mp hcommands
    have hbefore : Message.beforeQuestion (earlier ++ later) =
        earlier ++ Message.beforeQuestion later :=
      List.takeWhile_append_of_pos (by simpa using hcommands')
    rw [List.cons_append] at hsafe
    obtain ⟨halike, hnext⟩ := crashAlike_of_safeAhead haffords hsafe
    obtain ⟨edit, hgone, hmade, hedited, hlimit⟩ := base.exists_edit message
      ((base.store.ensure_frame message).2.trans hunlimited)
    rw [← ready] at hedited
    have haffords' : ((base.ready message).handle message).state.store.Affords earlier :=
      halike.affords (fun other hother => hcommands' other (List.mem_of_mem_dropLast hother)) hgone
        hedited haffords.tail
    have habsent {handle : String}
        (hlong : handle ∈ Message.overlongHandles (Message.beforeQuestion later))
        (hnone : (base.store.ensureAll (message :: earlier)).contains handle = false) :
        (((base.ready message).handle message).state.store.ensureAll earlier).contains handle =
          false := by
      have hparts : ((base.store.ensure message).ensureAll earlier).contains handle = false := hnone
      rw [Store.contains_ensureAll, Bool.or_eq_false_iff] at hparts ⊢
      refine ⟨halike.not_contains ?_ hedited ?_ hparts.1, hparts.2⟩
      · exact fun hedit => (base.buffer?_ready message message).symm.trans (hmade hedit)
      · rw [hbefore, Message.overlongHandles_append]
        exact List.mem_append_right _ hlong
    cases hexit : (base.ready message).exitAt message with
    | some exit =>
      refine ⟨_, habsent, Or.inr ⟨exit.outcome, ?_⟩⟩
      rw [List.cons_append, recital_cons_of_stop haffords hexit, Store.recital_append haffords',
        Message.unanswered_eq_nil hcommands']
      rfl
    | none =>
      obtain ⟨store, hstore, hrest⟩ := ih hlimit haffords' hcommands' (hnext hexit).2
      refine ⟨store, fun hlong hnone => hstore hlong (habsent hlong hnone), ?_⟩
      have hfirst : base.recital (message :: earlier ++ later) =
          ((base.ready message).handle message).state.recital (earlier ++ later) := by
        rw [List.cons_append, recital_cons_of_goes haffords hexit, base.answer?_of_command hcommand]
        rfl
      rw [hfirst]
      exact hrest

end State

namespace Exchange

variable {exchange : Exchange}

/-- Putting an envelope into the queue while the loop is there. -/
theorem post_of_open (hopen : exchange.session.exit = none) (envelope : Envelope) :
    exchange.post envelope =
      { exchange with
        session := { exchange.session with queue := exchange.session.queue ++ [envelope] }
        arrived := exchange.arrived ++ [envelope] } := by
  simp [post, Session.isConnected, hopen]

/-- Putting an envelope into the queue changes neither what the loop has decided nor what it has
replied. -/
theorem post_replies (exchange : Exchange) (envelope : Envelope) :
    (exchange.post envelope).verdict = exchange.verdict ∧
      (exchange.post envelope).replies = exchange.replies ∧
      exchange.arrived.length ≤ (exchange.post envelope).arrived.length := by
  unfold post
  split <;> simp

/-- What the loop does with the oldest message. -/
theorem loop_take (hverdict : exchange.verdict = none)
    (hopen : exchange.session.exit = none) {envelope : Envelope} {queue : List Envelope}
    (hqueue : exchange.session.queue = envelope :: queue) :
    exchange.loop =
      { exchange with
        session := { exchange.session with
          state := (exchange.session.state.handle envelope.message).state, queue }
        verdict := exchange.session.state.exitAt envelope.message
        replies := exchange.replies ++
          [if envelope.awaited then exchange.session.state.answer? envelope.message
            else none] } := by
  simp only [loop, hverdict, hopen, hqueue, State.dispatch_state, State.dispatch_exit,
    State.dispatch_replies]

end Exchange

namespace Playback

/-- The messages in the queue. -/
def queued (playback : Playback) : List Message :=
  playback.exchange.session.queue.map Envelope.message

/-- The messages that have not been handled. -/
def unhandled (playback : Playback) : List Message :=
  playback.queued ++ playback.phase.outline.1

/-- The messages that have not been handled and whose segments were made. -/
def prepared (playback : Playback) : List Message :=
  playback.queued ++ playback.phase.made

/-- What has not been handled was prepared or is not read yet. -/
theorem unhandled_eq (playback : Playback) :
    playback.unhandled = playback.prepared ++ playback.phase.ahead := by
  rw [unhandled, prepared, Phase.outline_eq, List.append_assoc]

/-- A playback with a loop that goes on is ahead of a state, from which the messages that have not
been handled are recited, by segments that were made in the store. -/
structure Leads (playback : Playback) (base : State) (store : Store) : Prop where
  /-- The loop goes on. -/
  goes : playback.exchange.verdict = none ∧ playback.exchange.session.exit = none
  /-- What has arrived was taken or waits in the queue. -/
  count : playback.exchange.arrived.length =
    playback.exchange.replies.length + playback.exchange.session.queue.length
  /-- The cache is that of the state, on the store. -/
  state : playback.exchange.session.state = base.withStore store
  /-- The store would hand out the same handles as that of the state. -/
  abreast : store.Abreast base.store
  /-- What prepared messages copy is as they would find it in the recital. -/
  ready : ∀ {handle}, handle ∈ base.copied playback.prepared →
    store.get? handle = (base.store.ensureAll playback.prepared).get? handle
  /-- What is copied at all will be when all messages are read. -/
  later : ∀ {handle}, handle ∈ base.copied playback.unhandled →
    (store.ensureAll playback.phase.ahead).get? handle =
      (base.store.ensureAll playback.unhandled).get? handle
  /-- The segments of prepared messages can be made in the recital, too. -/
  affords : base.store.Affords playback.prepared
  /-- What is named as too long later is there if it would be in the recital. -/
  there : ∀ {handle}, handle ∈ Message.overlongHandles playback.phase.ahead →
    store.contains handle = (base.store.ensureAll playback.prepared).contains handle
  /-- The messages may be read ahead. -/
  safe : base.safeAhead playback.unhandled = true

variable {playback : Playback} {base : State} {store : Store}

/-- A reader that changes neither the cache nor what is to be handled leaves a playback ahead. -/
theorem Leads.congr (hleads : playback.Leads base store) {next : Playback}
    (hgoes : next.exchange.verdict = none ∧ next.exchange.session.exit = none)
    (hcount : next.exchange.arrived.length =
      next.exchange.replies.length + next.exchange.session.queue.length)
    (hstate : next.exchange.session.state = playback.exchange.session.state)
    (hprepared : next.prepared = playback.prepared)
    (hunhandled : next.unhandled = playback.unhandled) : next.Leads base store := by
  have hahead : next.phase.ahead = playback.phase.ahead := by
    have hparts := hunhandled
    rw [unhandled_eq, unhandled_eq, hprepared] at hparts
    exact List.append_cancel_left hparts
  refine ⟨hgoes, hcount, hstate.trans hleads.state, hleads.abreast, ?_, ?_, ?_, ?_, ?_⟩
  · rw [hprepared]
    exact hleads.ready
  · rw [hunhandled, hahead]
    exact hleads.later
  · rw [hprepared]
    exact hleads.affords
  · rw [hprepared, hahead]
    exact hleads.there
  · rw [hunhandled]
    exact hleads.safe

/-- A segment that an earlier message discards will be made by later ones as if it had been
discarded before any of them was read, if they tolerate it and it is copied at all. -/
theorem madeBy?_of_tolerates {handle : String} {prepared ahead : List Message}
    (htolerates : base.Tolerates (prepared ++ ahead) handle)
    (hcommands : ∀ message ∈ prepared.dropLast, message.action.isQuery = false)
    (hcopied : handle ∈ base.copied (prepared ++ ahead)) :
    handle ∉ base.copied prepared ∧
      Message.madeBy? ahead handle = Message.madeBy? (prepared ++ ahead) handle := by
  obtain ⟨commands, questions, rfl, hnone, hbefore⟩ :=
    Message.exists_beforeQuestion (List.prefix_append prepared ahead) hcommands
  have huncopied : handle ∉ base.copied (commands ++ questions) := by
    intro hcopied
    rcases State.copied_append hcopied with hcopied | hnamed
    · exact htolerates.1 (State.copied_subset hbefore hcopied)
    · rw [hnone] at hnamed
      cases hnamed
  refine ⟨huncopied, ?_⟩
  rw [Message.madeBy?, Message.madeBy?, List.findSome?_append, ← Message.madeBy?,
    ← Message.madeBy?]
  by_cases hnamed : handle ∈ Message.handles (commands ++ questions)
  · -- Then those who name it later make the same segment.
    have hnamed' : handle ∈ Message.handles commands := by
      rw [Message.handles, List.filterMap_append, List.mem_append] at hnamed
      refine hnamed.resolve_right fun hquestion => ?_
      rw [show questions.filterMap Message.handle? = [] from hnone] at hquestion
      cases hquestion
    have hlater := (State.copied_append hcopied).resolve_left huncopied
    obtain ⟨message, hmessage, hhandle, hmade⟩ := Message.exists_madeBy? hnamed
    obtain ⟨other, hother, hhandle', hmade'⟩ := Message.exists_madeBy? hlater
    have hsource : message.source? = other.source? := by
      rcases htolerates.2 with hunnamed | huncopied | hsame
      · exact absurd ((hbefore.filterMap _).subset hnamed') hunnamed
      · exact absurd hcopied huncopied
      · exact hsame message (List.mem_append_left _ hmessage) other
          (List.mem_append_right _ hother) hhandle hhandle'
    have hsame : message.makes? handle = other.makes? handle := by
      rw [Message.makes?, Message.makes?, hsource]
    rw [hmade, hmade', hsame, Option.or_self]
  · rw [Message.madeBy?_eq_none hnamed, Option.none_or]

/-- The loop handles the oldest message as in the recital. -/
theorem Leads.parallel (hleads : playback.Leads base store) {message : Message}
    {messages : List Message} (hprepared : playback.prepared = message :: messages) :
    State.Parallel store (base.store.ensure message) (base.released message)
      (fun handle => (base.ready message).buffer? message = some handle)
      (playback.exchange.session.state.handle message) ((base.ready message).handle message) := by
  rw [hleads.state]
  refine State.handle_parallel (hleads.abreast.symm.ensure message).symm ?_
  intro handle hcopies
  have hready := @hleads.ready handle
  have hnamed : handle ∈ Message.handles [message] :=
    Message.mem_handles_cons.mpr (Or.inl (State.handle?_of_copies? hcopies))
  rw [hprepared, State.copied, hcopies] at hready
  exact (hready (List.mem_append_left _ (List.mem_singleton.mpr rfl))).trans
    (base.store.get?_ensureAll_append hnamed messages)

/-- It stops there as in the recital. -/
theorem Leads.exitAt (hleads : playback.Leads base store) {message : Message}
    {messages : List Message} (hprepared : playback.prepared = message :: messages) :
    playback.exchange.session.state.exitAt message = (base.ready message).exitAt message := by
  obtain ⟨hresult, after, edit, hafter, -⟩ := hleads.parallel hprepared
  rw [State.exitAt, State.exitAt, hresult, hafter]
  rfl

/-- When the loop has handled a message, the segments of those that are prepared can still be made
in the recital, and what is named as too long later is there if it would be in the recital. -/
theorem Leads.handled (hleads : playback.Leads base store) {message : Message}
    {messages : List Message} (hprepared : playback.prepared = message :: messages)
    (hcommands : ∀ other ∈ messages.dropLast, other.action.isQuery = false) :
    ((base.ready message).handle message).state.store.Affords messages ∧
      ∀ {handle}, handle ∈ Message.overlongHandles playback.phase.ahead →
        (playback.exchange.session.state.handle message).state.store.contains handle =
          (((base.ready message).handle message).state.store.ensureAll messages).contains
            handle := by
  obtain ⟨-, after, edit, hafter, -, hgone, -, hedited, hedited'⟩ := hleads.parallel hprepared
  have haffords := hleads.affords
  have hthere := @hleads.there
  have hsafe := hleads.safe
  rw [unhandled_eq, hprepared, List.cons_append] at hsafe
  rw [hprepared] at haffords hthere
  obtain ⟨halike, -⟩ := State.crashAlike_of_safeAhead haffords hsafe
  refine ⟨halike.affords hcommands hgone hedited' haffords.tail, fun {handle} hlong => ?_⟩
  have hsame : store.contains handle =
      ((base.store.ensure message).ensureAll messages).contains handle := hthere hlong
  have hstore : (playback.exchange.session.state.handle message).state.store = after := by
    rw [hafter]
    rfl
  rw [Store.contains_ensureAll, Store.contains_eq_isSome, Store.contains_eq_isSome] at hsame
  rw [hstore, Store.contains_ensureAll, Store.contains_eq_isSome, Store.contains_eq_isSome,
    hedited' handle, hedited handle]
  cases hedit : edit handle with
  | none => exact hsame
  | some change =>
    cases change with
    | some segment => simp
    | none =>
      -- Nobody who was read ahead names what was discarded.
      have hunnamed := halike.not_mem_handles hcommands (hgone hedit)
        (by rw [Message.overlongHandles_append]; exact List.mem_append_right _ hlong)
      simp [Message.madeBy?_eq_none hunnamed]

/-- If the loop goes on after a message, it is ahead of the state that the message leads to. -/
theorem Leads.take (hleads : playback.Leads base store) {envelope : Envelope}
    {queue : List Envelope} (hqueue : playback.exchange.session.queue = envelope :: queue)
    (hcommands : ∀ message ∈ (queue.map Envelope.message ++ playback.phase.made).dropLast,
      message.action.isQuery = false)
    (hgoes : (base.ready envelope.message).exitAt envelope.message = none) :
    ∃ after, (playback.perform .loop).Leads
      ((base.ready envelope.message).handle envelope.message).state after := by
  have hprepared : playback.prepared =
      envelope.message :: (queue.map Envelope.message ++ playback.phase.made) := by
    simp [prepared, queued, hqueue]
  obtain ⟨-, after, edit, hafter, habreast, hgone, -, hedited, hedited'⟩ :=
    hleads.parallel hprepared
  obtain ⟨haffords', hthere'⟩ := hleads.handled hprepared hcommands
  obtain ⟨hverdict, hopen⟩ := hleads.goes
  have hexit := (hleads.exitAt hprepared).trans hgoes
  have hloop := Exchange.loop_take hverdict hopen hqueue
  have hready := @hleads.ready
  have hlater := @hleads.later
  have hsafe := hleads.safe
  have haffords := hleads.affords
  have hcount := hleads.count
  rw [unhandled_eq] at hlater hsafe
  rw [hprepared] at hready hlater hsafe haffords
  obtain ⟨-, hnext⟩ := State.crashAlike_of_safeAhead haffords hsafe
  obtain ⟨htolerates, hsafe'⟩ := hnext hgoes
  simp only [List.cons_append, State.copied, State.goesOn?_eq_some haffords hgoes] at hready hlater
  have hmade {handle : String} (hcopied) (hreleased : edit handle = some none) :=
    @madeBy?_of_tolerates _ handle _ _ (htolerates handle (hgone hreleased)) hcommands hcopied
  have hunhandled : (playback.perform .loop).unhandled =
      queue.map Envelope.message ++ playback.phase.made ++ playback.phase.ahead := by
    rw [perform, hloop, unhandled_eq]
    rfl
  have hprepared' : (playback.perform .loop).prepared =
      queue.map Envelope.message ++ playback.phase.made := by
    rw [perform, hloop]
    rfl
  refine ⟨after, ?_, ?_, ?_, habreast, ?_, ?_, ?_, ?_, ?_⟩
  · rw [perform, hloop]
    exact ⟨hexit, hopen⟩
  · rw [hqueue, List.length_cons] at hcount
    rw [perform, hloop]
    simp only [List.length_append, List.length_singleton]
    omega
  · rw [perform, hloop]
    exact hafter
  · intro handle hcopied
    rw [hprepared'] at hcopied ⊢
    have hcopied' := State.copied_subset (List.prefix_append _ playback.phase.ahead) hcopied
    exact @Store.Edited.get?_ensureAll _ _ _ _ _ hedited hedited' [] _ handle
      (hready (List.mem_append_right _ hcopied))
      fun hreleased => absurd hcopied (hmade hcopied' hreleased).1
  · intro handle hcopied
    rw [hunhandled] at hcopied ⊢
    exact hedited.get?_ensureAll hedited' (hlater (List.mem_append_right _ hcopied))
      fun hreleased => (hmade hcopied hreleased).2
  · rw [hprepared']
    exact haffords'
  · intro handle hlong
    rw [hprepared', ← hthere' hlong, hafter]
    rfl
  · rw [hunhandled]
    exact hsafe'

/-- Making the segment of the next message keeps a playback ahead. -/
theorem Leads.ensure (hleads : playback.Leads base store) {message : Message}
    {messages : List Message} {next : Playback}
    (hahead : playback.phase.ahead = message :: messages)
    (hahead' : next.phase.ahead = messages)
    (hprepared : next.prepared = playback.prepared ++ [message])
    (hthere : ∀ {handle}, message.isOverlong = true → message.handle? = some handle →
      store.contains handle = true)
    (hgoes : next.exchange.verdict = none ∧ next.exchange.session.exit = none)
    (hcount : next.exchange.arrived.length =
      next.exchange.replies.length + next.exchange.session.queue.length)
    (hstate : next.exchange.session.state = base.withStore (store.ensure message)) :
    next.Leads base (store.ensure message) := by
  have hunhandled : next.unhandled = playback.unhandled := by
    rw [unhandled_eq, unhandled_eq, hprepared, hahead, hahead', List.append_assoc]
    rfl
  have hlater {handle : String} (hcopied : handle ∈ base.copied playback.unhandled) :
      ((store.ensure message).ensureAll messages).get? handle =
        (base.store.ensureAll playback.unhandled).get? handle := by
    rw [← hleads.later hcopied, hahead]
    rfl
  have hlast : base.store.ensureAll (playback.prepared ++ [message]) =
      (base.store.ensureAll playback.prepared).ensure message := by
    simp [Store.ensureAll]
  refine ⟨hgoes, hcount, hstate, hleads.abreast.ensure message, ?_, ?_, ?_, ?_, ?_⟩
  · intro handle hcopied
    rw [hprepared] at hcopied ⊢
    rcases State.copied_append hcopied with hearlier | hnamed
    · rw [hlast, Store.get?_ensure, Store.get?_ensure, hleads.ready hearlier]
    · -- The message that copies the segment has just been read.
      have hwhole : handle ∈ base.copied playback.unhandled := by
        rw [← hunhandled, unhandled_eq, hprepared]
        exact State.copied_subset (List.prefix_append _ _) hcopied
      have hnamed' : handle ∈ Message.handles (playback.prepared ++ [message]) := by
        rw [Message.handles, List.filterMap_append]
        exact List.mem_append_right _ hnamed
      have hsame := hlater hwhole
      rw [← hunhandled, unhandled_eq, hprepared, base.store.get?_ensureAll_append hnamed'] at hsame
      rw [← hsame]
      exact (store.get?_ensureAll_append hnamed messages).symm
  · rw [hunhandled, hahead']
    exact hlater
  · rw [hprepared]
    refine hleads.affords.concat fun {handle} hlong hnamed => ?_
    rw [← hleads.there, hthere hlong hnamed]
    rw [hahead]
    exact Message.mem_overlongHandles.mpr ⟨message, List.mem_cons_self, hlong, hnamed⟩
  · intro handle hlong
    have hlong' : handle ∈ Message.overlongHandles playback.phase.ahead := by
      rw [hahead, ← List.singleton_append, Message.overlongHandles_append]
      exact List.mem_append_right _ (hahead' ▸ hlong)
    rw [hprepared, hlast, Store.contains_ensure, Store.contains_ensure, hleads.there hlong']
  · rw [hunhandled]
    exact hleads.safe

/-- When all that was read is in the queue, and no question among it, the recital goes on with what
is not read yet, on some store. What is not there and is named as too long before the next question
is not there in that store either. -/
theorem Leads.exists_recital (hleads : playback.Leads base store)
    (hmade : playback.phase.made = [])
    (hcommands : ∀ envelope ∈ playback.exchange.session.queue,
      envelope.message.action.isQuery = false) :
    ∃ after : Store,
      (∀ {handle}, handle ∈ Message.overlongHandles (Message.beforeQuestion playback.phase.ahead) →
        store.contains handle = false → after.contains handle = false) ∧
      ((∃ next : State, next.store = after ∧
          base.recital playback.unhandled = next.recital playback.phase.ahead) ∨
        ∃ loop, base.recital playback.unhandled = after.recital loop playback.phase.ahead) := by
  have hcommands' : ∀ message ∈ playback.prepared, message.action.isQuery = false := by
    rw [prepared, hmade, List.append_nil]
    simpa [queued] using hcommands
  have hsafe := hleads.safe
  rw [unhandled_eq] at hsafe ⊢
  obtain ⟨after, hafter, hrest⟩ :=
    State.recital_commands hleads.abreast.unlimited.2 hleads.affords hcommands' hsafe
  refine ⟨after, fun hlong habsent => hafter hlong ?_, hrest⟩
  rw [← hleads.there, habsent]
  exact (((List.takeWhile_prefix _).filter _).filterMap _).subset hlong

end Playback

end SegmentCache
