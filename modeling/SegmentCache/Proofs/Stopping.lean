import SegmentCache.Session
import SegmentCache.Proofs.Insertions
import SegmentCache.Proofs.Placements
import SegmentCache.Proofs.Runs

/-!
# Where a sequence of messages stops

A loop that handles messages in turn stops at the first one that asks it to, that fails or that
crashes. Up to there it does what handling the messages one after the other does, and it answers each question
from the state that the earlier messages have led to.
-/

namespace SegmentCache.State

/-- The answer to a question. Messages of other kinds have none. -/
def answer? (state : State) : Message → Option Bool
  | .isLocked fileName => some (state.isLocked fileName)
  | .isInCache fileName => some (state.isInCache fileName)
  | _ => none

/-- Why the loop stops at a message, if it does: the message asks it to, fails or crashes. -/
def exitAt (state : State) (message : Message) : Option Exit :=
  match (state.handle message).result with
  | .error failure => some (.failed failure)
  | .crashed => some .crashed
  | .ok _ =>
    if message = .quit then some (.quit (state.handle message).state.summary) else none

/-- Why the loop stops in the course of messages, if it does. -/
def exitOf (state : State) : List Message → Option Exit
  | [] => none
  | message :: messages =>
    match state.exitAt message with
    | some exit => some exit
    | none => (state.handle message).state.exitOf messages

/-- The messages up to the first one at which the loop stops, and all of them if there is none. -/
def untilStop (state : State) : List Message → List Message
  | [] => []
  | message :: messages =>
    match state.exitAt message with
    | some _ => [message]
    | none => message :: (state.handle message).state.untilStop messages

/-- The answer that a question in a sequence of messages gets. What is not a question and what
comes after the loop has stopped counts as no. -/
def answerAt (state : State) (messages : List Message) (position : Nat) : Bool :=
  ((state.untilStop messages)[position]?.bind
    (state.handleAll (messages.take position)).answer?).getD false

/-- An insertion that succeeds says nothing. -/
theorem insert_response {state : State} {insertion : Insertion} {response : Response}
    (hok : (state.insert insertion).result = .ok response) : response = .none := by
  obtain ⟨_, _, _, _, _, -, -, -, -, hinsert⟩ := insert_eq_ok hok
  rw [hinsert] at hok
  cases hok
  rfl

/-- Questions are what has an answer. -/
theorem isSome_answer? (state : State) (message : Message) :
    (state.answer? message).isSome = message.action.isQuery := by
  cases message <;> rfl

/-- A question is answered from the state at hand. -/
theorem handle_of_question {state : State} {message : Message} {answer : Bool}
    (hquestion : state.answer? message = some answer) :
    (state.handle message).result = .ok (.answer answer) := by
  cases message <;> cases hquestion <;> rfl

/-- A question does not stop the loop. -/
theorem exitAt_of_question {state : State} {message : Message} {answer : Bool}
    (hquestion : state.answer? message = some answer) : state.exitAt message = none := by
  cases message <;> cases hquestion <;> rfl

/-- A message that is no question and does not ask the cache to stop says nothing when it
succeeds. -/
theorem handle_response {state : State} {message : Message} {response : Response}
    (hok : (state.handle message).result = .ok response) (hquit : message ≠ .quit)
    (hnone : state.answer? message = none) : response = .none := by
  cases hbrings : state.insertion? message with
  | some insertion =>
    obtain ⟨_, _, _, -, hhandle, -⟩ :=
      handle_eq_insert hbrings (isLocked_of_handle_ok hbrings hok)
    rw [hhandle, Outcome.after_result] at hok
    exact insert_response hok
  | none =>
    have hquery : message.action.isQuery = false := by
      rw [← isSome_answer? state, hnone]
      rfl
    have haside := handle_aside hbrings
    generalize state.handle message = outcome at haside hok
    cases haside with
    | stays _ _ _ _ _ hresponse =>
      rcases hresponse hok with hasks | hstops | hnothing
      · cases hquery.symm.trans hasks
      · exact absurd hstops hquit
      · exact hnothing
    | hit => exact (Attempt.ok.inj hok).symm
    | vacates => exact (Attempt.ok.inj hok).symm

/-- An insertion that crashes was to copy to a device what no buffer can hold. -/
theorem insert_crashed {state : State} {insertion : Insertion}
    (hcrashed : (state.insert insertion).result = .crashed) :
    (∃ device, insertion.locality = .gpu device) ∧
      Contents.maxLength < insertion.size.toNat := by
  cases hcapacity : state.config.capacityFor insertion.locality with
  | none =>
    rw [insert, hcapacity] at hcrashed
    cases hcrashed
  | some capacity =>
    rw [insert_eq_settle state insertion hcapacity] at hcrashed
    simp only [settle] at hcrashed
    split at hcrashed
    · cases hcrashed
    · split at hcrashed
      · cases hcrashed
      · rename_i hplace
        have hplacing := placing (state.makeRoom insertion.name insertion.locality insertion.size
          capacity).1.store insertion
        rw [hplace] at hplacing
        cases hplacing with
        | overlong hdevice _ hlong => exact ⟨⟨_, hdevice⟩, hlong⟩
      · cases hcrashed

/-- A message that crashes was to copy to a device what no buffer can hold. -/
theorem handle_crashed {state : State} {message : Message}
    (hcrashed : (state.handle message).result = .crashed) :
    ∃ offer, message = .putGpu offer ∧ Contents.maxLength < offer.size.toNat := by
  cases hbrings : state.insertion? message with
  | none =>
    have haside := handle_aside hbrings
    generalize state.handle message = outcome at haside hcrashed
    cases haside with
    | stays _ _ _ _ _ _ _ hreturns => exact absurd hcrashed hreturns
    | hit => cases hcrashed
    | vacates => cases hcrashed
  | some insertion =>
    rcases handle_refused_or_insert hbrings with
      ⟨-, -, hhandle⟩ | ⟨function, parameter, events, -, hhandle⟩
    · rw [hhandle] at hcrashed
      cases hcrashed
    · rw [hhandle, Outcome.after_result] at hcrashed
      obtain ⟨⟨device, hdevice⟩, hlong⟩ := insert_crashed hcrashed
      obtain ⟨offer, -, -, rfl⟩ | ⟨offer, found, rfl, -, -, rfl⟩ | ⟨offer, -, rfl⟩ :=
        insertion?_cases hbrings
      · cases hdevice
      · exact ⟨offer, rfl, hlong⟩
      · cases hdevice

/-- The loop crashes with a message that does. -/
theorem exitAt_eq_crashed {state : State} {message : Message}
    (hcrashed : state.exitAt message = some .crashed) :
    (state.handle message).result = .crashed := by
  cases hresult : (state.handle message).result with
  | error failure => simp [exitAt, hresult] at hcrashed
  | crashed => rfl
  | ok response =>
    simp only [exitAt, hresult] at hcrashed
    split at hcrashed <;> cases hcrashed

/-- Taking a message from the queue handles it. -/
theorem dispatch_state (state : State) (envelope : Envelope) :
    (state.dispatch envelope).state = (state.handle envelope.message).state := by
  unfold dispatch
  dsimp only
  split <;> rfl

/-- The loop stops at a message that asks it to, fails or crashes, and at no other. -/
theorem dispatch_exit (state : State) (envelope : Envelope) :
    (state.dispatch envelope).exit = state.exitAt envelope.message := by
  have hgoes {response : Response}
      (hok : (state.handle envelope.message).result = .ok response) (hgo : response ≠ .terminate) :
      envelope.message ≠ .quit := by
    intro hquit
    rw [hquit] at hok
    cases hok
    exact hgo rfl
  cases hresult : (state.handle envelope.message).result with
  | error failure => simp [dispatch, exitAt, hresult]
  | crashed => simp [dispatch, exitAt, hresult]
  | ok response =>
    cases response with
    | none => simp [dispatch, exitAt, hresult, hgoes hresult]
    | answer answer => simp [dispatch, exitAt, hresult, hgoes hresult]
    | terminate =>
      have hquit : envelope.message = .quit := by
        by_contra hother
        cases hquestion : state.answer? envelope.message with
        | none => cases handle_response hresult hother hquestion
        | some answer => cases (handle_of_question hquestion).symm.trans hresult
      simp only [dispatch, exitAt, hresult, if_pos hquit]

/-- The reply to a message is the answer to its question, if its sender waits for one. -/
theorem dispatch_replies (state : State) (envelope : Envelope) :
    (state.dispatch envelope).replies =
      [if envelope.awaited then state.answer? envelope.message else none] := by
  cases hquestion : state.answer? envelope.message with
  | some answer =>
    simp [dispatch, handle_of_question hquestion]
  | none =>
    cases hresult : (state.handle envelope.message).result with
    | error failure => simp [dispatch, hresult]
    | crashed => simp [dispatch, hresult]
    | ok response =>
      cases response with
      | none => simp [dispatch, hresult]
      | terminate => simp [dispatch, hresult]
      | answer answer =>
        by_cases hquit : envelope.message = .quit
        · rw [hquit] at hresult
          cases hresult
        · cases handle_response hresult hquit hquestion

/-- More messages matter to why the loop stops only if it has not stopped before. -/
theorem exitOf_append (state : State) (earlier later : List Message) :
    state.exitOf (earlier ++ later) =
      (state.exitOf earlier).or ((state.handleAll earlier).exitOf later) := by
  induction earlier generalizing state with
  | nil => rfl
  | cons message earlier ih =>
    simp only [List.cons_append, exitOf]
    cases state.exitAt message with
    | some exit => rfl
    | none => exact ih (state.handle message).state

/-- A loop that stops does so at the last message that it takes. -/
theorem exitOf_eq_some {state : State} {messages : List Message} {exit : Exit}
    (hstops : state.exitOf messages = some exit) :
    ∃ earlier message, state.untilStop messages = earlier ++ [message] ∧
      (state.handleAll earlier).exitAt message = some exit := by
  induction messages generalizing state with
  | nil => cases hstops
  | cons message messages ih =>
    simp only [exitOf] at hstops
    simp only [untilStop]
    cases hexit : state.exitAt message with
    | some reason =>
      rw [hexit] at hstops
      exact ⟨[], message, rfl, hexit.trans hstops⟩
    | none =>
      rw [hexit] at hstops
      obtain ⟨earlier, last, htaken, hlast⟩ := ih hstops
      exact ⟨message :: earlier, last, congrArg (message :: ·) htaken, hlast⟩

/-- A loop that crashes does so at a message that is to copy to a device what no buffer can hold. -/
theorem exitOf_eq_crashed {state : State} {messages : List Message}
    (hstops : state.exitOf messages = some .crashed) :
    ∃ earlier offer, state.untilStop messages = earlier ++ [.putGpu offer] ∧
      ((state.handleAll earlier).handle (.putGpu offer)).result = .crashed ∧
      Contents.maxLength < offer.size.toNat := by
  obtain ⟨earlier, message, htaken, hlast⟩ := exitOf_eq_some hstops
  have hcrashed := exitAt_eq_crashed hlast
  obtain ⟨offer, rfl, hlong⟩ := handle_crashed hcrashed
  exact ⟨earlier, offer, htaken, hcrashed, hlong⟩

/-- A loop that has not stopped goes on with what comes later. -/
theorem untilStop_append {state : State} {earlier : List Message}
    (hgoes : state.exitOf earlier = none) (later : List Message) :
    state.untilStop (earlier ++ later) = earlier ++ (state.handleAll earlier).untilStop later := by
  induction earlier generalizing state with
  | nil => rfl
  | cons message earlier ih =>
    simp only [exitOf] at hgoes
    simp only [List.cons_append, untilStop]
    cases hexit : state.exitAt message with
    | some exit => simp [hexit] at hgoes
    | none =>
      simp only [hexit] at hgoes
      exact congrArg (message :: ·) (ih hgoes)

/-- A loop that has stopped does not take what comes later. -/
theorem untilStop_append_of_stop {state : State} {earlier : List Message}
    (hstops : (state.exitOf earlier).isSome = true) (later : List Message) :
    state.untilStop (earlier ++ later) = state.untilStop earlier := by
  induction earlier generalizing state with
  | nil => cases hstops
  | cons message earlier ih =>
    simp only [exitOf] at hstops
    simp only [List.cons_append, untilStop]
    cases hexit : state.exitAt message with
    | some exit => rfl
    | none =>
      simp only [hexit] at hstops
      exact congrArg (message :: ·) (ih hstops)

/-- A loop that does not stop takes every message. -/
theorem untilStop_eq_self {state : State} {messages : List Message}
    (hgoes : state.exitOf messages = none) : state.untilStop messages = messages := by
  simpa [untilStop] using untilStop_append hgoes []

/-- One more message is taken if the loop has not stopped before, whatever comes of it. -/
theorem untilStop_concat {state : State} {earlier : List Message}
    (hgoes : state.exitOf earlier = none) (message : Message) :
    state.untilStop (earlier ++ [message]) = earlier ++ [message] := by
  rw [untilStop_append hgoes, untilStop]
  split <;> rfl

/-- Whether the loop stops at one more message, if it has not stopped before. -/
theorem exitOf_concat {state : State} {earlier : List Message}
    (hgoes : state.exitOf earlier = none) (message : Message) :
    state.exitOf (earlier ++ [message]) = (state.handleAll earlier).exitAt message := by
  rw [exitOf_append, hgoes, Option.none_or, exitOf]
  split
  · rename_i hexit
    exact hexit.symm
  · rename_i hexit
    exact hexit.symm

end SegmentCache.State
