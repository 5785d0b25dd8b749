import SegmentCache.CommandLine.Script
import SegmentCache.Proofs.Provenance
import SegmentCache.Proofs.Stopping

/-!
# What a script says

`ScriptLine.outline` gives the messages of a script up to the first one that asks to stop, the
first line that cannot be read, or the end. Played in sequence, each message finds the segment it
names filled with zeros and is handled after those before it; `State.printout` is what the
questions among them print. `Fresh` messages name segments that nobody else uses.
-/

namespace SegmentCache

namespace ScriptLine

/-- What a line says: nothing, a message, or why it cannot be read. -/
def message? (number : Nat) (line : ScriptLine) : Except (List RunCause) (Option Message) :=
  match line.text? with
  | none => .error [.file .notText]
  | some text =>
    if text.isEmpty || text.startsWith "#" then .ok none
    else
      match Message.ofText text with
      | .error failure =>
        .error [.note s!"line {number}: invalid message", .unreadable failure]
      | .ok message => .ok (some message)

/-- The lines that are read after a message: none after one that asks to stop. -/
def following (message : Message) (lines : List ScriptLine) : List ScriptLine :=
  if message = .quit then [] else lines

/-- The messages of lines up to the first that asks to stop, the first line that cannot be read,
or the end, and how reading ends. -/
def outline (number : Nat) : List ScriptLine → List Message × Except (List RunCause) Unit
  | [] => ([], .ok ())
  | line :: lines =>
    match line.message? number with
    | .error causes => ([], .error causes)
    | .ok none => outline (number + 1) lines
    | .ok (some message) =>
      if message = .quit then ([message], .ok ())
      else (message :: (outline (number + 1) lines).1, (outline (number + 1) lines).2)

variable {number : Nat} {line : ScriptLine} {lines : List ScriptLine}

/-- A line with a message comes before what follows the message. -/
theorem outline_of_message {message : Message} (hline : line.message? number = .ok (some message)) :
    outline number (line :: lines) =
      (message :: (outline (number + 1) (following message lines)).1,
        (outline (number + 1) (following message lines)).2) := by
  rw [outline, hline]
  dsimp only
  unfold following
  split <;> rfl

/-- Only the last message of a script asks to stop. -/
theorem quit_not_mem_dropLast_outline (number : Nat) (lines : List ScriptLine) :
    Message.quit ∉ (outline number lines).1.dropLast := by
  induction lines generalizing number with
  | nil => simp [outline]
  | cons line lines ih =>
    unfold outline
    split
    · simp
    · exact ih (number + 1)
    · split
      · simp
      · rename_i hquit
        have hlater := ih (number + 1)
        generalize (outline (number + 1) lines).1 = messages at hlater ⊢
        cases messages with
        | nil => simp
        | cons next messages =>
          rw [List.dropLast_cons_cons, List.mem_cons, not_or]
          exact ⟨Ne.symm hquit, hlater⟩

end ScriptLine

namespace Message

/-- What a question prints. -/
def report (message : Message) (answer : Bool) : String :=
  let fileName := message.fileName?.getD ""
  s!"{message.action.text} {fileName} {answer}"

/-- The handles that messages name. -/
def handles (messages : List Message) : List String :=
  messages.filterMap handle?

/-- Whether a message names a segment of more bytes than a buffer can have. -/
def isOverlong (message : Message) : Bool :=
  message.source?.any fun source => Contents.maxLength < source.2.toNat

/-- Messages name different segments, none of which is known or could be made up for a buffer. -/
structure Fresh (known : String → Prop) (messages : List Message) : Prop where
  /-- The messages name different segments. -/
  distinct : (handles messages).Nodup
  /-- None of them is known. -/
  unknown : ∀ {handle}, handle ∈ handles messages → ¬ known handle
  /-- None of them could be made up. -/
  notBuffer : ∀ {handle}, handle ∈ handles messages → ¬ Store.IsBuffer handle

variable {known : String → Prop} {message : Message} {messages : List Message}

/-- The first handles are those of the first message. -/
theorem handles_cons (message : Message) (messages : List Message) :
    handles (message :: messages) = message.handle?.toList ++ handles messages := by
  cases hhandle : message.handle? <;> simp [handles, hhandle]

/-- A handle is named by the first message or by a later one. -/
theorem mem_handles_cons {handle : String} :
    handle ∈ handles (message :: messages) ↔
      message.handle? = some handle ∨ handle ∈ handles messages := by
  rw [handles_cons, List.mem_append, Option.mem_toList]

/-- What comes before the last of later messages comes before the last of all. -/
theorem mem_dropLast_cons {other : Message} (hlater : message ∈ messages.dropLast) :
    message ∈ (other :: messages).dropLast := by
  cases messages with
  | nil => cases hlater
  | cons next messages => exact List.mem_cons_of_mem _ hlater

/-- The handle of the first message is not named again. -/
theorem Fresh.not_mem_tail (hfresh : Fresh known (message :: messages)) {handle : String}
    (hnamed : message.handle? = some handle) : handle ∉ handles messages := by
  have hdistinct := hfresh.distinct
  rw [handles_cons, hnamed, Option.toList_some, List.singleton_append, List.nodup_cons] at hdistinct
  exact hdistinct.1

/-- When the segment of the first message is known, the others are fresh still. -/
theorem Fresh.tail (hfresh : Fresh known (message :: messages)) :
    Fresh (fun handle => known handle ∨ message.handle? = some handle) messages := by
  refine ⟨?_, ?_, fun hhandle => hfresh.notBuffer (mem_handles_cons.mpr (Or.inr hhandle))⟩
  · have hdistinct := hfresh.distinct
    rw [handles_cons] at hdistinct
    exact (List.nodup_append.mp hdistinct).2.1
  · rintro handle hhandle (hknown | hnamed)
    · exact hfresh.unknown (mem_handles_cons.mpr (Or.inr hhandle)) hknown
    · exact hfresh.not_mem_tail hnamed hhandle

end Message

namespace State

/-- The state with the segment that a message names, filled with zeros. -/
def supply (state : State) (message : Message) : State :=
  match message.source? with
  | none => state
  | some (handle, size) =>
    { state with
      store := state.store.register handle
        { locality := .cpu, contents := .zeros size.toNat } }

/-- Handles a message in a state with the segment that it names. -/
def play (state : State) (message : Message) : Outcome :=
  (state.supply message).handle message

/-- Plays messages in turn. -/
def playAll (state : State) (messages : List Message) : State :=
  messages.foldl (fun next message => (next.play message).state) state

/-- Whether a message fails when messages are played in turn. -/
def anyFails (state : State) : List Message → Bool
  | [] => false
  | message :: messages =>
    !(state.play message).result.isOk || (state.play message).state.anyFails messages

/-- The answer to a question after earlier messages: what handling it gives, and no if one of them
failed. -/
def answerAfter (state : State) (earlier : List Message) (message : Message) : Bool :=
  if state.anyFails earlier then false
  else
    match ((state.playAll earlier).play message).result with
    | .ok (.answer answer) => answer
    | _ => false

/-- What messages print after earlier ones: a line for each question, in order. -/
def printout (state : State) (earlier : List Message) : List Message → List String
  | [] => []
  | message :: messages =>
    (if message.action.isQuery then [message.report (state.answerAfter earlier message)] else []) ++
      state.printout (earlier ++ [message]) messages

variable {state : State} {known : String → Prop}

/-- Making the segment that a message names makes its handle known. -/
theorem Traced.supply (htraced : state.Traced known) (message : Message) :
    (state.supply message).Traced (fun handle => known handle ∨ message.handle? = some handle) := by
  unfold State.supply
  split
  · exact htraced.mono Or.inl
  · rename_i handle size hsource
    refine (htraced.mono Or.inl).register (Or.inr ?_) _
    rw [Message.handle?, hsource]
    rfl

/-- Playing a message makes its handle known. -/
theorem Traced.play (htraced : state.Traced known) (message : Message) :
    (state.play message).state.Traced
      (fun handle => known handle ∨ message.handle? = some handle) :=
  (htraced.supply message).handle Or.inr

end State

end SegmentCache
