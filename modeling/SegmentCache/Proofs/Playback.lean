import SegmentCache.CommandLine.Run
import SegmentCache.Proofs.Progress
import SegmentCache.Proofs.Scripts

/-!
# A script and the loop, step by step

Whoever plays a script reads a line, makes the segment that its message names, sends the message,
and waits for the answer if it is a question. It crashes at a segment that cannot be made. The loop
works at its own pace meanwhile, on the same store. A `Playback` is an exchange with one client that
does this, and a schedule says who acts next.
-/

namespace SegmentCache

/-- Where the reader of a script stands. -/
inductive Phase where
  /-- The next line is to be read. -/
  | reading (number : Nat) (lines : List ScriptLine)
  /-- The segment that a message names is there, and the message is to be sent. -/
  | sending (message : Message) (number : Nat) (lines : List ScriptLine)
  /-- A question was sent, the one at a position among those that have arrived, and is to be
  answered. -/
  | waiting (message : Message) (position number : Nat) (lines : List ScriptLine)
  /-- Nothing more is read. -/
  | ended (result : Except (List RunCause) Unit)
  /-- Reading has crashed. -/
  | crashed

namespace Phase

/-- What was sent and is to be answered. -/
def pending : Phase → List Message
  | .waiting message _ _ _ => [message]
  | _ => []

/-- What is not sent yet, with how reading ends unless it has crashed. -/
def outline : Phase → List Message × Except (List RunCause) Unit
  | .reading number lines => ScriptLine.outline number lines
  | .sending message number lines =>
    (message :: (ScriptLine.outline number lines).1, (ScriptLine.outline number lines).2)
  | .waiting _ _ number lines => ScriptLine.outline number lines
  | .ended result => ([], result)
  | .crashed => ([], .ok ())

/-- The messages whose segments have not been made yet. -/
def ahead : Phase → List Message
  | .reading number lines => (ScriptLine.outline number lines).1
  | .sending _ number lines => (ScriptLine.outline number lines).1
  | .waiting _ _ number lines => (ScriptLine.outline number lines).1
  | .ended _ | .crashed => []

/-- Whether nothing more is read. -/
def isEnded : Phase → Bool
  | .ended _ | .crashed => true
  | _ => false

/-- A reader that goes on has not crashed. -/
theorem ne_crashed {phase : Phase} (hgoes : phase.isEnded = false) : phase ≠ .crashed := by
  rintro rfl
  cases hgoes

end Phase

/-- Who acts next. -/
inductive Turn where
  /-- The reader of the script. -/
  | reader
  /-- The loop. -/
  | loop
  deriving DecidableEq

/-- A script that is read while the loop takes messages. -/
structure Playback where
  /-- The session with one client, which is the reader. -/
  exchange : Exchange
  /-- Where the reader stands. -/
  phase : Phase
  /-- The lines printed so far. -/
  printed : List String

namespace Playback

/-- A script that is about to be read. -/
def opening (session : Session) (lines : List ScriptLine) : Playback where
  exchange := { session, verdict := none, arrived := [], replies := [] }
  phase := .reading 1 lines
  printed := []

/-- The reader takes a step. When there is no line left it goes, and the client with it. At a segment
that cannot be made it crashes. A question that cannot be sent is answered with no at once. -/
def read (playback : Playback) : Playback :=
  match playback.phase with
  | .reading _ [] =>
    { playback with exchange := playback.exchange.call 0 .drop, phase := .ended (.ok ()) }
  | .reading number (line :: lines) =>
    match line.message? number with
    | .error causes => { playback with phase := .ended (.error causes) }
    | .ok none => { playback with phase := .reading (number + 1) lines }
    | .ok (some message) =>
      match playback.exchange.session.ensureSegment? message with
      | none => { playback with phase := .crashed }
      | some session =>
        { playback with
          exchange := { playback.exchange with session }
          phase := .sending message (number + 1) (ScriptLine.following message lines) }
  | .sending message number lines =>
    if message.action.isQuery then
      if playback.exchange.session.isConnected then
        { playback with
          exchange := playback.exchange.call 0 (.query message)
          phase := .waiting message playback.exchange.arrived.length number lines }
      else
        { playback with
          printed := playback.printed ++ [message.report false]
          phase := .reading number lines }
    else
      { playback with
        exchange := playback.exchange.call 0 (.submit message)
        phase := .reading number lines }
  | .waiting message position number lines =>
    match playback.exchange.resolved position with
    | none => playback
    | some answer =>
      { playback with
        printed := playback.printed ++ [message.report answer]
        phase := .reading number lines }
  | .ended _ | .crashed => playback

section Reader

variable {playback : Playback} {message : Message} {position number : Nat} {line : ScriptLine}
  {lines : List ScriptLine}

/-- Behind the last line the reader goes. -/
theorem read_of_end (hphase : playback.phase = .reading number []) :
    playback.read =
      { playback with exchange := playback.exchange.call 0 .drop, phase := .ended (.ok ()) } := by
  simp only [read, hphase]

/-- At a line that cannot be read, reading ends. -/
theorem read_of_error (hphase : playback.phase = .reading number (line :: lines))
    {causes : List RunCause} (hline : line.message? number = .error causes) :
    playback.read = { playback with phase := .ended (.error causes) } := by
  simp only [read, hphase, hline]

/-- A line without a message is passed over. -/
theorem read_of_blank (hphase : playback.phase = .reading number (line :: lines))
    (hline : line.message? number = .ok none) :
    playback.read = { playback with phase := .reading (number + 1) lines } := by
  simp only [read, hphase, hline]

/-- At a segment that cannot be made the reader crashes. -/
theorem read_of_crash (hphase : playback.phase = .reading number (line :: lines))
    (hline : line.message? number = .ok (some message))
    (hnone : playback.exchange.session.ensureSegment? message = none) :
    playback.read = { playback with phase := .crashed } := by
  simp only [read, hphase, hline, hnone]

/-- The reader makes the segment that the message of a line names. -/
theorem read_of_message (hphase : playback.phase = .reading number (line :: lines))
    (hline : line.message? number = .ok (some message)) {session : Session}
    (hensured : playback.exchange.session.ensureSegment? message = some session) :
    playback.read =
      { playback with
        exchange := { playback.exchange with session }
        phase := .sending message (number + 1) (ScriptLine.following message lines) } := by
  simp only [read, hphase, hline, hensured]

/-- A message that is no question is sent, and the reader goes on. -/
theorem read_of_command (hphase : playback.phase = .sending message number lines)
    (hcommand : message.action.isQuery = false) :
    playback.read =
      { playback with
        exchange := playback.exchange.call 0 (.submit message)
        phase := .reading number lines } := by
  simp only [read, hphase, hcommand, Bool.false_eq_true, if_false]

/-- A question is sent if the loop is there, and the reader waits for its answer. -/
theorem read_of_question (hphase : playback.phase = .sending message number lines)
    (hquestion : message.action.isQuery = true) (hopen : playback.exchange.session.exit = none) :
    playback.read =
      { playback with
        exchange := playback.exchange.call 0 (.query message)
        phase := .waiting message playback.exchange.arrived.length number lines } := by
  simp only [read, hphase, hquestion, Session.isConnected, hopen, Option.isNone_none, if_true]

/-- A question is answered with no if the loop is gone. -/
theorem read_of_miss (hphase : playback.phase = .sending message number lines)
    (hquestion : message.action.isQuery = true)
    (hgone : playback.exchange.session.exit.isSome = true) :
    playback.read =
      { playback with
        printed := playback.printed ++ [message.report false]
        phase := .reading number lines } := by
  obtain ⟨exit, hexit⟩ := Option.isSome_iff_exists.mp hgone
  simp only [read, hphase, hquestion, Session.isConnected, hexit, Option.isNone_some, if_true,
    Bool.false_eq_true, if_false]

/-- The answer is printed once it is there. -/
theorem read_of_answer (hphase : playback.phase = .waiting message position number lines)
    {answer : Bool} (hresolved : playback.exchange.resolved position = some answer) :
    playback.read =
      { playback with
        printed := playback.printed ++ [message.report answer]
        phase := .reading number lines } := by
  simp only [read, hphase, hresolved]

/-- Until then the reader waits. -/
theorem read_of_unresolved (hphase : playback.phase = .waiting message position number lines)
    (hresolved : playback.exchange.resolved position = none) : playback.read = playback := by
  simp only [read, hphase, hresolved]

/-- A reader that has come to its end does nothing. -/
theorem read_of_isEnded (hended : playback.phase.isEnded = true) : playback.read = playback := by
  cases hphase : playback.phase with
  | reading | sending | waiting => simp [hphase, Phase.isEnded] at hended
  | ended | crashed => simp only [read, hphase]

end Reader

/-- One step of a schedule. -/
def perform (playback : Playback) : Turn → Playback
  | .reader => playback.read
  | .loop => { playback with exchange := playback.exchange.loop }

/-- A whole schedule. -/
def performAll (playback : Playback) (turns : List Turn) : Playback :=
  turns.foldl perform playback

/-- Performing a schedule in two parts. -/
theorem performAll_append (playback : Playback) (earlier later : List Turn) :
    playback.performAll (earlier ++ later) = (playback.performAll earlier).performAll later :=
  List.foldl_append

/-- What the run comes to. It fails at once when a line cannot be read, and crashes when reading
does. Otherwise it is over when the loop is gone. -/
def result? (playback : Playback) : Option (Attempt (List RunCause) Unit) :=
  match playback.phase with
  | .crashed => some .crashed
  | .ended (.error causes) => some (.error causes)
  | .ended (.ok ()) => playback.exchange.session.exit.map Exit.outcome
  | _ => none

end Playback

/-- Making sure that a segment is there touches the store alone. -/
theorem Session.ensureSegment?_frame {session after : Session} {message : Message}
    (hensured : session.ensureSegment? message = some after) :
    after.queue = session.queue ∧ after.exit = session.exit ∧ after.clients = session.clients := by
  obtain ⟨store, -, rfl⟩ := Option.map_eq_some_iff.mp hensured
  exact ⟨rfl, rfl, rfl⟩

namespace Exchange

/-- The exchange when an envelope was put into the queue, if the loop is there. -/
def post (exchange : Exchange) (envelope : Envelope) : Exchange :=
  if exchange.session.isConnected then
    { exchange with
      session := { exchange.session with queue := exchange.session.queue ++ [envelope] }
      arrived := exchange.arrived ++ [envelope] }
  else exchange

/-- Putting an envelope into the queue leaves the cache, the loop and the clients as they are. -/
theorem post_frame (exchange : Exchange) (envelope : Envelope) :
    (exchange.post envelope).session.state = exchange.session.state ∧
      (exchange.post envelope).session.exit = exchange.session.exit ∧
      (exchange.post envelope).session.clients = exchange.session.clients := by
  unfold post
  split <;> exact ⟨rfl, rfl, rfl⟩

/-- A client that submits a message puts it into the queue. -/
theorem call_submit_eq_post (exchange : Exchange) (client : Nat) (message : Message) :
    exchange.call client (.submit message) = exchange.post { message, awaited := false } := by
  obtain ⟨⟨state, queue, exit, clients⟩, verdict, arrived, replies⟩ := exchange
  cases exit <;> rfl

/-- So does a client that asks a question. -/
theorem call_query_eq_post (exchange : Exchange) (client : Nat) (message : Message) :
    exchange.call client (.query message) = exchange.post { message, awaited := true } := by
  obtain ⟨⟨state, queue, exit, clients⟩, verdict, arrived, replies⟩ := exchange
  cases exit <;> rfl

/-- The loop sends nothing and lets nobody go. -/
theorem loop_frame (exchange : Exchange) :
    exchange.loop.arrived = exchange.arrived ∧
      exchange.loop.session.clients = exchange.session.clients := by
  unfold loop
  split
  · exact ⟨rfl, rfl⟩
  · exact ⟨rfl, rfl⟩
  · split <;> exact ⟨rfl, rfl⟩
  · exact ⟨rfl, rfl⟩

end Exchange

end SegmentCache
