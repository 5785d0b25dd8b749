import SegmentCache.FileFault
import SegmentCache.Format.Message
import SegmentCache.Session
import SegmentCache.Text.Blank

/-!
# Scripts

A script holds one message on each line; blank lines and lines that begin with a number sign are
passed over. The messages are sent in order, questions are answered on the spot, and the answers
are printed. An object that a line names without anybody having made it is made of zeros; when a
buffer cannot have that many, reading crashes.

Reading and the loop take turns. The loop works through the queue whenever reading has to wait:
for an answer, for the next block of the file, or for its end.
-/

namespace SegmentCache

/-- A link in the chain of causes for which a run fails. -/
inductive RunCause where
  /-- What was being done, or what went wrong. -/
  | note (text : String)
  /-- A file operation failed. -/
  | file (fault : FileFault)
  /-- A configuration is not sound. -/
  | unsound (failure : ConfigFailure)
  /-- A text cannot be read. -/
  | unreadable (failure : Json.ReadFailure)
  /-- The loop crashed. -/
  | loopCrashed
  deriving DecidableEq, Repr

/-- A line of a script. -/
structure ScriptLine where
  /-- The bytes of the line. -/
  bytes : List UInt8
  /-- Whether reading has to wait before the line is there. -/
  waits : Bool

namespace ScriptLine

/-- The bytes of a file that are read at once. -/
def blockSize : Nat := 8192

/-- The lines of a file from an offset on. `block` is the number of blocks that have been read,
`line` holds the bytes of the current line, last first. -/
def split (offset block : Nat) (line : List UInt8) : List UInt8 → List ScriptLine
  | [] => if line.isEmpty then [] else [{ bytes := line.reverse, waits := true }]
  | byte :: rest =>
    let needed := offset / blockSize + 1
    if byte = 10 then
      { bytes := line.reverse, waits := block < needed } :: split (offset + 1) needed [] rest
    else split (offset + 1) block (byte :: line) rest

/-- The lines of a file. -/
def ofBytes (bytes : List UInt8) : List ScriptLine :=
  split 0 0 [] bytes

/-- The text of a line without the blanks around it. -/
def text? (line : ScriptLine) : Option String :=
  (String.fromUTF8? ⟨line.bytes.toArray⟩).map Text.trim

end ScriptLine

/-- What has become of a script. -/
structure Replay where
  /-- The session the messages are sent to. -/
  session : Session
  /-- The lines printed so far. -/
  printed : List String

/-- The store in which the segment that a message names is there: one that was not is made of zeros.
There is no such store if a buffer cannot have that many. -/
def Store.ensure? (store : Store) (message : Message) : Option Store :=
  match message.source? with
  | none => some store
  | some (handle, size) =>
    if store.contains handle then some store
    else
      (Contents.blank? size).map fun contents =>
        store.register handle { locality := .cpu, contents }

/-- Makes sure that the segment a message names is there, and crashes if it cannot be made. -/
def Session.ensureSegment? (session : Session) (message : Message) : Option Session :=
  (session.state.store.ensure? message).map fun store =>
    { session with state := { session.state with store := store } }

namespace Replay

/-- Lets the loop work through the queue. -/
def wait (replay : Replay) : Replay :=
  { replay with session := replay.session.drain.1 }

/-- Sends the message of a line to a session in which the segment that it names is there. The answer
to a question is printed. -/
def send (replay : Replay) (session : Session) (message : Message) : Replay :=
  if message.action.isQuery then
    let (session, answer, _) := session.query message
    let fileName := message.fileName?.getD ""
    { session, printed := replay.printed ++ [s!"{message.action.text} {fileName} {answer}"] }
  else { replay with session := (session.submit message).1 }

/-- Replays lines from a line number on. -/
def lines (replay : Replay) (number : Nat) :
    List ScriptLine → Attempt (List RunCause) Unit × Replay
  | [] => (.ok (), replay)
  | line :: rest =>
    let replay := if line.waits then replay.wait else replay
    match line.text? with
    | none => (.error [.file .notText], replay)
    | some text =>
      if text.isEmpty || text.startsWith "#" then replay.lines (number + 1) rest
      else
        match Message.ofText text with
        | .error failure =>
          (.error [.note s!"line {number}: invalid message", .unreadable failure], replay)
        | .ok message =>
          match replay.session.ensureSegment? message with
          | none => (.crashed, replay)
          | some session =>
            let replay := replay.send session message
            if message = .quit then (.ok (), replay) else replay.lines (number + 1) rest

end Replay

end SegmentCache
