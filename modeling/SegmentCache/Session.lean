import SegmentCache.State

/-!
# Sessions

A session is a cache together with the clients that talk to it. Clients put messages into one
queue; a loop takes them out in order and applies them, until a message asks it to stop, fails or
crashes, or until every client has gone. Once the loop has stopped, every call of a client behaves
as if nothing were cached.
-/

namespace SegmentCache

/-- A message in the queue. -/
structure Envelope where
  /-- The message. -/
  message : Message
  /-- Whether its sender waits for an answer. -/
  awaited : Bool
  deriving DecidableEq, Repr

/-- Why the loop stopped. -/
inductive Exit where
  /-- A message asked it to. -/
  | quit (summary : Summary)
  /-- Every client has gone. -/
  | disconnected (summary : Summary)
  /-- A message failed. -/
  | failed (failure : CacheFailure)
  /-- A message crashed, and the loop with it. -/
  | crashed
  deriving DecidableEq, Repr

/-- Whether the loop stopped because a message failed. -/
def Exit.isFailure : Exit → Bool
  | .failed _ => true
  | _ => false

/-- What taking messages from the queue leads to. -/
structure Run where
  /-- The state afterwards. -/
  state : State
  /-- Why the loop stopped, if it did. -/
  exit : Option Exit
  /-- The reply to each message that was taken; only awaited questions have one. -/
  replies : List (Option Bool)
  /-- What happened on the way. -/
  events : List Event

namespace State

/-- Takes one message from the queue. -/
def dispatch (state : State) (envelope : Envelope) : Run :=
  let outcome := state.handle envelope.message
  let action := envelope.message.action
  let fileName := envelope.message.fileName?.getD ""
  match outcome.result with
  | .ok .none =>
    { state := outcome.state, exit := none, replies := [none], events := outcome.events }
  | .ok (.answer answer) =>
    { state := outcome.state
      exit := none
      replies := [if envelope.awaited then some answer else none]
      events := outcome.events ++ .answered action fileName answer ::
        if envelope.awaited then [] else [.unasked action fileName] }
  | .ok .terminate =>
    { state := outcome.state
      exit := some (.quit outcome.state.summary)
      replies := [none]
      events := outcome.events }
  | .error failure =>
    { state := outcome.state
      exit := some (.failed failure)
      replies := [none]
      events := outcome.events ++ [.failed action fileName failure] }
  | .crashed =>
    { state := outcome.state
      exit := some .crashed
      replies := [none]
      events := outcome.events }

/-- Takes messages from the queue until it is empty or the loop stops. -/
def run (state : State) : List Envelope → Run
  | [] => { state, exit := none, replies := [], events := [] }
  | envelope :: queue =>
    let first := state.dispatch envelope
    match first.exit with
    | some _ => first
    | none =>
      let later := first.state.run queue
      { state := later.state
        exit := later.exit
        replies := first.replies ++ later.replies
        events := first.events ++ later.events }

end State

/-- A cache with its queue and its clients. -/
structure Session where
  /-- The cache. -/
  state : State
  /-- The messages not taken yet, oldest first. -/
  queue : List Envelope
  /-- Why the loop stopped, if it did. -/
  exit : Option Exit
  /-- The numbers of the clients that are there. -/
  clients : Std.ExtTreeSet Nat

/-- An object as a client describes it. -/
structure Object where
  /-- The segment that holds the object. -/
  handle : String
  /-- What kind of object it is. -/
  kind : ObjectKind
  /-- The bytes of the object. -/
  size : UInt64
  /-- The element type of an array. -/
  dtype : String
  /-- The extents of an array. -/
  shape : List UInt64
  deriving DecidableEq, Repr, Inhabited

namespace Object

/-- An array in shared memory. -/
def array (handle : String) (size : UInt64) (dtype : String) (shape : List UInt64) : Object where
  handle := handle
  kind := .sharedMemory
  size := size
  dtype := dtype
  shape := shape

/-- A collection of the given kind. -/
def collection (handle : String) (kind : ObjectKind) (size : UInt64) : Object where
  handle := handle
  kind := kind
  size := size
  dtype := ""
  shape := []

/-- The offer of an object for a file, under the key of its name. -/
def offer (object : Object) (fileName parameter function : String) : Offer where
  fileName := entryKey fileName
  handle := object.handle
  kind := object.kind
  parameter := parameter
  function := function
  size := object.size
  dtype := object.dtype
  shape := object.shape

/-- The offer to copy an object to a device. -/
def deviceOffer (object : Object) (fileName bus parameter function : String) : DeviceOffer where
  fileName := entryKey fileName
  handle := object.handle
  bus := bus
  parameter := parameter
  function := function
  size := object.size
  dtype := object.dtype
  shape := object.shape

end Object

namespace Session

/-- Opens a session with one client, whose number is zero. -/
def start (config : Config) (store : Store) (files : FileTree) (clock : String) :
    Except ConfigFailure (Session × List Event) :=
  match config.validate with
  | .error failure => .error failure
  | .ok () =>
    .ok ({ state := State.initial config store files clock
           queue := []
           exit := none
           clients := (∅ : Std.ExtTreeSet Nat).insert 0 },
      [.starting config.cpuCapacity config.devices.length config.profiling])

/-- A short description of a session that has just been opened. -/
def describe (session : Session) : String :=
  let phase := if session.exit.isNone then "Running" else "Terminated"
  "CacheManager \x7b state: " ++ session.state.describe ++ s!", loop_state: {phase} \x7d"

/-- Whether the loop is there to take messages. -/
def isConnected (session : Session) : Bool :=
  session.exit.isNone

/-- Lets the loop work through the queue, and gives the reply to each message it took. -/
def drain (session : Session) : Session × List (Option Bool) × List Event :=
  match session.exit with
  | some _ => (session, [], [])
  | none =>
    let done := session.state.run session.queue
    ({ session with state := done.state, queue := [], exit := done.exit },
      done.replies, done.events)

/-- Sends a message without waiting, and says whether it could be sent. -/
def submit (session : Session) (message : Message) : Session × Bool × List Event :=
  if session.isConnected then
    ({ session with queue := session.queue ++ [{ message, awaited := false }] }, true, [])
  else (session, false, [.dropped message.action])

/-- Sends a message and waits for its answer. What is never answered counts as no. -/
def query (session : Session) (message : Message) : Session × Bool × List Event :=
  if session.isConnected then
    let position := session.queue.length
    let asked : Session :=
      { session with queue := session.queue ++ [{ message, awaited := true }] }
    let (session, replies, events) := asked.drain
    (session, (replies[position]?.getD none).getD false, events)
  else (session, false, [.unanswered message.action])

/-- Offers an object for a file. -/
def put (session : Session) (fileName : String) (object : Object) (parameter function : String) :
    Session × Bool × List Event :=
  session.submit (.put (object.offer fileName parameter function))

/-- Offers an object in place of the one a file has. -/
def replace (session : Session) (fileName : String) (object : Object)
    (parameter function : String) : Session × Bool × List Event :=
  session.submit (.replace (object.offer fileName parameter function))

/-- Offers an object for a file, to be copied to the device with a bus address. -/
def putGpu (session : Session) (fileName : String) (object : Object)
    (bus parameter function : String) : Session × Bool × List Event :=
  session.submit (.putGpu (object.deviceOffer fileName bus parameter function))

/-- Asks for a file to be removed. -/
def remove (session : Session) (fileName : String) : Session × Bool × List Event :=
  session.submit (.remove (entryKey fileName))

/-- Asks for a file to be locked. -/
def lock (session : Session) (fileName : String) : Session × Bool × List Event :=
  session.submit (.lock (entryKey fileName))

/-- Asks for a file to be unlocked. -/
def unlock (session : Session) (fileName : String) : Session × Bool × List Event :=
  session.submit (.unlock (entryKey fileName))

/-- Whether a file is locked, once the queue is done. -/
def isLocked (session : Session) (fileName : String) : Session × Bool × List Event :=
  session.query (.isLocked (entryKey fileName))

/-- Whether a file is cached, once the queue is done. -/
def isInCache (session : Session) (fileName : String) : Session × Bool × List Event :=
  session.query (.isInCache (entryKey fileName))

/-- Asks for the usage report. -/
def endProfiling (session : Session) : Session × Bool × List Event :=
  session.submit .endProfiling

/-- Asks the loop to stop. -/
def quit (session : Session) : Session × Bool × List Event :=
  session.submit .quit

/-- Looks a file up in the entries clients see, and counts the use if it is there. -/
def get (session : Session) (fileName parameter function : String) :
    Session × Option Entry × List Event :=
  let name := entryKey fileName
  if session.isConnected then
    match session.state.replica[name]? with
    | none => (session, none, [])
    | some entry =>
      let (session, _, events) := session.submit (.get name parameter function)
      (session, some entry, events)
  else (session, none, [])

/-- Whether clients see an entry for a file. -/
def hint (session : Session) (fileName : String) : Bool :=
  session.isConnected && session.state.replica.contains (entryKey fileName)

/-- Whether a client is there. -/
def hasClient (session : Session) (client : Nat) : Bool :=
  session.clients.contains client

/-- Adds a client. -/
def addClient (session : Session) (client : Nat) : Session :=
  { session with clients := session.clients.insert client }

/-- Lets a client go. -/
def dropClient (session : Session) (client : Nat) : Session :=
  { session with clients := session.clients.erase client }

/-- Lets every client go and the loop work to its end. -/
def finish (session : Session) : Session × Exit × List Event :=
  let (session, _, events) := session.drain
  let session := { session with clients := ∅ }
  match session.exit with
  | some exit => (session, exit, events)
  | none =>
    let exit := Exit.disconnected session.state.summary
    ({ session with exit := some exit }, exit, events ++ [.abandoned])

end Session

end SegmentCache
