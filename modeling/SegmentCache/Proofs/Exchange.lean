import SegmentCache.Proofs.Stopping

/-!
# Clients and loop, step by step

Any number of clients put messages into the queue while the loop takes them out. An `Exchange` is
a session with a record of what has arrived and what was replied, and a schedule says who acts
next.

The queue is first in, first out, and it is lost with the loop. Between the moment when the loop
decides to stop and the moment when its end of the queue is gone, clients may still put in
messages, which nobody will take.
-/

namespace SegmentCache

/-- Sends a question without waiting for the answer, the first half of asking it. -/
def Session.ask (session : Session) (message : Message) : Session :=
  if session.isConnected then
    { session with queue := session.queue ++ [{ message, awaited := true }] }
  else session

/-- Asking lets the loop work through the queue after sending. -/
theorem Session.query_of_connected {session : Session} (hopen : session.exit = none)
    (message : Message) :
    (session.query message).2.1 =
      ((session.ask message).drain.2.1[session.queue.length]?.getD none).getD false := by
  simp [query, ask, isConnected, hopen]

/-- How a session ends whose clients all go: as the loop does that works through the queue. -/
theorem Session.finish_eq (session : Session) :
    session.finish.1.state = session.drain.1.state ∧
      session.finish.2.1 =
        session.drain.1.exit.getD (.disconnected session.drain.1.state.summary) := by
  unfold finish
  cases hexit : session.drain.1.exit <;> simp [hexit]

/-- What a client can do. -/
inductive Call where
  /-- Sends a message without waiting. -/
  | submit (message : Message)
  /-- Sends a message and waits for its answer. -/
  | query (message : Message)
  /-- Looks a file up. -/
  | get (fileName parameter function : String)
  /-- Makes another client. -/
  | clone (client : Nat)
  /-- Goes. -/
  | drop
  deriving DecidableEq

/-- One step of a schedule. -/
inductive Act where
  /-- A client does something. -/
  | call (client : Nat) (call : Call)
  /-- The loop takes a step. -/
  | loop
  deriving DecidableEq

/-- A session whose loop takes one message at a time. -/
structure Exchange where
  /-- The session. -/
  session : Session
  /-- Why the loop will stop, from when it has decided to. -/
  verdict : Option Exit
  /-- All that was put into the queue, oldest first. -/
  arrived : List Envelope
  /-- The reply to each message that was taken. -/
  replies : List (Option Bool)

namespace Exchange

/-- A cache and its clients, before anything was sent. -/
def opening (state : State) (clients : Std.ExtTreeSet Nat) : Exchange where
  session := { state, queue := [], exit := none, clients }
  verdict := none
  arrived := []
  replies := []

/-- The exchange when an envelope was sent, which arrives if the loop is there. -/
def sent (exchange : Exchange) (session : Session) (envelope : Envelope) : Exchange :=
  { exchange with
    session := session
    arrived :=
      if exchange.session.isConnected then exchange.arrived ++ [envelope] else exchange.arrived }

/-- A client does something. A file that is looked up and found is reported as used. -/
def call (exchange : Exchange) (client : Nat) : Call → Exchange
  | .submit message =>
    exchange.sent (exchange.session.submit message).1 { message, awaited := false }
  | .query message => exchange.sent (exchange.session.ask message) { message, awaited := true }
  | .get fileName parameter function =>
    match exchange.session.get fileName parameter function with
    | (_, none, _) => exchange
    | (session, some _, _) =>
      exchange.sent session
        { message := .get (entryKey fileName) parameter function, awaited := false }
  | .clone other => { exchange with session := exchange.session.addClient other }
  | .drop => { exchange with session := exchange.session.dropClient client }

/-- The loop takes a step. It takes the oldest message, or decides to stop when there is none and
every client has gone. Once it has decided to stop, its end of the queue goes. -/
def loop (exchange : Exchange) : Exchange :=
  match exchange.session.exit, exchange.verdict, exchange.session.queue with
  | some _, _, _ => exchange
  | none, some exit, _ =>
    { exchange with session := { exchange.session with queue := [], exit := some exit } }
  | none, none, [] =>
    if exchange.session.clients.isEmpty then
      { exchange with verdict := some (.disconnected exchange.session.state.summary) }
    else exchange
  | none, none, envelope :: queue =>
    let done := exchange.session.state.dispatch envelope
    { exchange with
      session := { exchange.session with state := done.state, queue := queue }
      verdict := done.exit
      replies := exchange.replies ++ done.replies }

/-- One step of a schedule. Who is not there does nothing. -/
def perform (exchange : Exchange) : Act → Exchange
  | .call client call =>
    if exchange.session.hasClient client then exchange.call client call else exchange
  | .loop => exchange.loop

/-- A whole schedule. -/
def performAll (exchange : Exchange) (acts : List Act) : Exchange :=
  acts.foldl perform exchange

/-- What the sender of an awaited message has been told. A sender that got no answer is told no,
once the message was taken or the loop is gone. -/
def resolved (exchange : Exchange) (position : Nat) : Option Bool :=
  match exchange.replies[position]? with
  | some reply => some (reply.getD false)
  | none => if exchange.session.exit.isSome then some false else none

/-- A sender that has been told something was told the reply, and no if there was none. -/
theorem resolved_eq_some {exchange : Exchange} {position : Nat}
    (htold : (exchange.resolved position).isSome = true) :
    exchange.resolved position = some ((exchange.replies[position]?.getD none).getD false) := by
  unfold resolved at htold ⊢
  cases hreply : exchange.replies[position]? with
  | some reply => rfl
  | none =>
    rw [hreply] at htold
    dsimp only at htold ⊢
    split at htold
    · rename_i hgone
      rw [if_pos hgone]
      rfl
    · cases htold

/-- What a call of a client changes: messages may arrive. -/
structure Sends (exchange after : Exchange) (envelopes : List Envelope) : Prop where
  /-- They are recorded as arrived. -/
  arrived : after.arrived = exchange.arrived ++ envelopes
  /-- They are at the end of the queue. -/
  queue : after.session.queue = exchange.session.queue ++ envelopes
  /-- The cache is the same. -/
  state : after.session.state = exchange.session.state
  /-- The loop has stopped or not, as before. -/
  exit : after.session.exit = exchange.session.exit
  /-- The loop has decided to stop or not, as before. -/
  verdict : after.verdict = exchange.verdict
  /-- Nothing was replied. -/
  replies : after.replies = exchange.replies

/-- Sending a message puts it at the end of the queue, if the loop is there. -/
theorem sends_sent {exchange : Exchange} {session : Session} {envelope : Envelope}
    (hsession : session = if exchange.session.isConnected then
      { exchange.session with queue := exchange.session.queue ++ [envelope] }
      else exchange.session) :
    ∃ envelopes, Sends exchange (exchange.sent session envelope) envelopes := by
  subst hsession
  cases hexit : exchange.session.exit with
  | none =>
    refine ⟨[envelope], ?_⟩
    constructor <;> simp [sent, Session.isConnected, hexit]
  | some exit =>
    refine ⟨[], ?_⟩
    constructor <;> simp [sent, Session.isConnected, hexit]

/-- A call of a client at most sends a message. -/
theorem sends_call (exchange : Exchange) (client : Nat) (call : Call) :
    ∃ envelopes, Sends exchange (exchange.call client call) envelopes := by
  have hnothing : Sends exchange exchange [] := by
    constructor <;> simp
  cases call with
  | submit message =>
    refine sends_sent ?_
    unfold Session.submit
    split <;> rfl
  | query message => exact sends_sent rfl
  | get fileName parameter function =>
    simp only [Exchange.call]
    split
    · exact ⟨[], hnothing⟩
    · rename_i session entry events hget
      refine sends_sent ?_
      cases hopen : exchange.session.isConnected with
      | false => simp [Session.get, hopen] at hget
      | true =>
        cases hfound : exchange.session.state.replica[entryKey fileName]? with
        | none => simp [Session.get, hopen, hfound] at hget
        | some found =>
          simp [Session.get, hopen, hfound, Session.submit] at hget
          simp [← hget.1]
  | clone other => exact ⟨[], ⟨by simp [Exchange.call], by simp [Exchange.call, Session.addClient],
      rfl, rfl, rfl, rfl⟩⟩
  | drop => exact ⟨[], ⟨by simp [Exchange.call], by simp [Exchange.call, Session.dropClient],
      rfl, rfl, rfl, rfl⟩⟩

/-- A session that has a client is not without clients. -/
theorem isEmpty_eq_false_of_hasClient {session : Session} {client : Nat}
    (hthere : session.hasClient client = true) : session.clients.isEmpty = false := by
  by_contra hnobody
  simp_all [Session.hasClient]

end Exchange

end SegmentCache
