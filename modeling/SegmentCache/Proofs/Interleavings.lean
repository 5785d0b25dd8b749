import SegmentCache.Proofs.Progress

/-!
# Clients and loop in any order

A call that waits for the loop is a schedule in which nobody else acts, so the calls of a session
agree with what schedules give. `command_loop_eq_fold` puts this together: in whatever order
clients and loop act, what clients see of the loop is what handling the messages one after the
other gives.
-/

namespace SegmentCache

namespace Exchange

variable {initial : State} {exchange : Exchange} {taken waiting : List Envelope}

/-- The loop steps one after the other. -/
theorem performAll_loop_succ (exchange : Exchange) (steps : Nat) :
    exchange.performAll (List.replicate (steps + 1) .loop) =
      exchange.loop.performAll (List.replicate steps .loop) := rfl

/-- A loop that has nothing to do does nothing, however often it is its turn. -/
theorem performAll_loop_of_idle {exchange : Exchange} (hidle : exchange.loop = exchange)
    (steps : Nat) : exchange.performAll (List.replicate steps .loop) = exchange := by
  induction steps with
  | zero => rfl
  | succ steps ih => rw [performAll_loop_succ, hidle, ih]

/-- Letting the loop work through the queue is a schedule in which nobody else acts. -/
theorem performAll_loop_eq_drain {exchange : Exchange} (hverdict : exchange.verdict = none)
    (hopen : exchange.session.exit = none) (hclients : exchange.session.clients.isEmpty = false)
    {steps : Nat} (henough : exchange.session.queue.length < steps) :
    (exchange.performAll (List.replicate steps .loop)).session = exchange.session.drain.1 ∧
      (exchange.performAll (List.replicate steps .loop)).replies =
        exchange.replies ++ exchange.session.drain.2.1 ∧
      (exchange.performAll (List.replicate steps .loop)).arrived = exchange.arrived := by
  obtain ⟨⟨state, queue, exit, clients⟩, verdict, arrived, replies⟩ := exchange
  simp only at hverdict hopen hclients henough
  subst hverdict hopen
  induction queue generalizing state replies steps with
  | nil =>
    rw [performAll_loop_of_idle (by simp [loop, hclients])]
    simp [Session.drain, State.run]
  | cons envelope queue ih =>
    obtain ⟨steps, rfl⟩ := Nat.exists_eq_add_one_of_ne_zero (Nat.ne_zero_of_lt henough)
    rw [List.length_cons, Nat.add_lt_add_iff_right] at henough
    rw [performAll_loop_succ, loop]
    cases hexit : (state.dispatch envelope).exit with
    | none =>
      obtain ⟨hsession, hreplies, harrived⟩ := ih (replies ++ (state.dispatch envelope).replies)
        (state.dispatch envelope).state henough
      simp only [hexit, hsession, hreplies, harrived]
      simp [Session.drain, State.run, hexit]
    | some exit =>
      -- The step after the one that stopped the loop drops the queue, and that is all.
      obtain ⟨steps, rfl⟩ := Nat.exists_eq_add_one_of_ne_zero (Nat.ne_zero_of_lt henough)
      simp only [hexit]
      rw [performAll_loop_succ, performAll_loop_of_idle (by simp [loop])]
      simp [loop, Session.drain, State.run, hexit]

/-- A question that is asked while the loop is there arrives. -/
theorem call_query {exchange : Exchange} (hopen : exchange.session.exit = none) (client : Nat)
    (message : Message) :
    exchange.call client (.query message) =
      { exchange with
        session := { exchange.session with
          queue := exchange.session.queue ++ [{ message, awaited := true }] }
        arrived := exchange.arrived ++ [{ message, awaited := true }] } := by
  simp [call, sent, Session.ask, Session.isConnected, hopen]

/-- Asking a question as a whole gives the answer that the order of arrival gives. -/
theorem Follows.query_eq (hfollows : exchange.Follows initial taken waiting)
    (hverdict : exchange.verdict = none) {client : Nat}
    (hthere : exchange.session.hasClient client = true) (message : Message) :
    (exchange.session.query message).2.1 =
      initial.answerAt (exchange.arrived.map Envelope.message ++ [message])
        exchange.arrived.length := by
  have hopen := hfollows.exit_eq_none hverdict
  have hlength := hfollows.length_arrived hopen
  have hquery := Session.query_of_connected hopen message
  have hask : exchange.session.ask message = (exchange.call client (.query message)).session := rfl
  obtain ⟨envelopes, hasked⟩ := hfollows.call hthere (.query message)
  have hshape := call_query hopen client message
  rw [hask] at hquery
  generalize exchange.call client (.query message) = asked at hasked hshape hquery
  -- The loop works through the queue and nobody else acts.
  have hsteps : asked.session.queue.length < exchange.session.queue.length + 2 := by
    simp [hshape]
  obtain ⟨-, hreplies, harrived⟩ := performAll_loop_eq_drain (by rw [hshape]; exact hverdict)
    (by rw [hshape]; exact hopen) (by rw [hshape]; exact isEmpty_eq_false_of_hasClient hthere)
    hsteps
  have hresolved := @resolved_isSome _ _ _ _ hasked
    (List.replicate (exchange.session.queue.length + 2) .loop)
    (by rw [List.count_replicate_self]; exact hsteps) exchange.arrived.length (by simp [hshape])
  obtain ⟨taken', waiting', hsettled⟩ := hasked.performAll
    (List.replicate (exchange.session.queue.length + 2) .loop)
  generalize asked.performAll (List.replicate (exchange.session.queue.length + 2) .loop) = settled
    at hreplies harrived hresolved hsettled
  have hreply : settled.replies[exchange.arrived.length]? =
      asked.session.drain.2.1[exchange.session.queue.length]? := by
    rw [hreplies, hlength, hshape, List.getElem?_append_right (Nat.le_add_right _ _),
      Nat.add_sub_cancel_left]
  have htold : settled.resolved exchange.arrived.length =
      some (exchange.session.query message).2.1 := by
    rw [resolved_eq_some hresolved, hreply, hquery]
  have hanswer := @resolved_sound _ _ _ _ hsettled exchange.arrived.length message _
    (by rw [harrived, hshape]; exact List.getElem?_concat_length) htold
  rw [harrived, hshape] at hanswer
  simpa using hanswer

/-- Letting every client go and the loop work to its end handles what has arrived up to the message
that stops the loop. -/
theorem Follows.finish_eq (hfollows : exchange.Follows initial taken waiting)
    (hverdict : exchange.verdict = none)
    (hclients : exchange.session.clients.isEmpty = false) :
    exchange.session.finish.1.state =
        initial.handleAll (initial.untilStop (exchange.arrived.map Envelope.message)) ∧
      exchange.session.finish.2.1 =
        (initial.exitOf (exchange.arrived.map Envelope.message)).getD
          (.disconnected exchange.session.finish.1.state.summary) := by
  have hsteps : exchange.session.queue.length < exchange.session.queue.length + 2 := by omega
  obtain ⟨hsession, -, harrived⟩ := performAll_loop_eq_drain hverdict
    (hfollows.exit_eq_none hverdict) hclients hsteps
  have hcount : exchange.session.queue.length + 2 ≤
      (List.replicate (exchange.session.queue.length + 2) Act.loop).count .loop := by
    rw [List.count_replicate_self]
  have htakes := hfollows.takes_all (Nat.le_of_succ_le hcount)
  have hends := fun hstop => hfollows.exit_isSome (Or.inl hstop) hcount
  obtain ⟨taken', waiting', hdrained⟩ := hfollows.performAll
    (List.replicate (exchange.session.queue.length + 2) .loop)
  rw [(Session.finish_eq _).1, (Session.finish_eq _).2, ← hsession]
  generalize exchange.performAll (List.replicate (exchange.session.queue.length + 2) .loop) =
    drained at hsession harrived htakes hends hdrained ⊢
  cases hexit : drained.session.exit with
  | some exit =>
    obtain ⟨hall, hreason, -⟩ := hdrained.of_verdict (hdrained.stopped hexit)
    rw [harrived] at hall hreason
    exact ⟨by rw [hdrained.state, hall], hreason⟩
  | none =>
    -- The loop is there still, so it has taken everything and found no reason to stop.
    rw [hexit] at htakes hends
    have hgoes : initial.exitOf (exchange.arrived.map Envelope.message) = none := by
      cases hstop : initial.exitOf (exchange.arrived.map Envelope.message) with
      | none => rfl
      | some exit => cases hends (by rw [hstop]; rfl)
    have hall : taken' = exchange.arrived := by
      have htaken := htakes.resolve_right nofun
      rw [← harrived, hdrained.arrived, hdrained.length] at htaken
      rw [← harrived, hdrained.arrived]
      exact (List.prefix_append taken' waiting').eq_of_length_le htaken
    rw [hgoes, State.untilStop_eq_self hgoes, hdrained.state, hall]
    exact ⟨rfl, rfl⟩

/-- The command loop is a fold over the messages in the order in which they arrive, whatever the
clients do and whenever the loop gets its turn. It stops at the first message that asks it to, fails
or crashes, and only a copy to a device of what no buffer can hold crashes. -/
theorem command_loop_eq_fold (state : State) (clients : Std.ExtTreeSet Nat) (acts : List Act) :
    let exchange := (opening state clients).performAll acts
    let session := exchange.session
    let messages := exchange.arrived.map Envelope.message
    let taken := messages.take exchange.replies.length
    -- The loop has handled a beginning of the messages up to the one that stops it.
    (taken <+: state.untilStop messages ∧ session.state = state.handleAll taken) ∧
    -- When it is gone it has handled all of these, and the reason is in the last of them. Without
    -- a message that stops it, it has handled everything and every client has gone.
    (∀ {exit}, session.exit = some exit →
      taken = state.untilStop messages ∧
      exit = (state.exitOf messages).getD (.disconnected session.state.summary) ∧
      (state.exitOf messages = none → session.clients.isEmpty = true) ∧
      (exit = .crashed → ∃ earlier offer, taken = earlier ++ [.putGpu offer] ∧
        ((state.handleAll earlier).handle (.putGpu offer)).result = .crashed ∧
        Contents.maxLength < offer.size.toNat)) ∧
    -- A sender that waits is told the answer of the state that the earlier messages lead to.
    (∀ {position message answer},
      exchange.arrived[position]? = some { message, awaited := true } →
      exchange.resolved position = some answer → answer = state.answerAt messages position) ∧
    -- With enough turns of the loop every sender is told something, and the loop goes if it must.
    (∀ later, session.queue.length + 2 ≤ later.count .loop →
      (∀ {position}, position < exchange.arrived.length →
        ((exchange.performAll later).resolved position).isSome = true) ∧
      ((state.exitOf messages).isSome = true ∨ session.clients.isEmpty = true →
        (exchange.performAll later).session.exit.isSome = true)) ∧
    -- Calls that let the loop work until they return agree with this.
    (exchange.verdict = none → ∀ {client}, session.hasClient client = true →
      (∀ message, (session.query message).2.1 =
        state.answerAt (messages ++ [message]) exchange.arrived.length) ∧
      session.finish.1.state = state.handleAll (state.untilStop messages) ∧
      session.finish.2.1 =
        (state.exitOf messages).getD (.disconnected session.finish.1.state.summary)) ∧
    -- When the loop is gone, clients find nothing.
    (session.exit.isSome = true → ∀ message fileName parameter function,
      (session.submit message).2.1 = false ∧ (session.query message).2.1 = false ∧
      (session.get fileName parameter function).2.1 = none ∧ session.hint fileName = false) := by
  intro exchange session messages taken
  obtain ⟨taken', waiting, hfollows⟩ := (Follows.opening state clients).performAll acts
  have htaken : taken = taken'.map Envelope.message := by
    show (exchange.arrived.map Envelope.message).take exchange.replies.length = _
    rw [← List.map_take, hfollows.arrived, hfollows.length, List.take_left]
  rw [htaken]
  refine ⟨⟨hfollows.taken_prefix, hfollows.state⟩, ?_, ?_, ?_, ?_, ?_⟩
  · intro exit hexit
    obtain ⟨hall, hreason, hclients⟩ := hfollows.of_verdict (hfollows.stopped hexit)
    refine ⟨hall, hreason, hclients, ?_⟩
    rintro rfl
    have hstops : state.exitOf messages = some .crashed := by
      change Exit.crashed = (state.exitOf messages).getD _ at hreason
      cases hexits : state.exitOf messages with
      | none =>
        rw [hexits] at hreason
        cases hreason
      | some reason =>
        rw [hexits] at hreason
        exact congrArg some hreason.symm
    rw [hall]
    exact State.exitOf_eq_crashed hstops
  · exact hfollows.resolved_sound
  · intro later henough
    exact ⟨fun hposition => hfollows.resolved_isSome (Nat.le_of_succ_le henough) hposition,
      fun hends => hfollows.exit_isSome hends henough⟩
  · intro hverdict client hthere
    exact ⟨hfollows.query_eq hverdict hthere,
      hfollows.finish_eq hverdict (isEmpty_eq_false_of_hasClient hthere)⟩
  · intro hgone message fileName parameter function
    have hclosed : session.isConnected = false := by
      rw [Session.isConnected, Option.isNone_eq_false_iff]
      exact hgone
    simp [Session.submit, Session.query, Session.get, Session.hint, hclosed]

/-- A copy to a device of one byte more than a buffer can have crashes the loop, which then has none
of the other reasons to stop. A question that was sent before is not answered. -/
theorem loop_crashes_on_overlong_copy :
    let config : Config := { devices := [{ id := 0, bus := "b", capacity := 100 }] }
    let state := State.initial config (Store.empty none) FileTree.empty ""
    let exchange := (opening state (.ofList [0])).performAll
      [.call 0 (.submit (.putGpu
          { fileName := "a", handle := "h", size := 9223372036854775808, bus := "b" })),
        .call 0 (.query (.isInCache "a")), .loop, .loop]
    config.validate = .ok () ∧ exchange.session.exit = some .crashed ∧
      exchange.resolved 1 = some false := by
  intro config state exchange
  exact ⟨by decide +kernel, by decide +kernel, by decide +kernel⟩

/-- One client locks a file twice, which the cache does not survive. The other has its first question
answered. Its second comes too late, although it was sent before the loop was gone. -/
example :
    let state := State.initial (Config.ofCapacity 10) (Store.empty none) FileTree.empty ""
    let exchange := (opening state (.ofList [0])).performAll
      [.call 0 (.clone 1), .call 0 (.submit (.put { fileName := "a", handle := "h", size := 1 })),
        .call 0 (.submit (.lock "a")), .call 1 (.query (.isLocked "a")),
        .call 0 (.submit (.lock "a")), .loop, .call 1 (.query (.isLocked "a")), .loop, .loop,
        .loop, .loop]
    exchange.resolved 2 = some true ∧ exchange.resolved 4 = some false ∧
      exchange.session.exit = some (.failed (.alreadyLocked "a")) := by
  decide +kernel

end Exchange

end SegmentCache
