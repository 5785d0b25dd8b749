import SegmentCache.Proofs.Exchange

/-!
# Messages are taken in the order of their arrival

`Follows` says how far an exchange has come with the messages that have arrived: the loop has
handled the first of them in turn and did not go on after one that stops it. Every step of a
schedule keeps it. A sender that waits is told what the state says that the earlier messages have
led to.
-/

namespace SegmentCache

namespace Exchange

/-- An exchange has done what handling the messages it has taken does. The others wait in the queue
or are lost. -/
structure Follows (initial : State) (exchange : Exchange) (taken waiting : List Envelope) :
    Prop where
  /-- The messages were taken in the order of their arrival. -/
  arrived : exchange.arrived = taken ++ waiting
  /-- The others are in the queue, as long as the loop is there. -/
  queue : exchange.session.exit = none → exchange.session.queue = waiting
  /-- The cache has handled those taken, in turn. -/
  state : exchange.session.state = initial.handleAll (taken.map Envelope.message)
  /-- The loop did not go on after one that stops it. -/
  untilStop : initial.untilStop (taken.map Envelope.message) = taken.map Envelope.message
  /-- Each that was taken has one reply. -/
  length : exchange.replies.length = taken.length
  /-- An awaited question is answered from what was taken before it. -/
  answered : ∀ {position reply}, exchange.replies[position]? = some reply →
    ∃ envelope : Envelope, taken[position]? = some envelope ∧
      reply = if envelope.awaited then
        (initial.handleAll ((taken.take position).map Envelope.message)).answer? envelope.message
        else none
  /-- A loop that goes on has no reason to stop. -/
  running : exchange.verdict = none → initial.exitOf (taken.map Envelope.message) = none
  /-- A loop that stops was stopped by a message, or nobody is there to send another. -/
  stopping : ∀ {exit}, exchange.verdict = some exit →
    initial.exitOf (taken.map Envelope.message) = some exit ∨
      (initial.exitOf (taken.map Envelope.message) = none ∧ waiting = [] ∧
        exchange.session.clients.isEmpty = true ∧
        exit = .disconnected exchange.session.state.summary)
  /-- A loop is gone for the reason for which it decided to stop. -/
  stopped : ∀ {exit}, exchange.session.exit = some exit → exchange.verdict = some exit

variable {initial : State} {exchange : Exchange} {taken waiting : List Envelope}

/-- A loop that has not decided to stop is there. -/
theorem Follows.exit_eq_none (hfollows : exchange.Follows initial taken waiting)
    (hverdict : exchange.verdict = none) : exchange.session.exit = none := by
  cases hexit : exchange.session.exit with
  | none => rfl
  | some exit => cases (hfollows.stopped hexit).symm.trans hverdict

/-- A client that is there may send messages, which wait behind the others. -/
theorem Follows.call (hfollows : exchange.Follows initial taken waiting) {client : Nat}
    (hthere : exchange.session.hasClient client = true) (call : Call) :
    ∃ envelopes, (exchange.call client call).Follows initial taken (waiting ++ envelopes) := by
  obtain ⟨envelopes, hsends⟩ := exchange.sends_call client call
  refine ⟨envelopes, ?_⟩
  constructor
  · rw [hsends.arrived, hfollows.arrived, List.append_assoc]
  · rw [hsends.exit, hsends.queue]
    exact fun hopen => by rw [hfollows.queue hopen]
  · rw [hsends.state]
    exact hfollows.state
  · exact hfollows.untilStop
  · rw [hsends.replies]
    exact hfollows.length
  · rw [hsends.replies]
    exact hfollows.answered
  · rw [hsends.verdict]
    exact hfollows.running
  · rw [hsends.verdict]
    intro exit hverdict
    -- A loop that nobody can send to does not see this call.
    refine Or.inl ((hfollows.stopping hverdict).resolve_right ?_)
    rintro ⟨-, -, hnobody, -⟩
    rw [isEmpty_eq_false_of_hasClient hthere] at hnobody
    cases hnobody
  · rw [hsends.exit, hsends.verdict]
    exact hfollows.stopped

/-- Taking the oldest message handles it after those taken before. -/
theorem Follows.take {envelope : Envelope}
    (hfollows : exchange.Follows initial taken (envelope :: waiting))
    (hverdict : exchange.verdict = none) :
    exchange.loop.Follows initial (taken ++ [envelope]) waiting := by
  have hopen := hfollows.exit_eq_none hverdict
  have hgoes := hfollows.running hverdict
  have hloop : exchange.loop =
      { exchange with
        session := { exchange.session with
          state := (exchange.session.state.handle envelope.message).state, queue := waiting }
        verdict := exchange.session.state.exitAt envelope.message
        replies := exchange.replies ++
          [if envelope.awaited then exchange.session.state.answer? envelope.message else none] } := by
    simp only [loop, hopen, hverdict, hfollows.queue hopen, State.dispatch_state,
      State.dispatch_exit, State.dispatch_replies]
  have hexit : initial.exitOf ((taken ++ [envelope]).map Envelope.message) =
      exchange.session.state.exitAt envelope.message := by
    rw [List.map_append, List.map_singleton, State.exitOf_concat hgoes, hfollows.state]
  rw [hloop]
  constructor
  · simp [hfollows.arrived]
  · exact fun _ => rfl
  · simp [State.handleAll, hfollows.state]
  · rw [List.map_append, List.map_singleton, State.untilStop_concat hgoes]
  · simp [hfollows.length]
  · intro position reply hreply
    by_cases hold : position < exchange.replies.length
    · rw [List.getElem?_append_left hold] at hreply
      obtain ⟨asked, hasked, hanswer⟩ := hfollows.answered hreply
      have hwithin : position < taken.length := hfollows.length ▸ hold
      refine ⟨asked, ?_, ?_⟩
      · rw [List.getElem?_append_left hwithin, hasked]
      · rw [List.take_append_of_le_length hwithin.le, hanswer]
    · obtain rfl : position = taken.length := by
        have hbound := (List.getElem?_eq_some_iff.mp hreply).1
        simp only [List.length_append, List.length_singleton] at hbound
        have hlength := hfollows.length
        omega
      rw [← hfollows.length, List.getElem?_concat_length] at hreply
      refine ⟨envelope, List.getElem?_concat_length, ?_⟩
      rw [List.take_left, ← hfollows.state]
      exact (Option.some.inj hreply).symm
  · rw [hexit]
    exact id
  · rw [hexit]
    exact Or.inl
  · intro exit hstopped
    rw [hopen] at hstopped
    cases hstopped

/-- A step of the loop takes a message, or leaves those taken and those waiting as they are. -/
theorem Follows.loop (hfollows : exchange.Follows initial taken waiting) :
    ∃ taken' waiting', exchange.loop.Follows initial taken' waiting' := by
  cases hexit : exchange.session.exit with
  | some exit =>
    have hloop : exchange.loop = exchange := by simp [Exchange.loop, hexit]
    exact ⟨taken, waiting, hloop.symm ▸ hfollows⟩
  | none =>
    have hqueue := hfollows.queue hexit
    cases hverdict : exchange.verdict with
    | some exit =>
      have hloop : exchange.loop = { exchange with
          session := { exchange.session with queue := [], exit := some exit } } := by
        simp [Exchange.loop, hexit, hverdict]
      rw [hloop]
      exact ⟨taken, waiting, hfollows.arrived, nofun, hfollows.state, hfollows.untilStop,
        hfollows.length, hfollows.answered, hfollows.running, hfollows.stopping,
        fun hstopped => hstopped ▸ hverdict⟩
    | none =>
      cases waiting with
      | cons envelope waiting => exact ⟨taken ++ [envelope], waiting, hfollows.take hverdict⟩
      | nil =>
        cases hclients : exchange.session.clients.isEmpty with
        | false =>
          have hloop : exchange.loop = exchange := by
            simp [Exchange.loop, hexit, hverdict, hqueue, hclients]
          exact ⟨taken, [], hloop.symm ▸ hfollows⟩
        | true =>
          have hloop : exchange.loop = { exchange with
              verdict := some (.disconnected exchange.session.state.summary) } := by
            simp [Exchange.loop, hexit, hverdict, hqueue, hclients]
          rw [hloop]
          refine ⟨taken, [], hfollows.arrived, hfollows.queue, hfollows.state, hfollows.untilStop,
            hfollows.length, hfollows.answered, nofun, ?_, ?_⟩
          · rintro exit ⟨⟩
            exact Or.inr ⟨hfollows.running hverdict, rfl, hclients, rfl⟩
          · intro exit hstopped
            cases hexit.symm.trans hstopped

/-- Every step of a schedule keeps what was taken in line with what was handled. -/
theorem Follows.perform (hfollows : exchange.Follows initial taken waiting) (act : Act) :
    ∃ taken' waiting', (exchange.perform act).Follows initial taken' waiting' := by
  cases act with
  | loop => exact hfollows.loop
  | call client call =>
    simp only [Exchange.perform]
    split
    · rename_i hthere
      obtain ⟨envelopes, hafter⟩ := hfollows.call hthere call
      exact ⟨taken, waiting ++ envelopes, hafter⟩
    · exact ⟨taken, waiting, hfollows⟩

/-- So does a whole schedule. -/
theorem Follows.performAll {exchange : Exchange} {taken waiting : List Envelope}
    (hfollows : exchange.Follows initial taken waiting) (acts : List Act) :
    ∃ taken' waiting', (exchange.performAll acts).Follows initial taken' waiting' := by
  induction acts generalizing exchange taken waiting with
  | nil => exact ⟨taken, waiting, hfollows⟩
  | cons act acts ih =>
    obtain ⟨taken', waiting', hafter⟩ := hfollows.perform act
    exact ih hafter

/-- Before anything was sent, nothing was taken and nothing waits. -/
theorem Follows.opening (state : State) (clients : Std.ExtTreeSet Nat) :
    (opening state clients).Follows state [] [] := by
  constructor <;> simp [Exchange.opening, State.handleAll, State.untilStop, State.exitOf]

/-- What was taken is a beginning of the messages up to the one that stops the loop. -/
theorem Follows.taken_prefix (hfollows : exchange.Follows initial taken waiting) :
    taken.map Envelope.message <+:
      initial.untilStop (exchange.arrived.map Envelope.message) := by
  rw [hfollows.arrived, List.map_append]
  cases hexit : initial.exitOf (taken.map Envelope.message) with
  | none =>
    rw [State.untilStop_append hexit]
    exact List.prefix_append _ _
  | some exit =>
    rw [State.untilStop_append_of_stop (by rw [hexit]; rfl), hfollows.untilStop]

/-- A loop that decided to stop has taken all the messages up to the one that stopped it, and
without one all there are. -/
theorem Follows.of_verdict (hfollows : exchange.Follows initial taken waiting) {exit : Exit}
    (hverdict : exchange.verdict = some exit) :
    taken.map Envelope.message =
        initial.untilStop (exchange.arrived.map Envelope.message) ∧
      exit = (initial.exitOf (exchange.arrived.map Envelope.message)).getD
        (.disconnected exchange.session.state.summary) ∧
      (initial.exitOf (exchange.arrived.map Envelope.message) = none →
        exchange.session.clients.isEmpty = true) := by
  rw [hfollows.arrived, List.map_append, State.exitOf_append]
  rcases hfollows.stopping hverdict with hstop | ⟨hgoes, rfl, hnobody, rfl⟩
  · rw [State.untilStop_append_of_stop (by rw [hstop]; rfl), hfollows.untilStop, hstop]
    simp
  · simp [hgoes, State.exitOf, State.untilStop_eq_self hgoes, hnobody]

/-- What a sender that waits is told is the answer that the order of arrival gives. -/
theorem Follows.resolved_sound (hfollows : exchange.Follows initial taken waiting)
    {position : Nat} {message : Message} {answer : Bool}
    (hasked : exchange.arrived[position]? = some { message, awaited := true })
    (hresolved : exchange.resolved position = some answer) :
    answer = initial.answerAt (exchange.arrived.map Envelope.message) position := by
  unfold resolved at hresolved
  split at hresolved
  · rename_i reply hreply
    obtain ⟨envelope, htaken, rfl⟩ := hfollows.answered hreply
    have hwithin : position < taken.length := (List.getElem?_eq_some_iff.mp htaken).1
    rw [hfollows.arrived, List.getElem?_append_left hwithin, htaken] at hasked
    cases hasked
    -- The message is among those before the stop, since it was taken.
    have hbefore : (initial.untilStop (exchange.arrived.map Envelope.message))[position]? =
        some message := by
      obtain ⟨rest, hrest⟩ := hfollows.taken_prefix
      rw [← hrest, List.getElem?_append_left (by simpa using hwithin), List.getElem?_map, htaken]
      rfl
    rw [State.answerAt, hbefore, hfollows.arrived, ← List.map_take,
      List.take_append_of_le_length hwithin.le]
    exact (Option.some.inj hresolved).symm
  · rename_i hnone
    have hmissing := List.getElem?_eq_none_iff.mp hnone
    split at hresolved
    · rename_i hgone
      obtain ⟨exit, hexit⟩ := Option.isSome_iff_exists.mp hgone
      have hall := (hfollows.of_verdict (hfollows.stopped hexit)).1
      have hbeyond : (initial.untilStop (exchange.arrived.map Envelope.message))[position]? =
          none := by
        rw [← hall, List.getElem?_eq_none_iff, List.length_map, ← hfollows.length]
        exact hmissing
      rw [State.answerAt, hbeyond]
      exact (Option.some.inj hresolved).symm
    · cases hresolved

end Exchange

end SegmentCache
