import SegmentCache.Proofs.InOrder

/-!
# The loop gets on

Nothing that has happened in an exchange is taken back, and whenever the loop has its turn it gets
on with the queue. After a turn for each message in the queue and one more, whoever waits has been
told something, and after yet another the loop is gone if a message stops it or nobody is there.
Clients may act in between as they like.
-/

namespace SegmentCache

namespace Exchange

variable {initial : State} {exchange : Exchange} {taken waiting : List Envelope}

/-- What a later point of a schedule has kept: nothing is taken back. -/
structure Extends (exchange after : Exchange) : Prop where
  /-- What has arrived has arrived. -/
  arrived : exchange.arrived <+: after.arrived
  /-- Replies stand. -/
  replies : exchange.replies <+: after.replies
  /-- A decision to stop stands. -/
  verdict : ∀ {exit}, exchange.verdict = some exit → after.verdict = some exit
  /-- A loop that is gone does not come back. -/
  exit : ∀ {exit}, exchange.session.exit = some exit → after.session.exit = some exit

/-- A step of the loop takes nothing back. -/
theorem Extends.loop (exchange : Exchange) : exchange.Extends exchange.loop := by
  unfold Exchange.loop
  split
  · exact ⟨List.prefix_refl _, List.prefix_refl _, id, id⟩
  · rename_i hexit hverdict
    refine ⟨List.prefix_refl _, List.prefix_refl _, id, ?_⟩
    intro exit hstopped
    cases hexit.symm.trans hstopped
  · rename_i hexit hverdict hqueue
    split
    · refine ⟨List.prefix_refl _, List.prefix_refl _, ?_, id⟩
      intro exit hdecided
      cases hverdict.symm.trans hdecided
    · exact ⟨List.prefix_refl _, List.prefix_refl _, id, id⟩
  · rename_i hexit hverdict hqueue
    refine ⟨List.prefix_refl _, List.prefix_append _ _, ?_, id⟩
    intro exit hdecided
    cases hverdict.symm.trans hdecided

/-- A step of a schedule takes nothing back. -/
theorem Extends.perform (exchange : Exchange) (act : Act) :
    exchange.Extends (exchange.perform act) := by
  cases act with
  | loop => exact .loop exchange
  | call client call =>
    simp only [Exchange.perform]
    split
    · obtain ⟨envelopes, hsends⟩ := exchange.sends_call client call
      constructor
      · rw [hsends.arrived]
        exact List.prefix_append _ _
      · rw [hsends.replies]
      · rw [hsends.verdict]
        exact id
      · rw [hsends.exit]
        exact id
    · exact ⟨List.prefix_refl _, List.prefix_refl _, id, id⟩

/-- A schedule takes nothing back. -/
theorem Extends.performAll (exchange : Exchange) (acts : List Act) :
    exchange.Extends (exchange.performAll acts) := by
  induction acts generalizing exchange with
  | nil => exact ⟨List.prefix_refl _, List.prefix_refl _, id, id⟩
  | cons act acts ih =>
    have hstep := Extends.perform exchange act
    have hrest := ih (exchange.perform act)
    exact ⟨hstep.arrived.trans hrest.arrived, hstep.replies.trans hrest.replies,
      fun hdecided => hrest.verdict (hstep.verdict hdecided),
      fun hstopped => hrest.exit (hstep.exit hstopped)⟩

/-- A decision to stop stands along a schedule. -/
theorem verdict_isSome_performAll {exchange : Exchange} (hverdict : exchange.verdict.isSome = true)
    (acts : List Act) : (exchange.performAll acts).verdict.isSome = true := by
  obtain ⟨exit, hexit⟩ := Option.isSome_iff_exists.mp hverdict
  exact Option.isSome_of_mem ((Extends.performAll exchange acts).verdict hexit)

/-- A loop that is gone stays gone along a schedule. -/
theorem exit_isSome_performAll {exchange : Exchange}
    (hexit : exchange.session.exit.isSome = true) (acts : List Act) :
    (exchange.performAll acts).session.exit.isSome = true := by
  obtain ⟨exit, hstopped⟩ := Option.isSome_iff_exists.mp hexit
  exact Option.isSome_of_mem ((Extends.performAll exchange acts).exit hstopped)

/-- A call of a client is no step of the loop. -/
theorem count_loop_call (client : Nat) (call : Call) (acts : List Act) :
    (Act.call client call :: acts).count .loop = acts.count .loop :=
  List.count_cons_of_ne (by simp)

/-- The loop takes a message in each of its steps until it has taken those that have arrived,
unless it decides to stop. -/
theorem Follows.takes {exchange : Exchange} {taken waiting : List Envelope}
    (hfollows : exchange.Follows initial taken waiting) {count : Nat}
    (hcount : count ≤ exchange.arrived.length) {acts : List Act}
    (henough : count ≤ exchange.replies.length + acts.count .loop) :
    count ≤ (exchange.performAll acts).replies.length ∨
      (exchange.performAll acts).verdict.isSome = true := by
  induction acts generalizing exchange taken waiting with
  | nil => exact Or.inl henough
  | cons act acts ih =>
    by_cases hdone : count ≤ exchange.replies.length
    · exact Or.inl (hdone.trans (Extends.performAll exchange (act :: acts)).replies.length_le)
    cases hverdict : exchange.verdict with
    | some exit => exact Or.inr (verdict_isSome_performAll (by rw [hverdict]; rfl) (act :: acts))
    | none =>
      have hstep := Extends.perform exchange act
      obtain ⟨taken', waiting', hafter⟩ := hfollows.perform act
      refine ih hafter (hcount.trans hstep.arrived.length_le) ?_
      cases act with
      | call client call =>
        rw [count_loop_call] at henough
        exact henough.trans (Nat.add_le_add_right hstep.replies.length_le _)
      | loop =>
        rw [List.count_cons_self] at henough
        have hlength := hfollows.length
        cases waiting with
        | nil =>
          rw [hfollows.arrived, List.append_nil] at hcount
          omega
        | cons envelope waiting =>
          have hreplied := (hfollows.take hverdict).length
          simp only [List.length_append, List.length_singleton] at hreplied
          simp only [Exchange.perform]
          omega

/-- A loop that has decided to stop is gone after its next step. -/
theorem exit_of_verdict {exchange : Exchange} (hverdict : exchange.verdict.isSome = true)
    {acts : List Act} (hstep : 0 < acts.count .loop) :
    (exchange.performAll acts).session.exit.isSome = true := by
  induction acts generalizing exchange with
  | nil => cases hstep
  | cons act acts ih =>
    cases act with
    | call client call =>
      rw [count_loop_call] at hstep
      exact ih (verdict_isSome_performAll hverdict [.call client call]) hstep
    | loop =>
      refine @exit_isSome_performAll exchange.loop ?_ acts
      obtain ⟨exit, hexit⟩ := Option.isSome_iff_exists.mp hverdict
      cases hgone : exchange.session.exit <;> simp [Exchange.loop, hexit, hgone]

/-- Without clients nothing arrives and nobody comes. -/
theorem performAll_of_nobody {exchange : Exchange}
    (hnobody : exchange.session.clients.isEmpty = true) (acts : List Act) :
    (exchange.performAll acts).session.clients.isEmpty = true ∧
      (exchange.performAll acts).arrived = exchange.arrived := by
  induction acts generalizing exchange with
  | nil => exact ⟨hnobody, rfl⟩
  | cons act acts ih =>
    have hstep : (exchange.perform act).session.clients = exchange.session.clients ∧
        (exchange.perform act).arrived = exchange.arrived := by
      cases act with
      | call client call =>
        have hgone : exchange.session.hasClient client = false := by
          cases hthere : exchange.session.hasClient client with
          | false => rfl
          | true => cases hnobody.symm.trans (isEmpty_eq_false_of_hasClient hthere)
        simp [perform, hgone]
      | loop =>
        simp only [perform, loop]
        split
        · exact ⟨rfl, rfl⟩
        · exact ⟨rfl, rfl⟩
        · split <;> exact ⟨rfl, rfl⟩
        · exact ⟨rfl, rfl⟩
    obtain ⟨hrest, harrived⟩ := ih (hstep.1 ▸ hnobody)
    exact ⟨hrest, harrived.trans hstep.2⟩

/-- A loop that has taken everything decides to stop in its next step when nobody is there. -/
theorem Follows.verdict_of_nobody {exchange : Exchange} {taken waiting : List Envelope}
    (hfollows : exchange.Follows initial taken waiting)
    (hnobody : exchange.session.clients.isEmpty = true)
    (hdone : exchange.arrived.length ≤ exchange.replies.length) {acts : List Act}
    (hstep : 0 < acts.count .loop) : (exchange.performAll acts).verdict.isSome = true := by
  induction acts generalizing exchange taken waiting with
  | nil => cases hstep
  | cons act acts ih =>
    cases act with
    | call client call =>
      rw [count_loop_call] at hstep
      obtain ⟨hnobody', harrived⟩ := performAll_of_nobody hnobody [.call client call]
      obtain ⟨taken', waiting', hafter⟩ := hfollows.perform (.call client call)
      refine ih hafter hnobody' ?_ hstep
      have hreplies := (Extends.perform exchange (.call client call)).replies.length_le
      exact (congrArg List.length harrived).le.trans (hdone.trans hreplies)
    | loop =>
      refine @verdict_isSome_performAll exchange.loop ?_ acts
      cases hverdict : exchange.verdict with
      | some exit => exact Option.isSome_of_mem ((Extends.loop exchange).verdict hverdict)
      | none =>
        have hopen := hfollows.exit_eq_none hverdict
        have hempty : exchange.session.queue = [] := by
          rw [hfollows.queue hopen, ← List.length_eq_zero_iff]
          rw [hfollows.arrived, hfollows.length, List.length_append] at hdone
          omega
        simp [Exchange.loop, hopen, hverdict, hempty, hnobody]

/-- A schedule with enough steps of the loop falls into parts that have enough each. -/
theorem exists_split {acts : List Act} {first second : Nat}
    (henough : first + second ≤ acts.count .loop) :
    ∃ earlier later, acts = earlier ++ later ∧ first ≤ earlier.count .loop ∧
      second ≤ later.count .loop := by
  induction acts generalizing first with
  | nil =>
    rw [List.count_nil] at henough
    exact ⟨[], [], rfl, by omega, by omega⟩
  | cons act acts ih =>
    cases first with
    | zero => exact ⟨[], act :: acts, rfl, Nat.zero_le _, by omega⟩
    | succ first =>
      cases act with
      | call client call =>
        rw [count_loop_call] at henough
        obtain ⟨earlier, later, rfl, hfirst, hsecond⟩ := ih henough
        exact ⟨.call client call :: earlier, later, rfl, by rwa [count_loop_call], hsecond⟩
      | loop =>
        rw [List.count_cons_self] at henough
        obtain ⟨earlier, later, rfl, hfirst, hsecond⟩ := @ih first (by omega)
        exact ⟨.loop :: earlier, later, rfl, by rw [List.count_cons_self]; omega, hsecond⟩

/-- Performing a schedule in two parts. -/
theorem performAll_append (exchange : Exchange) (earlier later : List Act) :
    exchange.performAll (earlier ++ later) =
      (exchange.performAll earlier).performAll later :=
  List.foldl_append

/-- As long as the loop is there, what has arrived was replied to or is in the queue. -/
theorem Follows.length_arrived (hfollows : exchange.Follows initial taken waiting)
    (hopen : exchange.session.exit = none) :
    exchange.arrived.length = exchange.replies.length + exchange.session.queue.length := by
  rw [hfollows.arrived, hfollows.queue hopen, hfollows.length, List.length_append]

/-- After a step for each message in the queue and one more, the loop has taken them all or is
gone. -/
theorem Follows.takes_all (hfollows : exchange.Follows initial taken waiting) {acts : List Act}
    (henough : exchange.session.queue.length + 1 ≤ acts.count .loop) :
    exchange.arrived.length ≤ (exchange.performAll acts).replies.length ∨
      (exchange.performAll acts).session.exit.isSome = true := by
  cases hexit : exchange.session.exit with
  | some exit => exact Or.inr (exit_isSome_performAll (by rw [hexit]; rfl) acts)
  | none =>
    have hlength := hfollows.length_arrived hexit
    obtain ⟨earlier, later, rfl, hearlier, hlater⟩ := exists_split henough
    rw [performAll_append]
    rcases hfollows.takes (Nat.le_refl _) (hlength.le.trans (Nat.add_le_add_left hearlier _))
      with htaken | hverdict
    · have hkept := (Extends.performAll (exchange.performAll earlier) later).replies.length_le
      exact Or.inl (htaken.trans hkept)
    · exact Or.inr (exit_of_verdict hverdict hlater)

/-- By then every sender that waits has been told something. -/
theorem Follows.resolved_isSome (hfollows : exchange.Follows initial taken waiting)
    {acts : List Act} (henough : exchange.session.queue.length + 1 ≤ acts.count .loop)
    {position : Nat} (hposition : position < exchange.arrived.length) :
    ((exchange.performAll acts).resolved position).isSome = true := by
  unfold resolved
  split
  · rfl
  · rename_i hnone
    have hmissing := List.getElem?_eq_none_iff.mp hnone
    rcases hfollows.takes_all henough with htaken | hexit
    · omega
    · rw [if_pos hexit]
      rfl

/-- The loop ends once a message that stops it has arrived, or every client has gone: after a step
for each message in the queue, one to decide and one to go. -/
theorem Follows.exit_isSome (hfollows : exchange.Follows initial taken waiting)
    (hends : (initial.exitOf (exchange.arrived.map Envelope.message)).isSome = true ∨
      exchange.session.clients.isEmpty = true)
    {acts : List Act} (henough : exchange.session.queue.length + (1 + 1) ≤ acts.count .loop) :
    (exchange.performAll acts).session.exit.isSome = true := by
  cases hexit : exchange.session.exit with
  | some exit => exact exit_isSome_performAll (by rw [hexit]; rfl) acts
  | none =>
    have hlength := hfollows.length_arrived hexit
    obtain ⟨takes, rest, rfl, htakes, hrest⟩ := exists_split henough
    obtain ⟨decides, goes, rfl, hdecides, hgoes⟩ := exists_split hrest
    rw [performAll_append, performAll_append]
    refine exit_of_verdict ?_ hgoes
    obtain ⟨taken', waiting', hafter⟩ := hfollows.performAll takes
    rcases hfollows.takes (Nat.le_refl _) (hlength.le.trans (Nat.add_le_add_left htakes _))
      with htaken | hverdict
    · rcases hends with hstop | hnobody
      · -- The message that stops the loop is among those taken, so the loop has decided.
        refine verdict_isSome_performAll ?_ decides
        cases hverdict : (exchange.performAll takes).verdict with
        | some exit => rfl
        | none =>
          have hlater := (Extends.performAll exchange takes).arrived
          rw [hafter.arrived] at hlater
          rw [hafter.length] at htaken
          obtain ⟨more, rfl⟩ :=
            List.prefix_of_prefix_length_le hlater (List.prefix_append _ _) htaken
          have hnone := hafter.running hverdict
          rw [List.map_append, State.exitOf_append, Option.or_eq_none_iff] at hnone
          rw [hnone.1] at hstop
          cases hstop
      · obtain ⟨hnobody', harrived⟩ := performAll_of_nobody hnobody takes
        exact hafter.verdict_of_nobody hnobody' (harrived.symm ▸ htaken) hdecides
    · exact verdict_isSome_performAll hverdict decides

end Exchange

end SegmentCache
