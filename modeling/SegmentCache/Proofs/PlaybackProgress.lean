import SegmentCache.Proofs.Playback

/-!
# Playing a script comes to its end

Whatever the reader or the loop does takes from the work that is left (`Playback.effort`), and as
long as the run is not over one of them has something to do. So the run is over after as many
rounds as there is work, when both get a turn in each round, in whatever order and however often.
`Steady` says what of an invariant is needed for this.
-/

namespace SegmentCache

/-- How many steps the loop has left: one for each message in the queue, one to decide and one to
go. -/
def Exchange.effort (exchange : Exchange) : Nat :=
  exchange.session.queue.length + (if exchange.verdict.isNone then 1 else 0) +
    (if exchange.session.exit.isNone then 1 else 0)

/-- How many steps the reader and its messages have left: four for each line, as it is read, sent,
answered and taken from the queue, and one to go. -/
def Phase.effort : Phase → Nat
  | .reading _ lines => 4 * lines.length + 1
  | .sending _ _ lines => 4 * lines.length + 4
  | .waiting _ _ _ lines => 4 * lines.length + 2
  | .ended _ | .crashed => 0

/-- Nothing follows that was not there before. -/
theorem ScriptLine.length_following_le (message : Message) (lines : List ScriptLine) :
    (following message lines).length ≤ lines.length := by
  unfold following
  split
  · exact Nat.zero_le _
  · exact Nat.le_refl _

namespace Exchange

/-- The loop is gone, or waits for messages, or gets on with its work. -/
theorem loop_cases (exchange : Exchange) :
    (exchange.session.exit.isSome = true ∧ exchange.loop = exchange) ∨
      (exchange.session.exit = none ∧ exchange.verdict = none ∧ exchange.session.queue = [] ∧
        exchange.session.clients.isEmpty = false ∧ exchange.loop = exchange) ∨
      exchange.loop.effort < exchange.effort := by
  obtain ⟨⟨state, queue, exit, clients⟩, verdict, arrived, replies⟩ := exchange
  cases exit with
  | some exit => exact Or.inl ⟨rfl, rfl⟩
  | none =>
    cases verdict with
    | some exit =>
      refine Or.inr (Or.inr ?_)
      simp [loop, effort]
    | none =>
      cases queue with
      | nil =>
        by_cases hclients : clients.isEmpty = true
        · refine Or.inr (Or.inr ?_)
          simp [loop, effort, hclients]
        · rw [Bool.not_eq_true] at hclients
          exact Or.inr (Or.inl ⟨rfl, rfl, rfl, hclients, by simp [loop, hclients]⟩)
      | cons envelope queue =>
        refine Or.inr (Or.inr ?_)
        cases hverdict : (state.dispatch envelope).exit <;> simp [loop, effort, hverdict]

/-- Sending a message leaves one more to take. -/
theorem effort_post_le (exchange : Exchange) (envelope : Envelope) :
    (exchange.post envelope).effort ≤ exchange.effort + 1 := by
  unfold post
  split
  · simp only [effort, List.length_append, List.length_singleton]
    omega
  · exact Nat.le_succ _

end Exchange

namespace Playback

/-- The work that is left. -/
def effort (playback : Playback) : Nat :=
  playback.phase.effort + playback.exchange.effort

/-- The reader has come to its end, or waits for an answer, or gets on with its work. -/
theorem read_cases (playback : Playback) :
    (playback.phase.isEnded = true ∧ playback.read = playback) ∨
      (∃ message position number lines, playback.phase = .waiting message position number lines ∧
        playback.exchange.resolved position = none ∧ playback.read = playback) ∨
      playback.read.effort < playback.effort := by
  cases hphase : playback.phase with
  | reading number lines =>
    refine Or.inr (Or.inr ?_)
    cases lines with
    | nil =>
      simp only [read_of_end hphase, hphase, effort, Phase.effort, Exchange.effort, Exchange.call,
        Session.dropClient]
      omega
    | cons line lines =>
      cases hline : line.message? number with
      | error causes =>
        simp only [read_of_error hphase hline, hphase, effort, Phase.effort]
        omega
      | ok content =>
        cases content with
        | none =>
          simp only [read_of_blank hphase hline, hphase, effort, Phase.effort, List.length_cons]
          omega
        | some message =>
          cases hensured : playback.exchange.session.ensureSegment? message with
          | none =>
            simp only [read_of_crash hphase hline hensured, hphase, effort, Phase.effort]
            omega
          | some session =>
            have hfollowing := ScriptLine.length_following_le message lines
            obtain ⟨hqueue, hexit, -⟩ := Session.ensureSegment?_frame hensured
            simp only [read_of_message hphase hline hensured, hphase, effort, Phase.effort,
              Exchange.effort, hqueue, hexit, List.length_cons]
            omega
  | sending message number lines =>
    refine Or.inr (Or.inr ?_)
    cases hquestion : message.action.isQuery with
    | false =>
      have hpost := playback.exchange.effort_post_le { message, awaited := false }
      simp only [read_of_command hphase hquestion, effort, hphase, Phase.effort,
        Exchange.call_submit_eq_post]
      omega
    | true =>
      cases hexit : playback.exchange.session.exit with
      | none =>
        have hpost := playback.exchange.effort_post_le { message, awaited := true }
        simp only [read_of_question hphase hquestion hexit, effort, hphase, Phase.effort,
          Exchange.call_query_eq_post]
        omega
      | some exit =>
        simp only [read_of_miss hphase hquestion (Option.isSome_of_mem hexit), effort, hphase,
          Phase.effort]
        omega
  | waiting message position number lines =>
    refine Or.inr ?_
    cases hresolved : playback.exchange.resolved position with
    | none =>
      exact Or.inl ⟨message, position, number, lines, rfl, hresolved,
        read_of_unresolved hphase hresolved⟩
    | some answer =>
      refine Or.inr ?_
      simp only [read_of_answer hphase hresolved, hphase, effort, Phase.effort]
      omega
  | ended | crashed => exact Or.inl ⟨rfl, read_of_isEnded (by rw [hphase]; rfl)⟩

/-- Whoever has something to do takes from the work that is left. -/
theorem perform_cases (playback : Playback) (turn : Turn) :
    playback.perform turn = playback ∨ (playback.perform turn).effort < playback.effort := by
  cases turn with
  | reader =>
    rcases playback.read_cases with ⟨-, hidle⟩ | ⟨_, _, _, _, -, -, hidle⟩ | hworks
    · exact Or.inl hidle
    · exact Or.inl hidle
    · exact Or.inr hworks
  | loop =>
    rcases playback.exchange.loop_cases with ⟨-, hidle⟩ | ⟨-, -, -, -, hidle⟩ | hworks
    · exact Or.inl (by rw [perform, hidle])
    · exact Or.inl (by rw [perform, hidle])
    · exact Or.inr (Nat.add_lt_add_left hworks _)

/-- The work never becomes more. -/
theorem effort_performAll_le (playback : Playback) (turns : List Turn) :
    (playback.performAll turns).effort ≤ playback.effort := by
  induction turns generalizing playback with
  | nil => exact Nat.le_refl _
  | cons turn turns ih =>
    refine (ih (playback.perform turn)).trans ?_
    rcases playback.perform_cases turn with hidle | hworks
    · rw [hidle]
    · exact hworks.le

/-- In a schedule in which somebody has a turn, there is less work in the end, unless that turn
changes nothing. -/
theorem perform_eq_or_effort_lt {playback : Playback} {turn : Turn} {turns : List Turn}
    (hturn : turn ∈ turns) :
    playback.perform turn = playback ∨ (playback.performAll turns).effort < playback.effort := by
  induction turns generalizing playback with
  | nil => cases hturn
  | cons first turns ih =>
    rcases playback.perform_cases first with hidle | hworks
    · rcases List.mem_cons.mp hturn with rfl | hlater
      · exact Or.inl hidle
      · have hrest := @ih playback hlater
        rw [show playback.performAll (first :: turns) = (playback.perform first).performAll turns
          from rfl, hidle]
        exact hrest
    · exact Or.inr ((effort_performAll_le (playback.perform first) turns).trans_lt hworks)

/-- A run that is over is over. -/
theorem result?_perform {playback : Playback} {result : Attempt (List RunCause) Unit}
    (hover : playback.result? = some result) (turn : Turn) :
    (playback.perform turn).result? = some result := by
  cases turn with
  | reader =>
    have hended : playback.phase.isEnded = true := by
      cases hphase : playback.phase with
      | reading | sending | waiting => simp [result?, hphase] at hover
      | ended | crashed => rfl
    rw [perform, read_of_isEnded hended]
    exact hover
  | loop =>
    unfold result? at hover ⊢
    cases hphase : playback.phase with
    | reading | sending | waiting => simp [hphase] at hover
    | crashed => simpa only [hphase, perform] using hover
    | ended reason =>
      cases reason with
      | error causes => simpa only [hphase, perform] using hover
      | ok =>
        simp only [hphase] at hover
        obtain ⟨exit, hexit, hresult⟩ := Option.map_eq_some_iff.mp hover
        have hgone := (Exchange.Extends.loop playback.exchange).exit hexit
        simp only [perform, hphase, hgone, Option.map_some, hresult]

/-- So it is after a whole schedule. -/
theorem result?_performAll {playback : Playback} {result : Attempt (List RunCause) Unit}
    (hover : playback.result? = some result) (turns : List Turn) :
    (playback.performAll turns).result? = some result := by
  induction turns generalizing playback with
  | nil => exact hover
  | cons turn turns ih => exact ih (result?_perform hover turn)

/-- What every step of the reader and of the loop keeps, and from which it follows that nobody waits
in vain. -/
structure Steady (Holds : Playback → Prop) : Prop where
  /-- Every step keeps it. -/
  step : ∀ {playback}, Holds playback → ∀ turn, Holds (playback.perform turn)
  /-- The reader is there as long as it reads. -/
  present : ∀ {playback}, Holds playback → playback.phase.isEnded = false →
    playback.exchange.session.hasClient 0 = true
  /-- When reading has ended well the reader is gone. -/
  gone : ∀ {playback}, Holds playback → playback.phase = .ended (.ok ()) →
    playback.exchange.session.clients.isEmpty = true
  /-- While the reader reads and the loop goes on, what has arrived was taken or is in the queue. -/
  count : ∀ {playback}, Holds playback → playback.phase.isEnded = false →
    playback.exchange.session.exit = none → playback.exchange.verdict = none →
    playback.exchange.arrived.length =
      playback.exchange.replies.length + playback.exchange.session.queue.length
  /-- The question that the reader waits for has arrived. -/
  asked : ∀ {playback}, Holds playback → ∀ {message position number lines},
    playback.phase = .waiting message position number lines →
      position < playback.exchange.arrived.length

variable {Holds : Playback → Prop}

/-- So does a whole schedule. -/
theorem Steady.performAll (hsteady : Steady Holds) {playback : Playback} (hholds : Holds playback)
    (turns : List Turn) : Holds (playback.performAll turns) :=
  List.foldlRecOn turns perform hholds fun _ hbefore turn _ => hsteady.step hbefore turn

/-- A question that was asked is answered when the loop has worked through the queue or is gone. -/
theorem Steady.resolved_isSome (hsteady : Steady Holds) {playback : Playback}
    (hholds : Holds playback) {message : Message} {position number : Nat} {lines : List ScriptLine}
    (hphase : playback.phase = .waiting message position number lines)
    (hsettled : playback.exchange.session.exit = none →
      playback.exchange.verdict = none ∧ playback.exchange.session.queue = []) :
    (playback.exchange.resolved position).isSome = true := by
  unfold Exchange.resolved
  split
  · rfl
  · rename_i hnone
    have hmissing := List.getElem?_eq_none_iff.mp hnone
    split
    · rfl
    · rename_i hthere
      have hopen := Option.not_isSome_iff_eq_none.mp hthere
      obtain ⟨hverdict, hqueue⟩ := hsettled hopen
      have hcount := hsteady.count hholds (by rw [hphase]; rfl) hopen hverdict
      have hasked := hsteady.asked hholds hphase
      rw [hqueue, List.length_nil] at hcount
      omega

/-- When neither the reader nor the loop has anything to do, the run is over. -/
theorem Steady.result?_isSome (hsteady : Steady Holds) {playback : Playback}
    (hholds : Holds playback) (hreader : playback.perform .reader = playback)
    (hloop : playback.perform .loop = playback) : playback.result?.isSome = true := by
  have hidle : playback.exchange.loop = playback.exchange := congrArg Playback.exchange hloop
  -- The loop is gone, or it has taken everything and waits for more.
  have hgone : playback.exchange.session.exit.isSome = true ∨
      (playback.exchange.session.exit = none ∧ playback.exchange.verdict = none ∧
        playback.exchange.session.queue = [] ∧
        playback.exchange.session.clients.isEmpty = false) := by
    rcases playback.exchange.loop_cases with
      ⟨hexit, -⟩ | ⟨hopen, hverdict, hqueue, hclients, -⟩ | hworks
    · exact Or.inl hexit
    · exact Or.inr ⟨hopen, hverdict, hqueue, hclients⟩
    · rw [hidle] at hworks
      exact absurd hworks (Nat.lt_irrefl _)
  rcases playback.read_cases with
    ⟨hended, -⟩ | ⟨_, position, _, _, hphase, hopen, -⟩ | hworks
  · cases hphase : playback.phase with
    | reading | sending | waiting => simp [hphase, Phase.isEnded] at hended
    | crashed => simp [result?, hphase]
    | ended result =>
      cases result with
      | error causes => simp [result?, hphase]
      | ok =>
        rcases hgone with hexit | ⟨-, -, -, hclients⟩
        · simp [result?, hphase, hexit]
        · cases (hsteady.gone hholds hphase).symm.trans hclients
  · have hreply := hsteady.resolved_isSome hholds hphase fun hexit => by
      rcases hgone with hexit' | ⟨-, hverdict, hqueue, -⟩
      · rw [hexit] at hexit'
        cases hexit'
      · exact ⟨hverdict, hqueue⟩
    rw [hopen] at hreply
    cases hreply
  · rw [show playback.read = playback from hreader] at hworks
    exact absurd hworks (Nat.lt_irrefl _)

/-- A run is over after more rounds than there is work. -/
theorem Steady.over_of_rounds (hsteady : Steady Holds) {playback : Playback}
    (hholds : Holds playback) {rounds : List (List Turn)}
    (hrounds : ∀ round ∈ rounds, .reader ∈ round ∧ .loop ∈ round)
    (henough : playback.effort < rounds.length) :
    (playback.performAll rounds.flatten).result?.isSome = true := by
  induction rounds generalizing playback with
  | nil => cases henough
  | cons round rounds ih =>
    obtain ⟨⟨hreader, hloop⟩, hlater⟩ := List.forall_mem_cons.mp hrounds
    rw [List.flatten_cons, performAll_append]
    have hless : playback.result?.isSome = true ∨
        (playback.performAll round).effort < playback.effort := by
      rcases perform_eq_or_effort_lt hreader with hidle | hless
      · rcases perform_eq_or_effort_lt hloop with hidle' | hless
        · exact Or.inl (hsteady.result?_isSome hholds hidle hidle')
        · exact Or.inr hless
      · exact Or.inr hless
    rcases hless with hover | hless
    · obtain ⟨result, hresult⟩ := Option.isSome_iff_exists.mp hover
      have hround := result?_performAll hresult round
      exact Option.isSome_of_mem (result?_performAll hround rounds.flatten)
    · rw [List.length_cons] at henough
      exact ih (hsteady.performAll hholds round) hlater (by omega)

end Playback

end SegmentCache
