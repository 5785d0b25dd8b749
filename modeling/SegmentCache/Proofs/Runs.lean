import SegmentCache.Proofs.Coherence

/-!
# Whole runs

A run handles messages one after the other and goes on after those that fail. What every move
keeps holds along every run. Between messages the surroundings of the cache may change: producers
share its store, other processes its files, and time passes.
-/

namespace SegmentCache.State

/-- The state after messages have been handled in turn, whatever came of them. -/
def handleAll (state : State) (messages : List Message) : State :=
  messages.foldl (fun state message => (state.handle message).state) state

/-- The states that a cache can get into. -/
inductive Reachable : State → Prop
  /-- A cache starts without entries, on any store. -/
  | initial (config : Config) (store : Store) (files : FileTree) (clock : String) :
      Reachable (State.initial config store files clock)
  /-- A message is handled, with or without success. -/
  | message {state : State} (hreach : Reachable state) (message : Message) :
      Reachable (state.handle message).state
  /-- The surroundings change. -/
  | surroundings {state : State} (hreach : Reachable state) (store : Store) (files : FileTree)
      (clock : String) : Reachable { state with store := store, files := files, clock := clock }

/-- Handling more messages continues the run. -/
theorem handleAll_append (state : State) (earlier later : List Message) :
    state.handleAll (earlier ++ later) = (state.handleAll earlier).handleAll later :=
  List.foldl_append

/-- Every state of a run can be reached if its first state can. -/
theorem Reachable.handleAll {state : State} (hreach : Reachable state) (messages : List Message) :
    Reachable (state.handleAll messages) := by
  induction messages generalizing state with
  | nil => exact hreach
  | cons message messages ih => exact ih (hreach.message message)

/-- A sequence of moves keeps the state coherent. -/
theorem Moves.coherent {message : Message} {state next : State} (hmoves : Moves message state next)
    (hcoherent : state.Coherent) : next.Coherent := by
  induction hmoves with
  | refl => exact hcoherent
  | tail _ hmove ih => exact hmove.coherent ih

/-- A sequence of moves operates on the table exactly. -/
theorem Moves.table_steps {message : Message} {state next : State}
    (hmoves : Moves message state next) (hcoherent : state.Coherent) :
    Relation.ReflTransGen Table.ExactStep state.table next.table := by
  induction hmoves with
  | refl => exact .refl
  | @tail between last hmoves hmove ih =>
    have hbetween : between.Coherent := Moves.coherent hmoves hcoherent
    rcases hmove.table_step hbetween.counted with hsame | hstep
    · rw [hsame]
      exact ih
    · exact ih.tail hstep

/-- A sequence of moves that does not unlock a name keeps its lock and its entry. -/
theorem Moves.locked_kept {message : Message} {state next : State}
    (hmoves : Moves message state next) {name : String} (hkept : message.unlocks name = false)
    (hlocked : state.locks.isLocked name = true) {entry : Entry}
    (hfound : state.table.get? name = some entry) :
    next.locks.isLocked name = true ∧
      ∃ later, next.table.get? name = some later ∧ entry.SameObject later := by
  induction hmoves with
  | refl => exact ⟨hlocked, entry, hfound, .refl entry⟩
  | tail _ hmove ih =>
    obtain ⟨hstill, between, hbetween, hsame⟩ := ih
    obtain ⟨later, hlater, hsame'⟩ := hmove.entry_kept hstill hbetween
    exact ⟨hmove.stays_locked hstill hkept, later, hlater, hsame.trans hsame'⟩

/-- Every state that a cache can get into is coherent. -/
theorem Reachable.coherent {state : State} (hreach : Reachable state) : state.Coherent := by
  induction hreach with
  | initial config store files clock => exact .initial config store files clock
  | message _ message ih => exact Moves.coherent (handle_moves _ message) ih
  | surroundings _ store files clock ih =>
    exact ⟨ih.indexed, ih.counted, ih.replica, ih.locked⟩

/-- Messages that do not unlock a name keep its lock and its entry. -/
theorem handleAll_locked_kept {state : State} {name : String} {messages : List Message}
    (hkept : ∀ message ∈ messages, message.unlocks name = false)
    (hlocked : state.locks.isLocked name = true) {entry : Entry}
    (hfound : state.table.get? name = some entry) :
    (state.handleAll messages).locks.isLocked name = true ∧
      ∃ later, (state.handleAll messages).table.get? name = some later ∧
        entry.SameObject later := by
  induction messages generalizing state entry with
  | nil => exact ⟨hlocked, entry, hfound, .refl entry⟩
  | cons message messages ih =>
    have hfirst : message.unlocks name = false := hkept message (by simp)
    have hrest : ∀ other ∈ messages, other.unlocks name = false :=
      fun other hother => hkept other (by simp [hother])
    obtain ⟨hstill, between, hbetween, hsame⟩ :=
      Moves.locked_kept (handle_moves state message) hfirst hlocked hfound
    obtain ⟨hlast, later, hlater, hsame'⟩ := ih hrest hstill hbetween
    exact ⟨hlast, later, hlater, hsame.trans hsame'⟩

/-- After any messages, clients see exactly the entries of the table, field by field. -/
theorem replica_eq_entries (config : Config) (store : Store) (files : FileTree) (clock : String)
    (messages : List Message) :
    ((State.initial config store files clock).handleAll messages).replica =
      ((State.initial config store files clock).handleAll messages).table.entries :=
  ((Reachable.initial config store files clock).handleAll messages).coherent.replica

/-- A locked name has an entry, and until a message unlocks the name it stays locked and its entry
stays the same object between any two points of the run, with hits that only grow. -/
theorem locked_entry_untouched {state : State} (hreach : Reachable state) {name : String}
    (hlocked : state.locks.isLocked name = true) :
    state.table.contains name = true ∧
      ∀ earlier later : List Message,
        (∀ message ∈ earlier ++ later, message.unlocks name = false) →
        (state.handleAll (earlier ++ later)).locks.isLocked name = true ∧
          ∃ first second, (state.handleAll earlier).table.get? name = some first ∧
            (state.handleAll (earlier ++ later)).table.get? name = some second ∧
            first.SameObject second := by
  have hthere := hreach.coherent.locked hlocked
  refine ⟨hthere, ?_⟩
  intro earlier later hkept
  obtain ⟨entry, hfound⟩ := Table.contains_iff.mp hthere
  obtain ⟨hstill, first, hfirst, -⟩ := handleAll_locked_kept
    (fun message hmessage => hkept message (List.mem_append_left later hmessage)) hlocked hfound
  obtain ⟨hlast, second, hsecond, hsame⟩ := handleAll_locked_kept
    (fun message hmessage => hkept message (List.mem_append_right earlier hmessage)) hstill hfirst
  rw [← handleAll_append] at hlast hsecond
  exact ⟨hlast, first, second, hfirst, hsecond, hsame⟩

/-- A locked object larger than the cache is neither evicted nor removed, under any spelling of
its path, and uses of it are counted. -/
theorem locked_entry_untouched_overfull :
    let state :=
      (State.initial (Config.ofCapacity 10) (Store.empty none) FileTree.empty "").handleAll
        [.put { fileName := "data/a", handle := "h", size := 12 }, .lock "a"]
    let messages : List Message :=
      [.put { fileName := "b", handle := "g", size := 7 }, .get "tmp/a" "x" "f", .remove "./a",
        .unlock "b", .replace { fileName := "a/", handle := "k", size := 1 }]
    state.locks.isLocked "a" = true ∧
      (state.handleAll messages).locks.isLocked "a" = true ∧
      ∃ first second, state.table.get? "a" = some first ∧
        (state.handleAll messages).table.get? "a" = some second ∧ first.SameObject second := by
  intro state messages
  have hreach : Reachable state := (Reachable.initial _ _ _ _).handleAll _
  have hlocked : state.locks.isLocked "a" = true := by decide
  exact ⟨hlocked, (locked_entry_untouched hreach hlocked).2 [] messages (by decide)⟩

/-- The counter of each locality is the exact sum of the sizes of its entries, which is in the
range of a word, and a message operates on the table without holding a counter at a bound. -/
theorem usedBytes_exact {state : State} (hreach : Reachable state) :
    (∀ locality, bytesAt state.table.entries locality < 2 ^ 64 ∧
      (state.usedBytes locality).toNat = bytesAt state.table.entries locality) ∧
    ∀ message, Relation.ReflTransGen Table.ExactStep state.table
      (state.handle message).state.table := by
  have hcoherent := hreach.coherent
  constructor
  · intro locality
    have hexact := hcoherent.counted locality
    refine ⟨?_, hexact⟩
    rw [← hexact]
    exact UInt64.toNat_lt _
  · intro message
    exact Moves.table_steps (handle_moves state message) hcoherent

/-- The counter is exact at the largest word: beside a locked object that leaves room for one more
byte, an object of two bytes was refused and one of a single byte was added. -/
theorem usedBytes_exact_near_limit :
    let state :=
      (State.initial (Config.ofCapacity 10) (Store.empty none) FileTree.empty "").handleAll
        [.put { fileName := "a", handle := "h", size := 18446744073709551614 }, .lock "a",
          .put { fileName := "b", handle := "g", size := 2 },
          .put { fileName := "c", handle := "g", size := 1 }]
    Reachable state ∧ (state.usedBytes .cpu).toNat = 2 ^ 64 - 1 ∧
      bytesAt state.table.entries .cpu = 2 ^ 64 - 1 := by
  intro state
  have hreach : Reachable state := (Reachable.initial _ _ _ _).handleAll _
  have hused : (state.usedBytes .cpu).toNat = 2 ^ 64 - 1 := by decide
  exact ⟨hreach, hused, ((usedBytes_exact hreach).1 .cpu).2.symm.trans hused⟩

end SegmentCache.State
