import SegmentCache.Proofs.Insertions
import SegmentCache.Proofs.Runs

/-!
# The ceiling on used bytes

A capacity is a ceiling that the cache tries to keep when it adds an object, and only then. It may
miss it, but not by much: an object that did not fit is added only when everything else at its
locality is locked. Between insertions the used bytes go down. So without locks a locality is
over its ceiling only while it holds a single object, which is too large by itself.
-/

namespace SegmentCache

/-- What may leave a locality is what is found there and is not locked. -/
theorem Table.Indexed.mem_candidates {table : Table} (hindexed : table.Indexed) {locks : LockSet}
    {locality : Locality} {name : String} :
    name ∈ table.candidates locks locality ↔
      locks.isLocked name = false ∧
        ∃ entry, table.get? name = some entry ∧ entry.locality = locality := by
  simp only [hindexed.candidates_eq, List.mem_map, hindexed.mem_evictable]
  constructor
  · rintro ⟨entry, ⟨hfound, hlocality, hunlocked⟩, rfl⟩
    exact ⟨hunlocked, entry, hfound, hlocality⟩
  · rintro ⟨hunlocked, entry, hfound, hlocality⟩
    obtain rfl := hindexed.named hfound
    exact ⟨entry, ⟨hfound, hlocality, hunlocked⟩, rfl⟩

namespace State

/-- Nothing has come in from one state to another: what is there was there before at the same
locality, no counter has gone up, and no lock has been added. -/
structure Recedes (state next : State) : Prop where
  /-- The setup stays. -/
  config : next.config = state.config
  /-- What is locked was locked. -/
  locked : ∀ {name}, next.locks.isLocked name = true → state.locks.isLocked name = true
  /-- No counter has gone up. -/
  used : ∀ locality, next.usedBytes locality ≤ state.usedBytes locality
  /-- What is there was there. -/
  entry : ∀ {name later}, next.table.get? name = some later →
    ∃ earlier, state.table.get? name = some earlier ∧ earlier.locality = later.locality

/-- A state that keeps the table, the setup and the locks recedes. -/
theorem Recedes.of_table_eq {state next : State} (hconfig : next.config = state.config)
    (hlocks : ∀ {name}, next.locks.isLocked name = true → state.locks.isLocked name = true)
    (htable : next.table = state.table) : state.Recedes next where
  config := hconfig
  locked := hlocks
  used locality := by
    rw [usedBytes, usedBytes, htable]
    exact UInt64.le_refl _
  entry {name later} hlater := ⟨later, htable ▸ hlater, rfl⟩

/-- Nothing comes in while nothing happens. -/
theorem Recedes.refl (state : State) : state.Recedes state :=
  .of_table_eq rfl id rfl

/-- Nothing comes in over two stretches if nothing does over each. -/
theorem Recedes.trans {first second third : State} (hfirst : first.Recedes second)
    (hsecond : second.Recedes third) : first.Recedes third where
  config := hsecond.config.trans hfirst.config
  locked h := hfirst.locked (hsecond.locked h)
  used locality := UInt64.le_trans (hsecond.used locality) (hfirst.used locality)
  entry {name later} hlater := by
    obtain ⟨between, hbetween, hlocality⟩ := hsecond.entry hlater
    obtain ⟨earlier, hearlier, hlocality'⟩ := hfirst.entry hbetween
    exact ⟨earlier, hearlier, hlocality'.trans hlocality⟩

/-- Nothing comes in when an entry leaves. -/
theorem Recedes.drop {state : State} {name : String} {table : Table} {entry : Entry}
    (hremove : state.table.remove name = .ok (table, entry)) :
    state.Recedes ({ state with table := table }.release entry).1 := by
  obtain ⟨-, -, -, hused⟩ := Table.remove_eq_ok hremove
  rw [release_state]
  refine ⟨rfl, fun h => h, ?_, ?_⟩
  · intro locality
    show table.usedBytes locality ≤ state.table.usedBytes locality
    rw [hused, UInt64.le_iff_toNat_le]
    split
    · rw [Word.toNat_subSat]
      omega
    · exact Nat.le_refl _
  · intro other later hlater
    exact ⟨later, (Table.get?_of_remove hremove hlater).2, rfl⟩

/-- Nothing comes in when a hit is counted. -/
theorem Recedes.hit {state next : State} {name : String} {hits : UInt64}
    (hhit : state.table.recordHit name = some (next.table, hits))
    (hconfig : next.config = state.config) (hlocks : next.locks = state.locks) :
    state.Recedes next := by
  obtain ⟨entry, hfound, -, htable⟩ := Table.recordHit_eq_some hhit
  refine ⟨hconfig, fun h => hlocks ▸ h, ?_, ?_⟩
  · intro locality
    rw [usedBytes, usedBytes, htable]
    exact UInt64.le_refl _
  · intro other later hlater
    rw [Table.get?_recordHit hhit hfound] at hlater
    split at hlater
    · rename_i hname
      cases hlater
      exact ⟨entry, hname ▸ hfound, rfl⟩
    · exact ⟨later, hlater, rfl⟩

/-- Nothing comes in when the entry under a name is let go of. -/
theorem vacate_recedes (state : State) (name : String) :
    state.Recedes (state.vacate name).1 := by
  unfold vacate
  split
  · exact .refl state
  · rename_i hremove
    exact .drop hremove

/-- Nothing comes in when room is made. -/
theorem makeRoom_recedes (state : State) (name : String) (locality : Locality)
    (size capacity : UInt64) :
    state.Recedes (state.makeRoom name locality size capacity).1 :=
  makeRoom_induction name locality size capacity (.refl state) fun _ hremove hrecedes =>
    hrecedes.trans (.drop hremove)

/-- Eviction stops when the request fits, and otherwise not before every name has left. -/
theorem evictInTurn_fits_or_gone (locality : Locality) (requested capacity : UInt64)
    (names : List String) (state : State) :
    let after := evictInTurn locality requested capacity names state
    after.table.fits locality requested capacity = true ∨
      ∀ name ∈ names, after.table.contains name = false := by
  induction names generalizing state with
  | nil => exact Or.inr (by simp)
  | cons name names ih =>
    unfold evictInTurn
    split
    · rename_i hfits
      exact Or.inl hfits
    · -- Taken out or not there at all, the first name is free from here on.
      have hgone {rest : State} (hfree : rest.table.contains name = false) :
          let after := evictInTurn locality requested capacity names rest
          after.table.fits locality requested capacity = true ∨
            ∀ other ∈ name :: names, after.table.contains other = false := by
        have hfirst := @contains_evictInTurn locality requested capacity names rest name hfree
        rcases ih rest with hfits | hothers
        · exact Or.inl hfits
        · exact Or.inr (List.forall_mem_cons.mpr ⟨hfirst, hothers⟩)
      split
      · rename_i failure herror
        exact hgone (Table.contains_of_remove_error herror)
      · rename_i table entry hremove
        apply hgone
        rw [release_state]
        exact Table.contains_of_remove_ok hremove

/-- After making room the request fits, or all that is left at the locality is locked. -/
theorem Coherent.makeRoom_fits_or_locked {state : State} (hcoherent : state.Coherent)
    (name : String) (locality : Locality) (size capacity : UInt64) :
    let after := (state.makeRoom name locality size capacity).1
    after.table.fits locality size capacity = true ∨
      ∀ {other entry}, after.table.get? other = some entry → entry.locality = locality →
        after.locks.isLocked other = true := by
  have hrecedes := state.makeRoom_recedes name locality size capacity
  have hlocks := state.makeRoom_locks name locality size capacity
  have hleft := evictInTurn_fits_or_gone locality size capacity
    (state.table.candidates state.locks locality) state
  rw [← makeRoom_state state name] at hleft
  refine hleft.imp id ?_
  intro hgone other entry hfound hlocality
  obtain ⟨earlier, hearlier, hsame⟩ := hrecedes.entry hfound
  rw [hlocks, ← Bool.not_eq_false]
  intro hunlocked
  have hcandidate : other ∈ state.table.candidates state.locks locality :=
    hcoherent.indexed.mem_candidates.mpr ⟨hunlocked, earlier, hearlier, hsame.trans hlocality⟩
  have hfree := Table.contains_eq_false_iff.mp (hgone other hcandidate)
  rw [hfound] at hfree
  cases hfree

/-- After an insertion that succeeded, the used bytes are within the capacity, or every other
entry at the locality is locked. -/
theorem Coherent.insert_within_or_locked {state : State} (hcoherent : state.Coherent)
    {insertion : Insertion} (hfree : state.table.contains insertion.name = false)
    {response : Response} (hok : (state.insert insertion).result = .ok response) :
    let after := (state.insert insertion).state
    ∃ capacity, state.config.capacityFor insertion.locality = some capacity ∧
      (after.usedBytes insertion.locality ≤ capacity ∨
        ∀ {name entry}, after.table.get? name = some entry →
          entry.locality = insertion.locality → name ≠ insertion.name →
          after.locks.isLocked name = true) := by
  obtain ⟨capacity, room, events, handle, store, hcapacity, hmade, -, -, hinsert⟩ := insert_eq_ok hok
  have hroom := hcoherent.makeRoom_fits_or_locked insertion.name insertion.locality insertion.size
    capacity
  have hfree' := contains_makeRoom hfree insertion.name insertion.locality insertion.size capacity
  rw [hmade] at hroom hfree'
  refine ⟨capacity, hcapacity, ?_⟩
  rw [hinsert]
  refine hroom.imp ?_ ?_
  · intro hfits
    have hused := @usedBytes_add { room with store := store } insertion hfree' handle
      insertion.locality
    rw [if_pos rfl] at hused
    show ({ room with store := store }.add insertion handle).usedBytes insertion.locality ≤ capacity
    rw [hused]
    simpa [Table.fits, usedBytes] using hfits
  · intro hlocked name entry hfound hlocality hname
    have hadd := @get?_add { room with store := store } insertion hfree' handle name
    rw [if_neg (Ne.symm hname)] at hadd
    exact hlocked (hadd.symm.trans hfound) hlocality

/-- There is at most one entry at a locality. -/
def AtMostOne (state : State) (locality : Locality) : Prop :=
  ∀ {name other first second}, state.table.get? name = some first →
    state.table.get? other = some second → first.locality = locality →
    second.locality = locality → name = other

/-- Every locality with a capacity is within it or holds a single object. -/
def WithinOrSingle (state : State) : Prop :=
  ∀ {locality capacity}, state.config.capacityFor locality = some capacity →
    state.usedBytes locality ≤ capacity ∨ state.AtMostOne locality

/-- Where nothing comes in, a locality with at most one entry keeps at most one. -/
theorem Recedes.atMostOne {state next : State} (hrecedes : state.Recedes next)
    {locality : Locality} (hone : state.AtMostOne locality) : next.AtMostOne locality := by
  intro name other first second hfirst hsecond hlocality hlocality'
  obtain ⟨earlier, hearlier, hsame⟩ := hrecedes.entry hfirst
  obtain ⟨earlier', hearlier', hsame'⟩ := hrecedes.entry hsecond
  exact hone hearlier hearlier' (hsame.trans hlocality) (hsame'.trans hlocality')

/-- Where nothing comes in, the ceilings stay kept. -/
theorem Recedes.withinOrSingle {state next : State} (hrecedes : state.Recedes next)
    (hwithin : state.WithinOrSingle) : next.WithinOrSingle := by
  intro locality capacity hcapacity
  rw [hrecedes.config] at hcapacity
  rcases hwithin hcapacity with hused | hone
  · exact Or.inl (UInt64.le_trans (hrecedes.used locality) hused)
  · exact Or.inr (hrecedes.atMostOne hone)

/-- Without locks, an insertion that succeeded leaves the ceilings kept: at its own locality by
what eviction achieved, at the others because nothing came in there. -/
theorem Coherent.insert_withinOrSingle {state : State} (hcoherent : state.Coherent)
    (hwithin : state.WithinOrSingle) (hunlocked : ∀ name, state.locks.isLocked name = false)
    {insertion : Insertion} (hfree : state.table.contains insertion.name = false)
    {response : Response} (hok : (state.insert insertion).result = .ok response) :
    (state.insert insertion).state.WithinOrSingle := by
  obtain ⟨capacity, hcapacity, hown⟩ := hcoherent.insert_within_or_locked hfree hok
  obtain ⟨capacity', room, events, handle, store, hcapacity', hmade, -, -, hinsert⟩ :=
    insert_eq_ok hok
  have hrecedes := state.makeRoom_recedes insertion.name insertion.locality insertion.size capacity'
  have hlocks := state.makeRoom_locks insertion.name insertion.locality insertion.size capacity'
  have hfree' := contains_makeRoom hfree insertion.name insertion.locality insertion.size capacity'
  rw [hmade] at hrecedes hlocks hfree'
  rw [hinsert] at hown ⊢
  intro locality ceiling hceiling
  by_cases hlocality : insertion.locality = locality
  · subst hlocality
    have hsame : state.config.capacityFor insertion.locality = some ceiling :=
      hrecedes.config ▸ hceiling
    rw [hcapacity] at hsame
    cases hsame
    refine hown.imp id ?_
    -- Nothing is locked, so the new entry is the only one.
    intro hlocked
    have halone {name : String} {entry : Entry}
        (hfound : ({ room with store := store }.add insertion handle).table.get? name = some entry)
        (hthere : entry.locality = insertion.locality) : name = insertion.name := by
      by_contra hname
      have hstill : room.locks.isLocked name = true := hlocked hfound hthere hname
      rw [hlocks, hunlocked] at hstill
      cases hstill
    intro name other first second hfirst hsecond hthere hthere'
    rw [halone hfirst hthere, halone hsecond hthere']
  · have hused := @usedBytes_add { room with store := store } insertion hfree' handle locality
    rw [if_neg hlocality] at hused
    rcases hrecedes.withinOrSingle hwithin hceiling with hbelow | hone
    · exact Or.inl (hused.symm ▸ hbelow)
    · refine Or.inr ?_
      have hearlier {name : String} {entry : Entry}
          (hfound : ({ room with store := store }.add insertion handle).table.get? name =
            some entry)
          (hthere : entry.locality = locality) : room.table.get? name = some entry := by
        rw [@get?_add { room with store := store } insertion hfree'] at hfound
        split at hfound
        · cases hfound
          exact absurd hthere hlocality
        · exact hfound
      intro name other first second hfirst hsecond hthere hthere'
      exact hone (hearlier hfirst hthere) (hearlier hsecond hthere') hthere hthere'

/-- Nothing comes in by an insertion that fails or crashes. -/
theorem insert_recedes_of_not_ok {state : State} {insertion : Insertion}
    (hbad : (state.insert insertion).result.isOk = false) :
    state.Recedes (state.insert insertion).state := by
  rcases insert_of_not_ok hbad with hsame | ⟨capacity, room, events, store, hmade, hstate⟩
  · rw [hsame]
    exact .refl state
  · have hrecedes := state.makeRoom_recedes insertion.name insertion.locality insertion.size capacity
    rw [hmade] at hrecedes
    rw [hstate]
    exact hrecedes.trans (.of_table_eq rfl id rfl)

/-- By a message that brings in no object nothing comes in, unless it locks. -/
theorem handle_recedes {state : State} {message : Message}
    (hnone : state.insertion? message = none) (hlock : message.action ≠ .lock) :
    state.Recedes (state.handle message).state := by
  have haside := handle_aside hnone
  generalize state.handle message = outcome at haside ⊢
  cases haside with
  | stays hconfig htable _ hlocks => exact .of_table_eq hconfig (hlocks hlock) htable
  | hit hhit hconfig hlocks => exact .hit hhit hconfig hlocks
  | vacates name => exact state.vacate_recedes name

/-- A name that is free or has an unlocked entry is not locked. -/
theorem Coherent.not_locked {state : State} (hcoherent : state.Coherent) {name : String}
    (hopen : state.table.contains name = true → state.locks.isLocked name = false) :
    state.locks.isLocked name = false :=
  Bool.eq_false_iff.mpr fun hlocked =>
    Bool.eq_false_iff.mp (hopen (hcoherent.locked hlocked)) hlocked

/-- The state in which a message inserts its object: the entry under the name has been let go of
and the use is counted. It is as coherent as before, and nothing has come in. -/
theorem Coherent.vacate_countPut {state : State} (hcoherent : state.Coherent) {name : String}
    (hunlocked : state.table.contains name = true → state.locks.isLocked name = false)
    (function parameter : String) :
    let base := (state.vacate name).1.countPut function parameter name
    base.Coherent ∧ state.Recedes base ∧ base.table.contains name = false := by
  have hvacated := Moves.coherent (vacate_moves .quit (hcoherent.not_locked hunlocked)) hcoherent
  exact ⟨⟨hvacated.indexed, hvacated.counted, hvacated.replica, hvacated.locked⟩,
    (state.vacate_recedes name).trans (.of_table_eq rfl id rfl), state.contains_vacate name⟩

/-- After a message that brought in an object, its entry is there, and the used bytes are within
the capacity or every other entry at the locality is locked. -/
theorem Coherent.handle_within_or_locked {state : State} (hcoherent : state.Coherent)
    {message : Message} {insertion : Insertion} {response : Response}
    (hbrings : state.insertion? message = some insertion)
    (hok : (state.handle message).result = .ok response) :
    let after := (state.handle message).state
    ∃ capacity entry, state.config.capacityFor insertion.locality = some capacity ∧
      after.table.get? insertion.name = some entry ∧ entry.locality = insertion.locality ∧
      (after.usedBytes insertion.locality ≤ capacity ∨
        ∀ {name other}, after.table.get? name = some other →
          other.locality = insertion.locality → name ≠ insertion.name →
          after.locks.isLocked name = true) := by
  have hunlocked := isLocked_of_handle_ok hbrings hok
  obtain ⟨function, parameter, events, -, hhandle, -⟩ := handle_eq_insert hbrings hunlocked
  obtain ⟨hbase, hrecedes, hfree⟩ := hcoherent.vacate_countPut hunlocked function parameter
  rw [hhandle, Outcome.after_result] at hok
  rw [hhandle, Outcome.after_state]
  generalize (state.vacate insertion.name).1.countPut function parameter insertion.name = base
    at hbase hrecedes hfree hok ⊢
  obtain ⟨capacity, hcapacity, hwithin⟩ := hbase.insert_within_or_locked hfree hok
  obtain ⟨capacity', room, _, handle, store, -, hmade, -, -, hinsert⟩ := insert_eq_ok hok
  have hfree' := contains_makeRoom hfree insertion.name insertion.locality insertion.size capacity'
  rw [hmade] at hfree'
  have hnew := @get?_add { room with store := store } insertion hfree' handle insertion.name
  rw [if_pos rfl] at hnew
  refine ⟨capacity, insertion.entry handle, ?_, ?_, rfl, hwithin⟩
  · rw [← hrecedes.config]
    exact hcapacity
  · rw [hinsert]
    exact hnew

/-- Without locks, a message that does not lock keeps every locality within its capacity or down
to a single object, and adds no lock, whether or not it succeeds. -/
theorem Coherent.handle_withinOrSingle {state : State} (hcoherent : state.Coherent)
    (hwithin : state.WithinOrSingle) (hunlocked : ∀ name, state.locks.isLocked name = false)
    {message : Message} (hlock : message.action ≠ .lock) :
    let after := (state.handle message).state
    after.WithinOrSingle ∧ ∀ name, after.locks.isLocked name = false := by
  -- Where nothing comes in, both are inherited.
  have hinherits {next : State} (hrecedes : state.Recedes next) :
      next.WithinOrSingle ∧ ∀ name, next.locks.isLocked name = false := by
    refine ⟨hrecedes.withinOrSingle hwithin, fun name => ?_⟩
    cases hlocked : next.locks.isLocked name with
    | false => rfl
    | true => exact (hrecedes.locked hlocked).symm.trans (hunlocked name)
  cases hbrings : state.insertion? message with
  | none => exact hinherits (handle_recedes hbrings hlock)
  | some insertion =>
    obtain ⟨function, parameter, events, -, hhandle, -⟩ :=
      handle_eq_insert hbrings fun _ => hunlocked insertion.name
    obtain ⟨hbase, hrecedes, hfree⟩ := hcoherent.vacate_countPut
      (fun _ => hunlocked insertion.name) function parameter
    obtain ⟨hwithin', hunlocked'⟩ := hinherits hrecedes
    rw [hhandle, Outcome.after_state]
    generalize (state.vacate insertion.name).1.countPut function parameter insertion.name = base
      at hbase hrecedes hfree hwithin' hunlocked' ⊢
    cases hok : (base.insert insertion).result.isOk with
    | false => exact hinherits (hrecedes.trans (insert_recedes_of_not_ok hok))
    | true =>
      obtain ⟨response, hresult⟩ := Attempt.isOk_iff.mp hok
      refine ⟨hbase.insert_withinOrSingle hwithin' hunlocked' hfree hresult, fun name => ?_⟩
      obtain ⟨capacity, room, _, handle, store, -, hmade, -, -, hinsert⟩ := insert_eq_ok hresult
      have hlocks := base.makeRoom_locks insertion.name insertion.locality insertion.size capacity
      rw [hmade] at hlocks
      rw [hinsert]
      show room.locks.isLocked name = false
      rw [hlocks]
      exact hunlocked' name

/-- The states that a cache can get into without messages of a kind. -/
inductive ReachableWithout (action : Action) : State → Prop
  /-- A cache starts without entries, on any store. -/
  | initial (config : Config) (store : Store) (files : FileTree) (clock : String) :
      ReachableWithout action (State.initial config store files clock)
  /-- A message of another kind is handled, with or without success. -/
  | message {state : State} (hreach : ReachableWithout action state) (message : Message)
      (hother : message.action ≠ action) :
      ReachableWithout action (state.handle message).state
  /-- The surroundings change. -/
  | surroundings {state : State} (hreach : ReachableWithout action state) (store : Store)
      (files : FileTree) (clock : String) :
      ReachableWithout action { state with store := store, files := files, clock := clock }

/-- What can be reached without messages of a kind can be reached. -/
theorem ReachableWithout.reachable {action : Action} {state : State}
    (hreach : ReachableWithout action state) : Reachable state := by
  induction hreach with
  | initial config store files clock => exact .initial config store files clock
  | message _ message _ ih => exact ih.message message
  | surroundings _ store files clock ih => exact ih.surroundings store files clock

/-- A run without locking keeps every locality within its capacity or down to a single object, and
nothing is ever locked. -/
theorem ReachableWithout.withinOrSingle {state : State} (hreach : ReachableWithout .lock state) :
    state.WithinOrSingle ∧ ∀ name, state.locks.isLocked name = false := by
  induction hreach with
  | initial config store files clock =>
    refine ⟨fun _ => Or.inl ?_, fun name => by simp [State.initial, LockSet.empty, LockSet.isLocked]⟩
    simp [State.initial, usedBytes, Table.usedBytes, Table.empty]
  | message hreach message hother ih =>
    exact hreach.reachable.coherent.handle_withinOrSingle ih.1 ih.2 hother
  | surroundings _ store files clock ih => exact ih

/-- A locality that uses bytes and has at most one entry has exactly one. -/
theorem Coherent.length_entriesAt {state : State} (hcoherent : state.Coherent)
    {locality : Locality} (hone : state.AtMostOne locality)
    (hused : 0 < (state.usedBytes locality).toNat) :
    (entriesAt state.table.entries locality).length = 1 := by
  have hexact := hcoherent.counted locality
  have hnames := hcoherent.indexed.pairwise_entriesAt locality
  have hthere := @Table.Indexed.mem_entriesAt _ hcoherent.indexed locality
  match hentries : entriesAt state.table.entries locality with
  | [] =>
    rw [bytesAt, hentries] at hexact
    simp only [usedBytes] at hused
    simp [hexact] at hused
  | [_] => rfl
  | first :: second :: _ =>
    rw [hentries] at hnames hthere
    have hfirst := hthere.mp (show first ∈ _ by simp)
    have hsecond := hthere.mp (show second ∈ _ by simp)
    have hdiffer := (List.pairwise_cons.mp hnames).1 second (by simp)
    exact absurd (hone hfirst.1 hsecond.1 hfirst.2 hsecond.2) hdiffer

/-- After a message that brought an object into a locality, the used bytes are within the capacity
there, or every entry but the new one is locked. So on a run without locking, a locality with a
capacity is within it at every point, or holds exactly one object. -/
theorem soft_capacity :
    (∀ {state : State}, Reachable state → ∀ {message insertion response},
      state.insertion? message = some insertion →
      (state.handle message).result = .ok response →
      let after := (state.handle message).state
      ∃ capacity entry, state.config.capacityFor insertion.locality = some capacity ∧
        after.table.get? insertion.name = some entry ∧ entry.locality = insertion.locality ∧
        (after.usedBytes insertion.locality ≤ capacity ∨
          ∀ {name other}, after.table.get? name = some other →
            other.locality = insertion.locality → name ≠ insertion.name →
            after.locks.isLocked name = true)) ∧
    ∀ {state : State}, ReachableWithout .lock state → ∀ {locality capacity},
      state.config.capacityFor locality = some capacity →
      state.usedBytes locality ≤ capacity ∨
        (entriesAt state.table.entries locality).length = 1 := by
  constructor
  · intro state hreach message insertion response hbrings hok
    exact hreach.coherent.handle_within_or_locked hbrings hok
  · intro state hreach locality capacity hcapacity
    rcases hreach.withinOrSingle.1 hcapacity with hused | hone
    · exact Or.inl hused
    · by_cases hzero : (state.usedBytes locality).toNat = 0
      · refine Or.inl ?_
        rw [UInt64.le_iff_toNat_le]
        omega
      · exact Or.inr (hreach.reachable.coherent.length_entriesAt hone (by omega))

/-- An object larger than the cache drives out the other two, and is alone there although it
exceeds the capacity. -/
theorem soft_capacity_oversize :
    let state :=
      (State.initial (Config.ofCapacity 10) (Store.empty none) FileTree.empty "").handleAll
        [.put { fileName := "a", handle := "h", size := 4 },
          .put { fileName := "b", handle := "g", size := 0 },
          .put { fileName := "c", handle := "k", size := 12 }]
    ReachableWithout .lock state ∧ state.usedBytes .cpu = 12 ∧
      (entriesAt state.table.entries .cpu).length = 1 := by
  intro state
  have hreach : ReachableWithout .lock state :=
    .message (.message (.message (.initial _ _ _ _) _ (by decide)) _ (by decide)) _ (by decide)
  have hused : state.usedBytes .cpu = 12 := by decide
  have hover : ¬ state.usedBytes .cpu ≤ 10 := by
    rw [hused]
    decide
  exact ⟨hreach, hused, (soft_capacity.2 hreach rfl).resolve_left hover⟩

end State

end SegmentCache
