import SegmentCache.Proofs.Ownership

/-!
# Keeping the books of segments

Producers write segments while the cache handles messages on the same store. The ledger notes what
producers were handed, what they have offered, and what was accepted, so that one can say at every
point who should own what. `segments_owned` compares this with the table and the store: nothing
dangles, nothing is used twice, and nothing leaks.
-/

namespace SegmentCache

/-- The segment that a message offers for good. The source of a copy to a device stays with its
producer. -/
def Message.offered? : Message → Option String
  | .put offer => some offer.handle
  | .replace offer => some offer.handle
  | _ => none

/-- The segment that a message has brought into the table: the one it offers, if the entry of its
file has it afterwards. -/
def Message.accepted? (message : Message) (after : State) : Option String :=
  message.offered?.filter fun handle =>
    (after.entry? (message.fileName?.getD "")).any (·.handle = handle)

namespace State

variable {state : State} {loose : String → Prop}

/-- A message that brings in no object keeps every segment with its owner. -/
theorem Owns.handle_of_no_insertion (howns : state.Owns loose) {count : Nat}
    (hnumbered : state.store.Numbered count) {message : Message}
    (hnone : state.insertion? message = none) :
    let after := (state.handle message).state
    after.Owns loose ∧ NothingGone (state.handle message).events ∧
      after.store.Numbered count ∧ after.store.next = state.store.next := by
  have haside := handle_aside hnone
  generalize state.handle message = outcome at haside ⊢
  cases haside with
  | stays _ htable hstore _ hevents =>
    exact ⟨howns.congr htable hstore, hevents, hstore ▸ hnumbered, by rw [hstore]⟩
  | @hit next name hits hhit _ _ hstore =>
    have hquiet : NothingGone [.hit name hits] := by simp [NothingGone]
    have hnumbered' : next.store.Numbered count := hstore ▸ hnumbered
    exact ⟨howns.hit hhit hstore, hquiet, hnumbered', congrArg Store.next hstore⟩
  | vacates name =>
    obtain ⟨hafter, hsilent⟩ := howns.vacate name
    obtain ⟨hnumbered', hnext⟩ := vacate_numbered hnumbered name
    refine ⟨hafter, ?_, hnumbered', hnext⟩
    simp [NothingGone, done, hsilent]

/-- What an entry owns is not loose, so no loose segment has been accepted. -/
theorem Owns.accepted?_ne (howns : state.Owns loose) {handle : String} (hloose : loose handle)
    (message : Message) : message.accepted? state ≠ some handle := by
  intro haccepted
  obtain ⟨-, hentry⟩ := Option.filter_eq_some_iff.mp haccepted
  cases hfound : state.entry? (message.fileName?.getD "") with
  | none => simp [hfound] at hentry
  | some entry =>
    simp only [hfound, Option.any_some, decide_eq_true_eq] at hentry
    exact howns.apart hfound (hentry ▸ hloose)

/-- An object that comes into host memory comes in the segment its message offers. One that comes
to a device comes with a message that offers none. -/
theorem offered?_of_insertion? {message : Message} {insertion : Insertion}
    (hbrings : state.insertion? message = some insertion) :
    (insertion.locality = .cpu ∧ message.offered? = some insertion.handle ∧
      entryKey (message.fileName?.getD "") = insertion.name) ∨
    (insertion.locality ≠ .cpu ∧ message.offered? = none) := by
  obtain ⟨offer, rfl, -, rfl⟩ | ⟨offer, device, rfl, -, -, rfl⟩ | ⟨offer, rfl, rfl⟩ :=
    insertion?_cases hbrings
  · exact Or.inl ⟨rfl, rfl, rfl⟩
  · exact Or.inr ⟨by simp [DeviceOffer.insertion], rfl⟩
  · exact Or.inl ⟨rfl, rfl, rfl⟩

/-- A message that brought in an object leaves every live segment with one owner. The segment that
it offers is loose no longer. -/
theorem Owns.handle_of_insertion (howns : state.Owns loose) (hcoherent : state.Coherent)
    {count : Nat} (hnumbered : state.store.Numbered count) (hfew : count < 2 ^ 64)
    {message : Message} {insertion : Insertion}
    (hbrings : state.insertion? message = some insertion)
    (hoffered : ∀ {handle}, message.offered? = some handle → loose handle) {response : Response}
    (hok : (state.handle message).result = .ok response) :
    let after := (state.handle message).state
    after.Owns (fun other => loose other ∧ message.accepted? after ≠ some other) ∧
      NothingGone (state.handle message).events ∧
      after.store.Numbered (count + state.store.handedOut after.store) := by
  have hunlocked := isLocked_of_handle_ok hbrings hok
  obtain ⟨function, parameter, events, -, hhandle, hevents⟩ := handle_eq_insert hbrings hunlocked
  obtain ⟨hbase, -, hfree⟩ := hcoherent.vacate_countPut hunlocked function parameter
  obtain ⟨hvacated, hsilent⟩ := howns.vacate insertion.name
  obtain ⟨hnumbers, hnext⟩ := vacate_numbered hnumbered insertion.name
  have howns' := @Owns.congr _ _ hvacated
    ((state.vacate insertion.name).1.countPut function parameter insertion.name) rfl rfl
  have hnumbers' : ((state.vacate insertion.name).1.countPut function parameter
    insertion.name).store.Numbered count := hnumbers
  have hnext' : ((state.vacate insertion.name).1.countPut function parameter
    insertion.name).store.next = state.store.next := hnext
  rw [hhandle, Outcome.after_result] at hok
  rw [hhandle, Outcome.after_state, Outcome.after_events]
  generalize (state.vacate insertion.name).1.countPut function parameter insertion.name = base
    at hbase hfree howns' hnumbers' hnext' hok ⊢
  have hhost (hcpu : insertion.locality = .cpu) : loose insertion.handle := by
    rcases offered?_of_insertion? hbrings with ⟨-, hoffers, -⟩ | ⟨hgpu, -⟩
    · exact hoffered hoffers
    · exact absurd hcpu hgpu
  obtain ⟨handle, hadded, hcpu, hgpu, hafter, hquiet, hcounted⟩ :=
    howns'.insert hbase.indexed hnumbers' hfew hfree hhost hok
  refine ⟨hafter.of_iff fun other => and_congr_right fun hloose => ?_, ?_, ?_⟩
  · -- The entry owns what was accepted. What a device got was never loose.
    rcases offered?_of_insertion? hbrings with ⟨hlocality, hoffers, hname⟩ | ⟨hlocality, hoffers⟩
    · have haccepted : message.accepted? (base.insert insertion).state = some handle := by
        simp [Message.accepted?, hoffers, entry?, hname, hadded, ← hcpu hlocality, Insertion.entry]
      simp [haccepted, eq_comm]
    · have hnone : message.accepted? (base.insert insertion).state = none := by
        simp [Message.accepted?, hoffers]
      simp only [hnone, reduceCtorEq, ne_eq, not_false_eq_true, iff_true]
      rintro rfl
      exact hgpu hlocality hloose
  · refine NothingGone.append ?_ hquiet
    intro name gone hgone
    rcases hevents _ hgone with hremoving | hvacating
    · cases hremoving
    · simp [hsilent] at hvacating
  · simp only [Store.handedOut, hnext'] at hcounted ⊢
    exact hcounted

/-- A message that succeeds leaves every live segment with one owner, if the segment it offers is
loose. That segment is loose no longer if it was accepted. -/
theorem Owns.handle (howns : state.Owns loose) (hcoherent : state.Coherent) {count : Nat}
    (hnumbered : state.store.Numbered count) (hfew : count < 2 ^ 64) {message : Message}
    (hoffered : ∀ {handle}, message.offered? = some handle → loose handle) {response : Response}
    (hok : (state.handle message).result = .ok response) :
    let after := (state.handle message).state
    after.Owns (fun other => loose other ∧ message.accepted? after ≠ some other) ∧
      NothingGone (state.handle message).events ∧
      after.store.Numbered (count + state.store.handedOut after.store) := by
  cases hbrings : state.insertion? message with
  | some insertion =>
    exact howns.handle_of_insertion hcoherent hnumbered hfew hbrings hoffered hok
  | none =>
    obtain ⟨hafter, hquiet, hnumbered', hnext⟩ := howns.handle_of_no_insertion hnumbered hbrings
    refine ⟨hafter.of_iff fun other => ?_, hquiet, ?_⟩
    · exact (and_iff_left_of_imp fun hloose => hafter.accepted?_ne hloose message).symm
    · simp only [Store.handedOut, hnext, if_true]
      exact hnumbered'

end State

/-- A cache and its store, with the books that are kept of them. -/
structure Ledger where
  /-- The cache. -/
  state : State
  /-- The segments that producers were handed. -/
  written : List String
  /-- The segments that messages have offered. -/
  named : List String
  /-- The segments that offers have brought into the table. -/
  accepted : List String
  /-- How many handles the store has handed out. -/
  generated : Nat
  /-- What the cache has reported. -/
  events : List Event

namespace Ledger

/-- The books of a cache that starts on an empty store. -/
def start (config : Config) (limit : Option UInt64) (files : FileTree) (clock : String) :
    Ledger where
  state := State.initial config (Store.empty limit) files clock
  written := []
  named := []
  accepted := []
  generated := 0
  events := []

/-- A producer writes a segment, unless the store is out of memory. -/
def write (ledger : Ledger) (bytes : List UInt8) : Ledger :=
  match ledger.state.store.write bytes with
  | .error _ => ledger
  | .ok (handle, store) =>
    { ledger with
      state := { ledger.state with store := store }
      written := handle :: ledger.written
      generated := ledger.generated + ledger.state.store.handedOut store }

/-- The cache handles a message. -/
def handle (ledger : Ledger) (message : Message) : Ledger :=
  let outcome := ledger.state.handle message
  { ledger with
    state := outcome.state
    named := message.offered?.toList ++ ledger.named
    accepted := (message.accepted? outcome.state).toList ++ ledger.accepted
    generated := ledger.generated + ledger.state.store.handedOut outcome.state.store
    events := ledger.events ++ outcome.events }

/-- The books that disciplined producers bring about. They write segments and offer each at most
once, and every message succeeds. Nobody else touches the store. -/
inductive Disciplined : Ledger → Prop
  /-- A cache starts on an empty store. -/
  | start (config : Config) (limit : Option UInt64) (files : FileTree) (clock : String) :
      Disciplined (start config limit files clock)
  /-- A producer writes a segment. -/
  | write {ledger : Ledger} (hrun : Disciplined ledger) (bytes : List UInt8) :
      Disciplined (ledger.write bytes)
  /-- A message is handled with success. What it offers was written and not offered before. -/
  | message {ledger : Ledger} (hrun : Disciplined ledger) {message : Message}
      (hoffers : ∀ {handle}, message.offered? = some handle →
        handle ∈ ledger.written ∧ handle ∉ ledger.named)
      {response : Response} (hok : (ledger.state.handle message).result = .ok response) :
      Disciplined (ledger.handle message)
  /-- Files change and time passes. -/
  | surroundings {ledger : Ledger} (hrun : Disciplined ledger) (files : FileTree)
      (clock : String) :
      Disciplined { ledger with state := { ledger.state with files := files, clock := clock } }

/-- A segment that was written and that no offer has brought into the table. -/
def Loose (ledger : Ledger) (handle : String) : Prop :=
  handle ∈ ledger.written ∧ handle ∉ ledger.accepted

/-- The books are in order. -/
structure Kept (ledger : Ledger) : Prop where
  /-- The cache is coherent. -/
  coherent : ledger.state.Coherent
  /-- Every live segment has one owner. -/
  owns : ledger.state.Owns ledger.Loose
  /-- The handles are numbered in the order in which they were handed out. -/
  numbered : ledger.state.store.Numbered ledger.generated
  /-- Those of producers are among them, whether or not they are live. -/
  below : ∀ {handle}, handle ∈ ledger.written →
    ∃ number, Store.handleNumber? handle = some number ∧ number < ledger.generated
  /-- What was accepted was offered. -/
  accepted_named : ledger.accepted ⊆ ledger.named
  /-- What was offered was written. -/
  named_written : ledger.named ⊆ ledger.written
  /-- No entry left whose segment was gone. -/
  nothingGone : NothingGone ledger.events

/-- The books of a new cache are in order. -/
theorem Kept.start (config : Config) (limit : Option UInt64) (files : FileTree) (clock : String) :
    (start config limit files clock).Kept where
  coherent := .initial config (Store.empty limit) files clock
  owns := by
    constructor <;> simp [Ledger.start, State.initial, Loose, Table.get?, Table.empty, Store.empty,
      Store.contains]
  numbered := .empty limit
  below h := by cases h
  accepted_named := List.nil_subset _
  named_written := List.nil_subset _
  nothingGone := by simp [NothingGone, Ledger.start]

/-- Writing a segment keeps the books in order: its handle carries a number that none has had. -/
theorem Kept.write {ledger : Ledger} (hkept : ledger.Kept) (hfew : ledger.generated < 2 ^ 64)
    (bytes : List UInt8) : (ledger.write bytes).Kept := by
  unfold Ledger.write
  split
  · exact hkept
  · rename_i handle store hwrite
    obtain ⟨hnumber, hdead, hlive, hone, hnumbers⟩ :=
      hkept.numbered.issue_eq hfew (Store.write_eq_ok hwrite)
    have hnew : handle ∉ ledger.written := by
      intro hwritten
      obtain ⟨number, hnumber', hbelow⟩ := hkept.below hwritten
      cases hnumber.symm.trans hnumber'
      exact Nat.lt_irrefl _ hbelow
    have hfresh : handle ∉ ledger.accepted :=
      fun haccepted => hnew (hkept.named_written (hkept.accepted_named haccepted))
    rw [hone]
    constructor
    · exact ⟨hkept.coherent.indexed, hkept.coherent.counted, hkept.coherent.replica,
        hkept.coherent.locked⟩
    · refine (hkept.owns.write hdead hlive).of_iff fun other => ?_
      simp only [Loose, List.mem_cons]
      constructor
      · rintro (rfl | ⟨hwritten, hleft⟩)
        · exact ⟨Or.inl rfl, hfresh⟩
        · exact ⟨Or.inr hwritten, hleft⟩
      · rintro ⟨rfl | hwritten, hleft⟩
        · exact Or.inl rfl
        · exact Or.inr ⟨hwritten, hleft⟩
    · exact hnumbers
    · intro other hother
      rcases List.mem_cons.mp hother with rfl | hwritten
      · exact ⟨ledger.generated, hnumber, Nat.lt_succ_self _⟩
      · obtain ⟨number, hnumber', hbelow⟩ := hkept.below hwritten
        exact ⟨number, hnumber', Nat.lt_succ_of_lt hbelow⟩
    · exact hkept.accepted_named
    · exact fun other hother => List.mem_cons_of_mem _ (hkept.named_written hother)
    · exact hkept.nothingGone

/-- A message that succeeds keeps the books in order. -/
theorem Kept.handle {ledger : Ledger} (hkept : ledger.Kept) (hfew : ledger.generated < 2 ^ 64)
    {message : Message} (hoffers : ∀ {handle}, message.offered? = some handle →
      handle ∈ ledger.written ∧ handle ∉ ledger.named)
    {response : Response} (hok : (ledger.state.handle message).result = .ok response) :
    (ledger.handle message).Kept := by
  obtain ⟨howns, hquiet, hcounted⟩ := hkept.owns.handle hkept.coherent hkept.numbered hfew
    (fun hoffer => ⟨(hoffers hoffer).1, fun haccepted =>
      (hoffers hoffer).2 (hkept.accepted_named haccepted)⟩) hok
  constructor
  · exact State.Moves.coherent (State.handle_moves _ message) hkept.coherent
  · refine howns.of_iff fun other => ?_
    simp only [Loose, Ledger.handle, List.mem_append, Option.mem_toList, ne_eq, not_or]
    tauto
  · exact hcounted
  · intro other hwritten
    obtain ⟨number, hnumber, hbelow⟩ := hkept.below hwritten
    exact ⟨number, hnumber, Nat.lt_add_right _ hbelow⟩
  · intro other hother
    rcases List.mem_append.mp hother with hnow | hbefore
    · have hoffer := (Option.filter_eq_some_iff.mp (Option.mem_toList.mp hnow)).1
      exact List.mem_append_left _ (Option.mem_toList.mpr hoffer)
    · exact List.mem_append_right _ (hkept.accepted_named hbefore)
  · intro other hother
    rcases List.mem_append.mp hother with hnow | hbefore
    · exact (hoffers (Option.mem_toList.mp hnow)).1
    · exact hkept.named_written hbefore
  · exact NothingGone.append hkept.nothingGone hquiet

/-- Writing hands out handles and takes none back. -/
theorem generated_le_write (ledger : Ledger) (bytes : List UInt8) :
    ledger.generated ≤ (ledger.write bytes).generated := by
  unfold Ledger.write
  split
  · exact Nat.le_refl _
  · exact Nat.le_add_right _ _

/-- Disciplined producers keep the books in order, as long as the handles do not run out. -/
theorem Disciplined.kept {ledger : Ledger} (hrun : ledger.Disciplined)
    (hfew : ledger.generated < 2 ^ 64) : ledger.Kept := by
  induction hrun with
  | start config limit files clock => exact .start config limit files clock
  | @write ledger _ bytes ih =>
    have hbefore := Nat.lt_of_le_of_lt (ledger.generated_le_write bytes) hfew
    exact (ih hbefore).write hbefore bytes
  | message _ hoffers hok ih =>
    have hbefore := Nat.lt_of_le_of_lt (Nat.le_add_right _ _) hfew
    exact (ih hbefore).handle hbefore hoffers hok
  | surroundings _ files clock ih =>
    obtain ⟨hcoherent, howns, hnumbered, hbelow, haccepted, hnamed, hgone⟩ := ih hfew
    exact ⟨⟨hcoherent.indexed, hcoherent.counted, hcoherent.replica, hcoherent.locked⟩,
      howns.congr rfl rfl, hnumbered, hbelow, haccepted, hnamed, hgone⟩

/-- Every entry has a live segment, which no other entry has. The live segments are those of the
entries and those that were written and not accepted. No entry ever left whose segment was
gone. -/
theorem segments_owned {ledger : Ledger} (hrun : ledger.Disciplined)
    (hfew : ledger.generated < 2 ^ 64) :
    (∀ {name entry}, ledger.state.table.get? name = some entry →
      ledger.state.store.contains entry.handle = true) ∧
    (∀ {name other entry later}, ledger.state.table.get? name = some entry →
      ledger.state.table.get? other = some later → name ≠ other → entry.handle ≠ later.handle) ∧
    (∀ handle, ledger.state.store.contains handle = true ↔
      (∃ name entry, ledger.state.table.get? name = some entry ∧ entry.handle = handle) ∨
        (handle ∈ ledger.written ∧ handle ∉ ledger.accepted)) ∧
    ∀ name handle, Event.segmentGone name handle ∉ ledger.events := by
  have hkept := hrun.kept hfew
  refine ⟨hkept.owns.live, ?_, fun _ => hkept.owns.live_iff, fun _ _ => hkept.nothingGone⟩
  intro name other entry later hfound hfound' hname hsame
  exact hname (hkept.owns.distinct hfound hfound' hsame)

/-- An object is evicted for another of which there is a copy on a device. All that was written
was accepted, so entries own all that is left, and the segment of the first object is gone. -/
theorem segments_owned_evicted :
    let config : Config :=
      { Config.ofCapacity 10 with devices := [{ id := 0, bus := "b", capacity := 8 }] }
    let first : Message := .put { fileName := "a", handle := "psm_00000000", size := 4 }
    let copy : Message :=
      .putGpu { fileName := "g", handle := "psm_00000001", bus := "B", size := 7 }
    let second : Message := .put { fileName := "b", handle := "psm_00000001", size := 7 }
    let written := ((start config none FileTree.empty "").write [1, 2, 3, 4]).write
      [5, 6, 7, 8, 9, 0, 1]
    let ledger := ((written.handle first).handle copy).handle second
    ledger.Disciplined ∧ ledger.generated = 3 ∧
      ledger.state.store.contains "psm_00000000" = false ∧
      ∀ handle, ledger.state.store.contains handle = true ↔
        ∃ name entry, ledger.state.table.get? name = some entry ∧ entry.handle = handle := by
  intro config first copy second written ledger
  have hwritten : written.Disciplined := .write (.write (.start config none _ _) _) _
  have hfirst : (written.handle first).Disciplined := by
    have hok : (written.state.handle first).result = .ok .none := by decide +kernel
    refine hwritten.message ?_ hok
    rintro handle ⟨⟩
    decide +kernel
  have hcopy : ((written.handle first).handle copy).Disciplined := by
    have hok : ((written.handle first).state.handle copy).result = .ok .none := by decide +kernel
    refine hfirst.message ?_ hok
    rintro handle ⟨⟩
  have hsecond : ledger.Disciplined := by
    have hok : (((written.handle first).handle copy).state.handle second).result = .ok .none := by
      decide +kernel
    refine hcopy.message ?_ hok
    rintro handle ⟨⟩
    decide +kernel
  have hcount : ledger.generated = 3 := by decide +kernel
  have hall : ∀ handle ∈ ledger.written, handle ∈ ledger.accepted := by decide +kernel
  refine ⟨hsecond, hcount, by decide +kernel, fun handle => ?_⟩
  rw [(segments_owned hsecond (by rw [hcount]; decide)).2.2.1]
  exact or_iff_left fun hloose => hloose.2 (hall handle hloose.1)

end Ledger

end SegmentCache
