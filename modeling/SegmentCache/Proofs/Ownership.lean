import SegmentCache.Proofs.Capacity
import SegmentCache.Proofs.Placements

/-!
# Who owns a segment

A producer writes a segment and owns it until an offer that names it is accepted. From then on the
entry owns the segment, and the segment goes when the entry does. A copy on a device is made by the
cache and belongs to its entry from the start. `Owns` says that every live segment has exactly one
owner. It is kept as long as producers offer what they wrote, each segment once, and the messages
succeed: a copy that fails leaves a buffer behind that nobody owns.
-/

namespace SegmentCache

/-- No event says that an entry left whose segment was gone. -/
def NothingGone (events : List Event) : Prop :=
  ∀ {name handle}, Event.segmentGone name handle ∉ events

/-- Two stretches without such an event make one. -/
theorem NothingGone.append {earlier later : List Event} (hearlier : NothingGone earlier)
    (hlater : NothingGone later) : NothingGone (earlier ++ later) := by
  intro name handle hgone
  rcases List.mem_append.mp hgone with hgone | hgone
  · exact hearlier hgone
  · exact hlater hgone

/-- Discarding a segment makes its handle dead and no other. -/
theorem Store.contains_discard (store : Store) (handle other : String) :
    (store.discard handle).contains other = true ↔
      other ≠ handle ∧ store.contains other = true := by
  simp [discard, contains, @eq_comm _ handle other]

/-- Discarding a segment keeps the numbering. -/
theorem Store.Numbered.discard {store : Store} {count : Nat} (hnumbered : store.Numbered count)
    (handle : String) : (store.discard handle).Numbered count :=
  hnumbered.of_le rfl fun hlive => ((store.contains_discard handle _).mp hlive).2

/-- How many handles a store has handed out from one point to a later one, as its counter tells:
none or one. -/
def Store.handedOut (before after : Store) : Nat :=
  if after.next = before.next then 0 else 1

/-- What handing out a handle does, as long as handles do not run out: the handle carries the next
number, was not live and is so now, and is counted. -/
theorem Store.Numbered.issue_eq {store after : Store} {count : Nat}
    (hnumbered : store.Numbered count) (hfew : count < 2 ^ 64) {segment : Segment}
    {handle : String} (hissue : store.issue segment = (handle, after)) :
    handleNumber? handle = some count ∧ store.contains handle = false ∧
      (∀ other, after.contains other = true ↔ other = handle ∨ store.contains other = true) ∧
      store.handedOut after = 1 ∧ after.Numbered (count + 1) := by
  obtain ⟨rfl, rfl⟩ := Prod.mk.inj hissue
  refine ⟨hnumbered.handleNumber?_next hfew _, hnumbered.not_contains_next hfew _,
    store.contains_issue segment, ?_, hnumbered.issue hfew segment⟩
  have hcounts : store.next + 1 ≠ store.next := by simp
  exact if_neg hcounts

/-- What evicting takes out: entries that were there, under different names. -/
theorem Table.Indexed.evicted_spec {table : Table} (hindexed : table.Indexed) (locality : Locality)
    (requested capacity : UInt64) (names : List String) :
    let evicted := (evict locality requested capacity names table).evicted
    (∀ entry ∈ evicted, table.get? entry.name = some entry) ∧
      evicted.Pairwise fun a b => a.name ≠ b.name := by
  induction names generalizing table with
  | nil => simp [evict]
  | cons name names ih =>
    unfold evict
    split
    · simp
    · split
      · exact ih hindexed
      · rename_i rest entry hremove
        obtain ⟨hfound, -, -, -⟩ := remove_eq_ok hremove
        obtain rfl := hindexed.named hfound
        obtain ⟨hthere, hdistinct⟩ := ih (hindexed.remove hremove)
        have hlater (other : Entry)
            (hother : other ∈ (evict locality requested capacity names rest).evicted) :
            entry.name ≠ other.name ∧ table.get? other.name = some other :=
          get?_of_remove hremove (hthere other hother)
        exact ⟨List.forall_mem_cons.mpr ⟨hfound, fun other hother => (hlater other hother).2⟩,
          List.pairwise_cons.mpr ⟨fun other hother => (hlater other hother).1, hdistinct⟩⟩

namespace State

/-- Every live segment has exactly one owner: an entry, or nobody but its producer, who holds it
loose. -/
structure Owns (state : State) (loose : String → Prop) : Prop where
  /-- No two entries share a segment. -/
  distinct : ∀ {name other entry later}, state.table.get? name = some entry →
    state.table.get? other = some later → entry.handle = later.handle → name = other
  /-- The segment of an entry is not loose. -/
  apart : ∀ {name entry}, state.table.get? name = some entry → ¬ loose entry.handle
  /-- The live segments are those of the entries and the loose ones. -/
  live_iff : ∀ {handle}, state.store.contains handle = true ↔
    (∃ name entry, state.table.get? name = some entry ∧ entry.handle = handle) ∨ loose handle

variable {state : State} {loose : String → Prop}

/-- The segment of an entry is live. -/
theorem Owns.live (howns : state.Owns loose) {name : String} {entry : Entry}
    (hfound : state.table.get? name = some entry) :
    state.store.contains entry.handle = true :=
  howns.live_iff.mpr (Or.inl ⟨name, entry, hfound, rfl⟩)

/-- Ownership is a matter of the table and the store alone. -/
theorem Owns.congr (howns : state.Owns loose) {next : State} (htable : next.table = state.table)
    (hstore : next.store = state.store) : next.Owns loose where
  distinct h h' := howns.distinct (htable ▸ h) (htable ▸ h')
  apart h := howns.apart (htable ▸ h)
  live_iff := by
    rw [htable, hstore]
    exact howns.live_iff

/-- Ownership depends on which segments are loose, not on how that is said. -/
theorem Owns.of_iff (howns : state.Owns loose) {loose' : String → Prop}
    (hloose : ∀ handle, loose handle ↔ loose' handle) : state.Owns loose' :=
  (funext fun handle => propext (hloose handle) : loose = loose') ▸ howns

/-- An entry that leaves takes its segment with it. -/
theorem Owns.drop (howns : state.Owns loose) {name : String} {table : Table} {entry : Entry}
    (hremove : state.table.remove name = .ok (table, entry)) :
    ({ state with table := table }.release entry).1.Owns loose := by
  obtain ⟨hfound, -, -, -⟩ := Table.remove_eq_ok hremove
  have hkept {other : String} {later : Entry} :
      table.get? other = some later ↔ name ≠ other ∧ state.table.get? other = some later := by
    rw [Table.get?_remove hremove]
    by_cases hname : name = other <;> simp [hname]
  rw [release_state]
  constructor
  · intro other another first second hfirst hsecond
    exact howns.distinct (hkept.mp hfirst).2 (hkept.mp hsecond).2
  · intro other later hlater
    exact howns.apart (hkept.mp hlater).2
  · intro handle
    rw [Store.contains_discard, howns.live_iff]
    constructor
    · rintro ⟨hother, ⟨owner, owned, howned, rfl⟩ | hloose⟩
      · refine Or.inl ⟨owner, owned, hkept.mpr ⟨?_, howned⟩, rfl⟩
        rintro rfl
        exact hother (congrArg Entry.handle (Option.some.inj (howned.symm.trans hfound)))
      · exact Or.inr hloose
    · rintro (⟨owner, owned, howned, rfl⟩ | hloose)
      · obtain ⟨hname, howned⟩ := hkept.mp howned
        refine ⟨fun hsame => hname (howns.distinct hfound howned hsame.symm), ?_⟩
        exact Or.inl ⟨owner, owned, howned, rfl⟩
      · refine ⟨?_, Or.inr hloose⟩
        rintro rfl
        exact howns.apart hfound hloose

/-- A hit changes no ownership. -/
theorem Owns.hit (howns : state.Owns loose) {next : State} {name : String} {hits : UInt64}
    (hhit : state.table.recordHit name = some (next.table, hits))
    (hstore : next.store = state.store) : next.Owns loose := by
  obtain ⟨entry, hfound, -, -⟩ := Table.recordHit_eq_some hhit
  have hentries := Table.get?_recordHit hhit hfound
  -- Every entry has the segment it had, and none has come or gone.
  have hbefore {other : String} {later : Entry} (hlater : next.table.get? other = some later) :
      ∃ earlier, state.table.get? other = some earlier ∧ earlier.handle = later.handle := by
    rw [hentries] at hlater
    split at hlater
    · rename_i hname
      cases hlater
      exact ⟨entry, hname ▸ hfound, rfl⟩
    · exact ⟨later, hlater, rfl⟩
  have hafter {other : String} {earlier : Entry}
      (hearlier : state.table.get? other = some earlier) :
      ∃ later, next.table.get? other = some later ∧ later.handle = earlier.handle := by
    rw [hentries]
    split
    · rename_i hname
      subst hname
      cases hfound.symm.trans hearlier
      exact ⟨_, rfl, rfl⟩
    · exact ⟨earlier, hearlier, rfl⟩
  constructor
  · intro other another first second hfirst hsecond hsame
    obtain ⟨first', hfirst', hhandle⟩ := hbefore hfirst
    obtain ⟨second', hsecond', hhandle'⟩ := hbefore hsecond
    exact howns.distinct hfirst' hsecond' (hhandle.trans (hsame.trans hhandle'.symm))
  · intro other later hlater
    obtain ⟨earlier, hearlier, hhandle⟩ := hbefore hlater
    exact hhandle ▸ howns.apart hearlier
  · intro handle
    rw [hstore, howns.live_iff]
    refine or_congr_left ⟨?_, ?_⟩
    · rintro ⟨other, earlier, hearlier, rfl⟩
      obtain ⟨later, hlater, hhandle⟩ := hafter hearlier
      exact ⟨other, later, hlater, hhandle⟩
    · rintro ⟨other, later, hlater, rfl⟩
      obtain ⟨earlier, hearlier, hhandle⟩ := hbefore hlater
      exact ⟨other, earlier, hearlier, hhandle⟩

/-- A new entry owns its segment, which no entry had before and which is loose no longer. -/
theorem Owns.add (howns : state.Owns loose) {insertion : Insertion} {handle : String}
    {store : Store} (hfree : state.table.contains insertion.name = false)
    (hnew : ∀ {name entry}, state.table.get? name = some entry → entry.handle ≠ handle)
    (hstore : ∀ other, store.contains other = true ↔
      other = handle ∨ state.store.contains other = true) :
    ({ state with store := store }.add insertion handle).Owns
      fun other => loose other ∧ other ≠ handle := by
  have hentries := @get?_add { state with store := store } insertion hfree handle
  have hcases {name : String} {entry : Entry}
      (hfound : ({ state with store := store }.add insertion handle).table.get? name =
        some entry) :
      (insertion.name = name ∧ entry.handle = handle) ∨ state.table.get? name = some entry := by
    rw [hentries] at hfound
    split at hfound
    · rename_i hname
      cases hfound
      exact Or.inl ⟨hname, rfl⟩
    · exact Or.inr hfound
  have hkept {name : String} {entry : Entry} (hfound : state.table.get? name = some entry) :
      ({ state with store := store }.add insertion handle).table.get? name = some entry := by
    rw [hentries, if_neg]
    · exact hfound
    · rintro rfl
      cases (Table.contains_eq_false_iff.mp hfree).symm.trans hfound
  constructor
  · intro name other entry later hfound hfound' hsame
    rcases hcases hfound with ⟨hname, hhandle⟩ | hbefore <;>
      rcases hcases hfound' with ⟨hname', hhandle'⟩ | hbefore'
    · exact hname.symm.trans hname'
    · exact absurd (hsame.symm.trans hhandle) (hnew hbefore')
    · exact absurd (hsame.trans hhandle') (hnew hbefore)
    · exact howns.distinct hbefore hbefore' hsame
  · intro name entry hfound hloose
    rcases hcases hfound with ⟨-, hhandle⟩ | hbefore
    · exact hloose.2 hhandle
    · exact howns.apart hbefore hloose.1
  · intro other
    show store.contains other = true ↔ _
    rw [hstore, howns.live_iff]
    constructor
    · rintro (rfl | ⟨name, entry, hfound, rfl⟩ | hloose)
      · refine Or.inl ⟨insertion.name, insertion.entry other, ?_, rfl⟩
        rw [hentries, if_pos rfl]
      · exact Or.inl ⟨name, entry, hkept hfound, rfl⟩
      · by_cases hother : other = handle
        · refine Or.inl ⟨insertion.name, insertion.entry handle, ?_, hother.symm⟩
          rw [hentries, if_pos rfl]
        · exact Or.inr ⟨hloose, hother⟩
    · rintro (⟨name, entry, hfound, rfl⟩ | ⟨hloose, -⟩)
      · rcases hcases hfound with ⟨-, hhandle⟩ | hbefore
        · exact Or.inl hhandle
        · exact Or.inr (Or.inl ⟨name, entry, hbefore, rfl⟩)
      · exact Or.inr (Or.inr hloose)

/-- A segment that a producer has just written is loose. -/
theorem Owns.write (howns : state.Owns loose) {handle : String} {store : Store}
    (hdead : state.store.contains handle = false)
    (hstore : ∀ other, store.contains other = true ↔
      other = handle ∨ state.store.contains other = true) :
    { state with store := store }.Owns fun other => other = handle ∨ loose other where
  distinct := howns.distinct
  apart {name entry} hfound := by
    rintro (hsame | hloose)
    · have hlive := howns.live hfound
      rw [hsame, hdead] at hlive
      cases hlive
    · exact howns.apart hfound hloose
  live_iff {other} := by
    show store.contains other = true ↔ _
    rw [hstore, howns.live_iff]
    exact or_left_comm

/-- Letting go of an entry whose segment is live is not reported. -/
theorem release_events {entry : Entry} (hlive : state.store.contains entry.handle = true) :
    (state.release entry).2 = [] := by
  simp [release, Store.free, hlive]

/-- Letting go of entries whose segments are live and different is not reported. -/
theorem releaseAll_events {entries : List Entry} {state : State}
    (hlive : ∀ entry ∈ entries, state.store.contains entry.handle = true)
    (hdistinct : entries.Pairwise fun a b => a.handle ≠ b.handle) :
    (state.releaseAll entries).2 = [] := by
  induction entries generalizing state with
  | nil => rfl
  | cons entry entries ih =>
    obtain ⟨hothers, hdistinct⟩ := List.pairwise_cons.mp hdistinct
    have hfirst := release_events (hlive entry (by simp))
    have hrest := @ih (state.release entry).1 ?_ hdistinct
    · simp [releaseAll, hfirst, hrest]
    · intro other hother
      rw [release_state]
      exact (Store.contains_discard _ _ _).mpr
        ⟨(hothers other hother).symm, hlive other (by simp [hother])⟩

/-- Letting go of the entry under a name keeps ownership and is not reported. -/
theorem Owns.vacate (howns : state.Owns loose) (name : String) :
    (state.vacate name).1.Owns loose ∧ (state.vacate name).2 = [] := by
  unfold State.vacate
  split
  · exact ⟨howns, rfl⟩
  · rename_i table entry hremove
    obtain ⟨hfound, -, -, -⟩ := Table.remove_eq_ok hremove
    exact ⟨howns.drop hremove, release_events (howns.live hfound)⟩

/-- Making room keeps ownership, and no segment is found to be gone. -/
theorem Owns.makeRoom (howns : state.Owns loose) (hindexed : state.table.Indexed) (name : String)
    (locality : Locality) (size capacity : UInt64) :
    (state.makeRoom name locality size capacity).1.Owns loose ∧
      NothingGone (state.makeRoom name locality size capacity).2 := by
  constructor
  · exact makeRoom_induction (motive := fun next => next.Owns loose) name locality size capacity
      howns fun _ hremove hnext => hnext.drop hremove
  · unfold State.makeRoom
    split
    · simp [NothingGone]
    · obtain ⟨hthere, hnames⟩ := hindexed.evicted_spec locality size capacity
        (state.table.candidates state.locks locality)
      have hlive (entry : Entry) (hentry : entry ∈ (Table.makeRoom state.table state.locks locality
          size capacity).evicted) : state.store.contains entry.handle = true :=
        howns.live (hthere entry hentry)
      have hdistinct : (Table.makeRoom state.table state.locks locality size
          capacity).evicted.Pairwise fun a b => a.handle ≠ b.handle :=
        hnames.imp_of_mem fun {a b} ha hb hname hsame =>
          hname (howns.distinct (hthere a ha) (hthere b hb) hsame)
      have hsilent := @releaseAll_events _
        { state with table := (state.table.makeRoom state.locks locality size capacity).table }
        hlive hdistinct
      dsimp only
      split <;> simp [NothingGone, hsilent]

/-- Making room keeps the numbering of the store. -/
theorem makeRoom_numbered {count : Nat} (hnumbered : state.store.Numbered count) (name : String)
    (locality : Locality) (size capacity : UInt64) :
    (state.makeRoom name locality size capacity).1.store.Numbered count ∧
      (state.makeRoom name locality size capacity).1.store.next = state.store.next := by
  refine makeRoom_induction
    (motive := fun next => next.store.Numbered count ∧ next.store.next = state.store.next) name
    locality size capacity ⟨hnumbered, rfl⟩ ?_
  intro next victim table entry _ _ ⟨hnext, hfirst⟩
  rw [release_state]
  exact ⟨hnext.discard entry.handle, hfirst⟩

/-- Letting go of the entry under a name keeps the numbering of the store. -/
theorem vacate_numbered {count : Nat} (hnumbered : state.store.Numbered count) (name : String) :
    (state.vacate name).1.store.Numbered count ∧
      (state.vacate name).1.store.next = state.store.next := by
  unfold vacate
  split
  · exact ⟨hnumbered, rfl⟩
  · rename_i table entry hremove
    rw [release_state]
    exact ⟨hnumbered.discard entry.handle, rfl⟩

/-- The segment found for an object belongs to no entry and is live from then on. In host memory it
is the loose one that was offered, on a device a fresh one, which is counted. -/
theorem Owns.place (howns : state.Owns loose) {count : Nat} (hnumbered : state.store.Numbered count)
    (hfew : count < 2 ^ 64) {insertion : Insertion}
    (hoffered : insertion.locality = .cpu → loose insertion.handle) {handle : String}
    {store : Store} (hplace : State.place state.store insertion = (.ok handle, store)) :
    (insertion.locality = .cpu → handle = insertion.handle) ∧
      (insertion.locality ≠ .cpu → ¬ loose handle) ∧
      (∀ {name entry}, state.table.get? name = some entry → entry.handle ≠ handle) ∧
      (∀ other, store.contains other = true ↔
        other = handle ∨ state.store.contains other = true) ∧
      store.Numbered (count + state.store.handedOut store) := by
  have hplacing := placing state.store insertion
  rw [hplace] at hplacing
  cases hlocality : insertion.locality with
  | cpu =>
    obtain ⟨rfl, rfl⟩ := hplacing.in_host hlocality
    have hloose := hoffered hlocality
    have hlive : state.store.contains insertion.handle = true :=
      howns.live_iff.mpr (Or.inr hloose)
    refine ⟨fun _ => rfl, fun hgpu => absurd rfl hgpu, ?_, ?_, ?_⟩
    · intro name entry hfound hsame
      exact howns.apart hfound (hsame ▸ hloose)
    · intro other
      refine ⟨Or.inr, ?_⟩
      rintro (rfl | hother)
      · exact hlive
      · exact hother
    · have hnone : state.store.handedOut state.store = 0 := if_pos rfl
      rw [hnone]
      exact hnumbered
  | gpu device =>
    obtain ⟨rfl, contents, rfl, -⟩ := hplacing.on_device hlocality
    obtain ⟨-, hfresh, hlive, hone, hnumbers⟩ := @Store.Numbered.issue_eq state.store
      (state.store.withBuffer device contents) count hnumbered hfew
      { locality := .gpu device, contents } (state.store.nextBuffer device) rfl
    have hdead {other : String} (hother : state.store.contains other = true) :
        other ≠ state.store.nextBuffer device := by
      rintro rfl
      rw [hfresh] at hother
      cases hother
    refine ⟨(fun hcpu => by cases hcpu), ?_, fun hfound => hdead (howns.live hfound), hlive, ?_⟩
    · intro _ hloose
      exact hdead (howns.live_iff.mpr (Or.inr hloose)) rfl
    · rw [hone]
      exact hnumbers

/-- An insertion that succeeded leaves every live segment with one owner. In host memory the entry
owns the loose segment that was offered, on a device a fresh one. No segment is found to be gone,
and a handle that was handed out is counted. -/
theorem Owns.insert (howns : state.Owns loose) (hindexed : state.table.Indexed) {count : Nat}
    (hnumbered : state.store.Numbered count) (hfew : count < 2 ^ 64) {insertion : Insertion}
    (hfree : state.table.contains insertion.name = false)
    (hoffered : insertion.locality = .cpu → loose insertion.handle) {response : Response}
    (hok : (state.insert insertion).result = .ok response) :
    let after := (state.insert insertion).state
    ∃ handle, after.table.get? insertion.name = some (insertion.entry handle) ∧
      (insertion.locality = .cpu → handle = insertion.handle) ∧
      (insertion.locality ≠ .cpu → ¬ loose handle) ∧
      after.Owns (fun other => loose other ∧ other ≠ handle) ∧
      NothingGone (state.insert insertion).events ∧
      after.store.Numbered (count + state.store.handedOut after.store) := by
  obtain ⟨capacity, room, events, handle, store, -, hmade, -, hplace, hinsert⟩ := insert_eq_ok hok
  obtain ⟨hroom, hsilent⟩ := howns.makeRoom hindexed insertion.name insertion.locality
    insertion.size capacity
  obtain ⟨hnumbers, hnext⟩ := makeRoom_numbered hnumbered insertion.name insertion.locality
    insertion.size capacity
  have hfree' := contains_makeRoom hfree insertion.name insertion.locality insertion.size capacity
  simp only [hmade] at hroom hsilent hnumbers hnext hfree'
  obtain ⟨hcpu, hgpu, hnew, hstore, hnumbers'⟩ := hroom.place hnumbers hfew hoffered hplace
  have hadded := @get?_add { room with store := store } insertion hfree' handle insertion.name
  rw [if_pos rfl] at hadded
  have hcounted : room.store.handedOut store = state.store.handedOut store := by
    simp only [Store.handedOut, hnext]
  rw [hinsert]
  exact ⟨handle, hadded, hcpu, hgpu, hroom.add hfree' hnew hstore,
    hsilent.append (by simp [NothingGone]), hcounted ▸ hnumbers'⟩

end State

end SegmentCache
