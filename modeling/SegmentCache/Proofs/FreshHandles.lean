import SegmentCache.Proofs.StoreCalls

/-!
# No handle is handed out twice

A handle carries the number from which it was made. Along a run of calls the counter only moves on,
also when a call crashes and its handle is lost, and the handles that were returned carry different
numbers below it. A new handle therefore differs from all of them, whether their segments are still
live or not. A new segment never takes the place of another, and a call changes at most the one
segment that it names.
-/

namespace SegmentCache

namespace Store

/-- The handles returned so far, the latest first, and the number of handles that were taken off the
counter for them and for calls that crashed. -/
structure Issued (store : Store) (count : Nat) (returned : List String) : Prop where
  /-- The counter stands at that number. -/
  next : store.next = UInt64.ofNat count
  /-- The returned handles carry numbers below. -/
  below : ∀ {handle}, handle ∈ returned →
    ∃ number, handleNumber? handle = some number ∧ number < count
  /-- No handle was returned twice. -/
  nodup : returned.Nodup
  /-- Only they are live. -/
  live : ∀ {handle}, store.contains handle = true → handle ∈ returned

namespace Issued

variable {store after : Store} {count : Nat} {returned : List String}

/-- A store without segments has issued nothing. -/
theorem empty (limit : Option UInt64) : (Store.empty limit).Issued 0 [] where
  next := rfl
  below hreturned := by cases hreturned
  nodup := List.nodup_nil
  live hlive := by simp [Store.empty, contains] at hlive

/-- The live handles carry numbers below the counter. -/
theorem numbered (hissued : store.Issued count returned) : store.Numbered count where
  next := hissued.next
  below hlive := hissued.below (hissued.live hlive)

/-- The next handle has not been returned. -/
theorem next_not_mem (hissued : store.Issued count returned) (hfew : count < 2 ^ 64)
    (locality : Locality) : handleFor locality store.next ∉ returned := by
  intro hreturned
  obtain ⟨number, hnumber, hbelow⟩ := hissued.below hreturned
  rw [hissued.numbered.handleNumber?_next hfew locality] at hnumber
  cases hnumber
  exact Nat.lt_irrefl _ hbelow

/-- The next handle is not live. -/
theorem get?_next (hissued : store.Issued count returned) (hfew : count < 2 ^ 64)
    (locality : Locality) : store.get? (handleFor locality store.next) = none :=
  contains_eq_false_iff.mp (hissued.numbered.not_contains_next hfew locality)

/-- Where no handle becomes live and the counter stays, nothing was issued. -/
theorem of_le (hissued : store.Issued count returned) (hnext : after.next = store.next)
    (hlive : ∀ {handle}, after.contains handle = true → store.contains handle = true) :
    after.Issued count returned where
  next := hnext.trans hissued.next
  below := hissued.below
  nodup := hissued.nodup
  live h := hissued.live (hlive h)

/-- A handle that is taken off the counter and lost is counted and not returned. -/
theorem takeHandle (hissued : store.Issued count returned) (locality : Locality) :
    (store.takeHandle locality).2.Issued (count + 1) returned where
  next := by
    show store.next + 1 = _
    rw [hissued.next]
    exact (UInt64.ofNat_add count 1).symm
  below hreturned := by
    obtain ⟨number, hnumber, hbelow⟩ := hissued.below hreturned
    exact ⟨number, hnumber, Nat.lt_succ_of_lt hbelow⟩
  nodup := hissued.nodup
  live := hissued.live

/-- Handing out a handle counts it. -/
theorem issue (hissued : store.Issued count returned) (hfew : count < 2 ^ 64)
    (segment : Segment) :
    (store.issue segment).2.Issued (count + 1) ((store.issue segment).1 :: returned) where
  next := (hissued.takeHandle segment.locality).next
  below {handle} hreturned := by
    rcases List.mem_cons.mp hreturned with rfl | hearlier
    · exact ⟨count, hissued.numbered.handleNumber?_next hfew segment.locality,
        Nat.lt_succ_self count⟩
    · exact (hissued.takeHandle segment.locality).below hearlier
  nodup := List.nodup_cons.mpr ⟨hissued.next_not_mem hfew segment.locality, hissued.nodup⟩
  live {handle} hlive := by
    rcases (contains_issue store segment handle).mp hlive with rfl | hbefore
    · exact List.mem_cons_self
    · exact List.mem_cons_of_mem _ (hissued.live hbefore)

/-- A call that succeeds issues the handle that it returns, and no other. -/
theorem done (hissued : store.Issued count returned) (hfew : count < 2 ^ 64) {call : Call}
    {answer : Option String} (hdone : call.Done store answer after) :
    after.Issued (count + generated (.ok answer)) (answer.toList ++ returned) := by
  cases hdone with
  | issued => exact hissued.issue hfew _
  | copied hdst hsrc hlength =>
    refine hissued.of_le rfl fun hlive => ?_
    rcases (contains_register _ _ _ _).mp hlive with rfl | hbefore
    · exact contains_iff.mpr ⟨_, hdst⟩
    · exact hbefore
  | freed =>
    refine hissued.of_le rfl fun hlive => ?_
    exact ((contains_discard _ _ _).mp hlive).2

/-- However a call ends, what it takes off the counter and what it returns are counted. -/
theorem perform (hissued : store.Issued count returned) (hfew : count < 2 ^ 64) (call : Call) :
    let called := call.perform store
    called.2.Issued (count + generated called.1) ((returned? called.1).toList ++ returned) := by
  have hended := call.ended store
  dsimp only
  generalize call.perform store = called at hended ⊢
  obtain ⟨ended, after⟩ := called
  cases hended with
  | done hdone => exact hissued.done hfew hdone
  | failed => exact hissued
  | @crashed locality => exact hissued.takeHandle locality

end Issued

/-- What a call leaves of the segments that are live, and what it adds to them. -/
structure Call.Local (store : Store) (call : Call) (answer : Option String) (after : Store) :
    Prop where
  /-- A segment that the call does not name keeps its locality and its bytes. -/
  others : ∀ {handle segment}, call.touched? ≠ some handle → store.get? handle = some segment →
    after.get? handle = some segment
  /-- A segment that is freed is gone. -/
  freed : ∀ {handle}, call = .free handle → after.get? handle = none
  /-- The destination of a copy keeps its locality and its length, and gets the bytes of the
  source. -/
  copied : ∀ {destination source}, call = .copy destination source →
    ∃ dst src, store.get? destination = some dst ∧ store.get? source = some src ∧
      src.contents.length = dst.contents.length ∧
      after.get? destination = some { dst with contents := src.contents }
  /-- A new segment is under the handle that is returned, which was not live. -/
  added : ∀ {segment}, call.segment? = some segment →
    ∃ handle, answer = some handle ∧ store.get? handle = none ∧ after.get? handle = some segment

/-- A call that succeeds changes nothing but the segment that it names. -/
theorem Issued.local {store after : Store} {count : Nat} {returned : List String}
    (hissued : store.Issued count returned) (hfew : count < 2 ^ 64) {call : Call}
    {answer : Option String} (hdone : call.Done store answer after) :
    call.Local store answer after := by
  cases hdone with
  | @issued call segment hsegment =>
    have hfree := hissued.get?_next hfew segment.locality
    refine ⟨?_, ?_, ?_, ?_⟩
    · intro handle other _ hlive
      rw [get?_issue, if_neg]
      · exact hlive
      · rintro rfl
        cases hfree.symm.trans hlive
    · rintro handle rfl
      cases hsegment
    · rintro destination source rfl
      cases hsegment
    · intro other hother
      cases hsegment.symm.trans hother
      exact ⟨_, rfl, hfree, (get?_issue ..).trans (if_pos rfl)⟩
  | @copied destination source dst src hdst hsrc hlength =>
    refine ⟨?_, ?_, ?_, ?_⟩
    · intro handle other hother hlive
      rw [get?_register, if_neg]
      · exact hlive
      · rintro rfl
        exact hother rfl
    · intro handle hfree
      cases hfree
    · intro destination' source' hsame
      cases hsame
      exact ⟨dst, src, hdst, hsrc, hlength.symm, (get?_register ..).trans (if_pos rfl)⟩
    · intro segment hsegment
      cases hsegment
  | @freed handle hlive =>
    refine ⟨?_, ?_, ?_, ?_⟩
    · intro other segment hother hthere
      rw [get?_discard, if_neg]
      · exact hthere
      · rintro rfl
        exact hother rfl
    · intro other hsame
      cases hsame
      exact (get?_discard ..).trans (if_pos rfl)
    · intro destination source hcopy
      cases hcopy
    · intro segment hsegment
      cases hsegment

end Store

namespace Clones

open Store (History)

variable {limit : Option UInt64} {history : History} {clones : Clones}

/-- Along every run of calls the handles that are returned are issued, and those that were lost are
counted. -/
theorem Run.issued (hrun : Run limit history clones) (hfew : history.generated < 2 ^ 64) :
    (clones.view limit).Issued history.generated history.returned := by
  refine hrun.store_induction (motive := fun history store =>
    history.generated < 2 ^ 64 → store.Issued history.generated history.returned)
    (fun _ => .empty limit) ?_ hfew
  intro history store call ih _ hfew
  rw [History.generated] at hfew
  have hissued := (ih (by omega)).perform (by omega) call
  rw [History.generated, History.returned_cons, Nat.add_comm]
  exact hissued

/-- No handle that is returned in a run of calls through any clones has been returned before. At
every point of the run, a call through any clone leaves the live segments alone, but for the one
that it frees, and the one that it copies to, which gets the bytes of the source and keeps its
length. A call that crashes leaves them all alone. -/
theorem handles_fresh_and_writes_local (hrun : Run limit history clones)
    (hfew : history.generated < 2 ^ 64) :
    history.returned.Nodup ∧
    ∀ {own}, own ∈ clones.limits → ∀ call : Store.Call,
      let called := clones.call own call
      (∀ {answer}, called.1 = .ok answer →
        (∀ handle, answer = some handle → handle ∉ history.returned) ∧
        call.Local (clones.view own) answer (called.2.view own)) ∧
      (∀ {failure}, called.1 = .error failure → called.2 = clones) ∧
      (called.1 = .crashed → called.2 = { clones with next := clones.next + 1 }) := by
  have hissued := hrun.issued hfew
  refine ⟨hissued.nodup, ?_⟩
  intro own hown call called
  obtain rfl := hrun.limit_eq hown
  have hended := call.ended (clones.view own)
  have hview : called.2.view own = _ := view_call clones own call
  rw [hview, show called = _ from call_eq clones own call]
  generalize call.perform (clones.view own) = performed at hended ⊢
  obtain ⟨ended, after⟩ := performed
  refine ⟨?_, ?_, ?_⟩
  · rintro answer rfl
    cases hended with
    | done hdone =>
      refine ⟨?_, hissued.local hfew hdone⟩
      intro handle hhandle
      -- The handle is at the front of what is issued after the call, where nothing repeats.
      have hnodup := (hissued.done hfew hdone).nodup
      rw [hhandle] at hnodup
      exact (List.nodup_cons.mp hnodup).1
  · rintro failure rfl
    cases hended
    rfl
  · rintro rfl
    cases hended
    rfl

/-- A segment on a device is freed through a clone, bytes are written, and another segment is
allocated on the device. No handle comes back, and the bytes are copied to the new segment. -/
theorem handles_fresh_and_writes_local_freed :
    let allocate : Store.Call := .allocate (.gpu 3) 2
    let free : Store.Call := .free "dev3_00000000"
    let write : Store.Call := .write ⟨[1, 2], by decide⟩
    let copy : Store.Call := .copy "dev3_00000002" "psm_00000001"
    let first := (Clones.start none).call none allocate
    let second := ({ first.2 with limits := none :: first.2.limits } : Clones).call none free
    let third := second.2.call none write
    let fourth := third.2.call none allocate
    let history : History :=
      [(allocate, fourth.1), (write, third.1), (free, second.1), (allocate, first.1)]
    Run none history fourth.2 ∧
      history.returned = ["dev3_00000002", "psm_00000001", "dev3_00000000"] ∧
      history.returned.Nodup ∧
      copy.Local (fourth.2.view none) none ((fourth.2.call none copy).2.view none) := by
  intro allocate free write copy first second third fourth history
  have hstart : none ∈ (Clones.start none).limits := List.mem_cons_self
  have hcloned := Run.clone (.call .start hstart allocate) (mem_limits_call hstart _)
  have hsecond : none ∈ second.2.limits := mem_limits_call List.mem_cons_self _
  have hthird : none ∈ third.2.limits := mem_limits_call hsecond _
  have hrun : Run none history fourth.2 :=
    .call (.call (.call hcloned List.mem_cons_self free) hsecond write) hthird allocate
  have hreturned : history.returned = ["dev3_00000002", "psm_00000001", "dev3_00000000"] := by
    decide +kernel
  have hfew : history.generated < 2 ^ 64 := by decide +kernel
  obtain ⟨hnodup, hcall⟩ := handles_fresh_and_writes_local hrun hfew
  obtain ⟨hok, -⟩ := hcall (mem_limits_call hthird _) copy
  exact ⟨hrun, hreturned, hnodup, (hok (by decide +kernel)).2⟩

end Clones

end SegmentCache
