import SegmentCache.Proofs.FreshHandles
import SegmentCache.Proofs.Table

/-!
# The limit of a store

A store with a limit does not keep account of what it has allocated. It adds up the lengths of all
segments whenever there is a request. The books are kept here instead, from the calls and their
answers alone: `History.outstanding` lists what was added and has not been freed since. Because no
new segment takes the place of another and a copy keeps the length, the sum over the segments is
the sum over the books. A request is refused exactly when the books have no room for it, and one
that is not refused is granted, unless it asks for more zeros than a buffer can have.
-/

namespace SegmentCache

namespace Store

/-- The bytes of all live segments, added up as words, which may wrap around. -/
def wordBytes (store : Store) : UInt64 :=
  store.segments.foldl (fun total _ segment => total + UInt64.ofNat segment.contents.length) 0

/-- The segments that were added and have not been freed since, by handle and length. -/
def History.outstanding : History → List (String × Nat)
  | [] => []
  | (.write bytes, .ok (some handle)) :: earlier =>
    (handle, bytes.val.length) :: History.outstanding earlier
  | (.allocate _ size, .ok (some handle)) :: earlier =>
    (handle, size.toNat) :: History.outstanding earlier
  | (.free handle, .ok _) :: earlier =>
    (History.outstanding earlier).filter fun item => item.1 ≠ handle
  | _ :: earlier => History.outstanding earlier

/-- The books agree with the store: they list the live segments, each once and with its length. -/
structure Tally (store : Store) (outstanding : List (String × Nat)) : Prop where
  /-- No handle is listed twice. -/
  nodup : (outstanding.map Prod.fst).Nodup
  /-- The live segments are listed, and no others. -/
  mem : ∀ {handle length}, (handle, length) ∈ outstanding ↔
    ∃ segment, store.get? handle = some segment ∧ segment.contents.length = length

/-- A call that adds a segment is put on the books with its length. -/
theorem History.outstanding_issued {call : Call} {segment : Segment}
    (hsegment : call.segment? = some segment) (handle : String) (history : History) :
    History.outstanding ((call, .ok (some handle)) :: history) =
      (handle, segment.contents.length) :: history.outstanding := by
  cases call <;> cases hsegment <;> rfl

/-- A call that failed or crashed is not on the books. -/
theorem History.outstanding_of_not_ok (call : Call)
    {ended : Attempt SegmentFailure (Option String)} (hbad : ended.isOk = false)
    (history : History) : History.outstanding ((call, ended) :: history) = history.outstanding := by
  cases ended with
  | ok answer => cases hbad
  | error failure => cases call <;> rfl
  | crashed => cases call <;> rfl

/-- The bytes of all live segments together. -/
theorem allocatedBytes_eq_sum (store : Store) :
    store.allocatedBytes =
      (store.segments.toList.map fun item => item.2.contents.length).sum := by
  rw [allocatedBytes, Std.ExtTreeMap.foldl_eq_foldl_toList, List.sum_eq_foldl, List.foldl_map]

/-- The sum of words is the exact sum, as far as a word can tell. -/
theorem wordBytes_eq (store : Store) : store.wordBytes = UInt64.ofNat store.allocatedBytes := by
  rw [wordBytes, allocatedBytes, Std.ExtTreeMap.foldl_eq_foldl_toList,
    Std.ExtTreeMap.foldl_eq_foldl_toList]
  have hsums (items : List (String × Segment)) (start : Nat) :
      items.foldl (fun total item => total + UInt64.ofNat item.2.contents.length)
        (UInt64.ofNat start) =
      UInt64.ofNat (items.foldl (fun total item => total + item.2.contents.length) start) := by
    induction items generalizing start with
    | nil => rfl
    | cons item items ih =>
      rw [List.foldl_cons, List.foldl_cons, ← UInt64.ofNat_add]
      exact ih _
  exact hsums store.segments.toList 0

namespace Tally

variable {store after : Store} {outstanding : List (String × Nat)}

/-- There is nothing on the books of a store without segments. -/
theorem empty (limit : Option UInt64) : (Store.empty limit).Tally [] where
  nodup := List.nodup_nil
  mem := by simp [Store.empty, get?]

/-- What is on the books comes to the bytes of all live segments together. -/
theorem allocatedBytes_eq (htally : store.Tally outstanding) :
    store.allocatedBytes = (outstanding.map Prod.snd).sum := by
  let listed := store.segments.toList.map fun item => (item.1, item.2.contents.length)
  have hlisted : listed.Nodup := by
    refine List.Nodup.of_map Prod.fst ?_
    rw [List.map_map]
    exact List.pairwise_map.mpr
      (store.segments.distinct_keys_toList.imp fun hkeys hsame => hkeys (by simpa using hsame))
  have hperm : listed.Perm outstanding := by
    rw [List.perm_ext_iff_of_nodup hlisted htally.nodup.of_map]
    rintro ⟨handle, length⟩
    rw [htally.mem]
    simp [listed, Std.ExtTreeMap.mem_toList_iff_getElem?_eq_some, get?]
  rw [allocatedBytes_eq_sum, ← (hperm.map Prod.snd).sum_nat, List.map_map]
  rfl

/-- A new segment under a handle that is not live is put on the books. -/
theorem issue (htally : store.Tally outstanding) {segment : Segment}
    (hfree : store.get? (store.issue segment).1 = none) :
    (store.issue segment).2.Tally
      (((store.issue segment).1, segment.contents.length) :: outstanding) where
  nodup := by
    refine List.nodup_cons.mpr ⟨?_, htally.nodup⟩
    intro hlisted
    obtain ⟨⟨handle, length⟩, hitem, hhandle⟩ := List.mem_map.mp hlisted
    obtain ⟨other, hother, -⟩ := htally.mem.mp hitem
    rw [show handle = _ from hhandle, hfree] at hother
    cases hother
  mem {handle length} := by
    rw [List.mem_cons, Prod.mk.injEq, htally.mem, get?_issue]
    by_cases hhandle : (store.issue segment).1 = handle
    · subst hhandle
      simp [hfree, eq_comm]
    · simp [hhandle, Ne.symm hhandle]

/-- A segment that gets the bytes of another of its length stays on the books as it is. -/
theorem register (htally : store.Tally outstanding) {handle : String} {old new : Segment}
    (hold : store.get? handle = some old) (hlength : new.contents.length = old.contents.length) :
    (store.register handle new).Tally outstanding where
  nodup := htally.nodup
  mem {other length} := by
    rw [htally.mem, get?_register]
    by_cases hhandle : handle = other
    · subst hhandle
      simp [hold, hlength]
    · simp [hhandle]

/-- A segment that is freed is taken off the books. -/
theorem discard (htally : store.Tally outstanding) (handle : String) :
    (store.discard handle).Tally (outstanding.filter fun item => item.1 ≠ handle) where
  nodup := htally.nodup.sublist (List.filter_sublist.map Prod.fst)
  mem {other length} := by
    rw [List.mem_filter, htally.mem, get?_discard]
    by_cases hhandle : handle = other
    · subst hhandle
      simp
    · simp [hhandle, Ne.symm hhandle]

/-- A call that succeeds keeps the books in order, if the next handle is not live. -/
theorem done {history : History} (htally : store.Tally history.outstanding)
    (hfree : ∀ locality, store.get? (handleFor locality store.next) = none) {call : Call}
    {answer : Option String} (hdone : call.Done store answer after) :
    after.Tally (History.outstanding ((call, .ok answer) :: history)) := by
  cases hdone with
  | issued hsegment =>
    rw [History.outstanding_issued hsegment]
    exact htally.issue (hfree _)
  | copied hdst _ hlength => exact htally.register hdst hlength.symm
  | freed => exact htally.discard _

end Tally

/-- A limit that is not the largest word is kept exactly: more is admitted when it fits beside what
is there. -/
theorem admits_iff {store : Store} {limit : UInt64} (hstore : store.limit = some limit)
    (hlimit : limit.toNat < 2 ^ 64 - 1) (requested : UInt64) :
    store.admits requested = true ↔ store.allocatedBytes + requested.toNat ≤ limit.toNat := by
  have hmax : Word.max.toNat = 2 ^ 64 - 1 := by decide
  simp only [admits, hstore, decide_eq_true_eq, hmax]
  omega

/-- Bytes are written when the store admits them. -/
theorem exists_write_iff (store : Store) (bytes : List UInt8) :
    (∃ result, store.write bytes = .ok result) ↔
      store.admits (UInt64.ofNat bytes.length) = true := by
  cases hroom : store.admits (UInt64.ofNat bytes.length) <;> simp [write, hroom]

/-- Zeros are allocated when the store admits them and a buffer can have so many. -/
theorem exists_allocate_iff (store : Store) (locality : Locality) (size : UInt64) :
    (∃ handle, (store.allocate locality size).1 = .ok handle) ↔
      store.admits size = true ∧ size.toNat ≤ Contents.maxLength := by
  rcases store.allocate_cases locality size with
    ⟨hfull, hallocate⟩ | ⟨hroom, hlong, hallocate⟩ | ⟨hroom, hshort, hallocate⟩
  · simp [hallocate, hfull]
  · simp [hallocate, hroom, hlong]
  · simp [hallocate, hroom, hshort]

/-- A segment is copied to a live one of its length. -/
theorem exists_copy_iff (store : Store) (destination source : String) :
    (∃ after, store.copy destination source = .ok after) ↔
      ∃ dst src, store.get? destination = some dst ∧ store.get? source = some src ∧
        dst.contents.length = src.contents.length := by
  constructor
  · rintro ⟨after, hcopy⟩
    obtain ⟨src, dst, hsrc, hdst, hlength, -⟩ := copy_eq_ok hcopy
    exact ⟨dst, src, hdst, hsrc, hlength⟩
  · rintro ⟨dst, src, hdst, hsrc, hlength⟩
    simp only [copy, hdst, hsrc, if_pos hlength]
    exact ⟨_, rfl⟩

/-- A live segment is freed. -/
theorem exists_free_iff (store : Store) (handle : String) :
    (∃ after, store.free handle = .ok after) ↔ store.contains handle = true := by
  cases hlive : store.contains handle <;> simp [free, hlive]

/-- A new segment has as many bytes as a word can count. -/
theorem Call.length_of_segment? {call : Call} {segment : Segment}
    (hsegment : call.segment? = some segment) : segment.contents.length < 2 ^ 64 := by
  cases call <;> cases hsegment
  · rename_i bytes
    exact bytes.property
  · rename_i size
    exact size.toNat_lt

/-- A call that succeeds keeps the limit. -/
theorem Tally.allocatedBytes_le {store after : Store} {history : History}
    (htally : store.Tally history.outstanding) {call : Call} {answer : Option String}
    (hdone : call.Done store answer after)
    (htally' : after.Tally (History.outstanding ((call, .ok answer) :: history)))
    {limit : UInt64} (hstore : store.limit = some limit) (hlimit : limit.toNat < 2 ^ 64 - 1)
    (hwithin : store.allocatedBytes ≤ limit.toNat) : after.allocatedBytes ≤ limit.toNat := by
  rw [htally'.allocatedBytes_eq]
  cases hdone with
  | @issued call segment hsegment hroom =>
    have hlength := Call.length_of_segment? hsegment
    rw [admits_iff hstore hlimit, UInt64.toNat_ofNat_of_lt' hlength, htally.allocatedBytes_eq]
      at hroom
    rw [History.outstanding_issued hsegment, List.map_cons, List.sum_cons]
    omega
  | copied =>
    rw [htally.allocatedBytes_eq] at hwithin
    exact hwithin
  | freed =>
    rw [htally.allocatedBytes_eq] at hwithin
    refine le_trans (List.Sublist.sum_le_sum ?_ fun _ _ => Nat.zero_le _) hwithin
    exact List.filter_sublist.map Prod.snd

end Store

namespace Clones

open Store (History)

variable {limit : Option UInt64} {history : History} {clones : Clones}

/-- Along every run of calls the books stay in order, and a limit that is not the largest word is
kept. -/
theorem Run.tally (hrun : Run limit history clones) (hfew : history.generated < 2 ^ 64) :
    (clones.view limit).Tally history.outstanding ∧
      ∀ {bound : UInt64}, limit = some bound → bound.toNat < 2 ^ 64 - 1 →
        (clones.view limit).allocatedBytes ≤ bound.toNat := by
  -- The handles come along, since the next one must not be live.
  refine (hrun.store_induction (motive := fun history store =>
    history.generated < 2 ^ 64 →
      store.Issued history.generated history.returned ∧ store.Tally history.outstanding ∧
      ∀ {bound : UInt64}, limit = some bound → bound.toNat < 2 ^ 64 - 1 →
        store.allocatedBytes ≤ bound.toNat) ?_ ?_ hfew).2
  · intro _
    refine ⟨.empty limit, .empty limit, ?_⟩
    intro bound _ _
    rw [(Store.Tally.empty limit).allocatedBytes_eq]
    exact Nat.zero_le _
  · intro history store call ih hstore hfew
    rw [History.generated] at hfew
    obtain ⟨hissued, htally, hwithin⟩ := ih (by omega)
    refine ⟨?_, ?_⟩
    · rw [History.generated, History.returned_cons, Nat.add_comm]
      exact hissued.perform (by omega) call
    · have hended := call.ended store
      generalize call.perform store = called at hended ⊢
      obtain ⟨ended, after⟩ := called
      cases hended with
      | done hdone =>
        have htally' := htally.done (hissued.get?_next (by omega)) hdone
        refine ⟨htally', ?_⟩
        intro bound hbound hlarge
        exact htally.allocatedBytes_le hdone htally' (hstore.trans hbound) hlarge
          (hwithin hbound hlarge)
      | failed =>
        rw [History.outstanding_of_not_ok _ rfl]
        exact ⟨htally, hwithin⟩
      | crashed =>
        rw [History.outstanding_of_not_ok _ rfl]
        exact ⟨⟨htally.nodup, htally.mem⟩, hwithin⟩

/-- With a limit that is not the largest word, at every point of a run of calls through any clones
the allocated bytes are the sum of what was added and not freed, also when they are added up as
words, and within the limit. Bytes are written exactly when the limit leaves room for them, and
zeros are allocated exactly when a buffer can have so many as well. A segment is copied exactly to a
live one of its length, and exactly a live segment is freed. A call that fails on the way through
its steps has changed nothing. A call crashes exactly when it is to allocate more zeros than a
buffer can have and the limit leaves room for them, and then nothing but the counter has changed. -/
theorem limit_exact_and_failures_atomic {bound : UInt64} (hbound : bound.toNat < 2 ^ 64 - 1)
    (hrun : Run (some bound) history clones) (hfew : history.generated < 2 ^ 64)
    {own : Option UInt64} (hown : own ∈ clones.limits) :
    let store := clones.view own
    let total := (history.outstanding.map Prod.snd).sum
    (store.Tally history.outstanding ∧ store.allocatedBytes = total ∧
      store.wordBytes.toNat = total ∧ total ≤ bound.toNat) ∧
    (∀ bytes : Bytes, (∃ result, store.write bytes.val = .ok result) ↔
      store.allocatedBytes + bytes.val.length ≤ bound.toNat) ∧
    (∀ locality size, (∃ handle, (store.allocate locality size).1 = .ok handle) ↔
      store.allocatedBytes + size.toNat ≤ bound.toNat ∧ size.toNat ≤ Contents.maxLength) ∧
    (∀ destination source, (∃ after, store.copy destination source = .ok after) ↔
      ∃ dst src, store.get? destination = some dst ∧ store.get? source = some src ∧
        dst.contents.length = src.contents.length) ∧
    (∀ handle, (∃ after, store.free handle = .ok after) ↔ store.contains handle = true) ∧
    ∀ call : Store.Call,
      (∀ answer after, call.steps store = .ok answer after ↔
        call.perform store = (.ok answer, after)) ∧
      (∀ failure after, call.steps store = .error (.failed failure) after ↔
        (call.perform store).1 = .error failure ∧ after = store) ∧
      ∀ after, call.steps store = .error .crashed after ↔
        (∃ locality size, call = .allocate locality size ∧
          store.allocatedBytes + size.toNat ≤ bound.toNat ∧ Contents.maxLength < size.toNat) ∧
        after = { store with next := store.next + 1 } := by
  intro store total
  obtain rfl := hrun.limit_eq hown
  obtain ⟨htally, hwithin⟩ := hrun.tally hfew
  have htotal : store.allocatedBytes = total := htally.allocatedBytes_eq
  have hkept : total ≤ bound.toNat := htotal ▸ hwithin rfl hbound
  have hword : store.wordBytes.toNat = total := by
    rw [store.wordBytes_eq, htotal, UInt64.toNat_ofNat_of_lt']
    show total < 2 ^ 64
    omega
  have hroom := Store.admits_iff (show store.limit = some bound from rfl) hbound
  refine ⟨⟨htally, htotal, hword, hkept⟩, ?_, ?_, store.exists_copy_iff, store.exists_free_iff,
    fun call => ⟨fun _ _ => Store.Call.steps_eq_ok_iff, fun _ _ => Store.Call.steps_eq_failed_iff,
      fun _ => ?_⟩⟩
  · intro bytes
    rw [store.exists_write_iff, hroom, UInt64.toNat_ofNat_of_lt' bytes.property]
  · intro locality size
    rw [store.exists_allocate_iff, hroom]
  · rw [Store.Call.steps_eq_crashed_iff]
    simp only [hroom]

/-- Of four bytes three are allocated, two more are refused through a clone, and one is written.
Then there is no room for another, and the steps of writing it change nothing. -/
theorem limit_exact_and_failures_atomic_full :
    let limit : Option UInt64 := some 4
    let allocate : Store.Call := .allocate .cpu 3
    let refused : Store.Call := .allocate (.gpu 3) 2
    let write : Store.Call := .write ⟨[7], by decide⟩
    let another : Bytes := ⟨[8], by decide⟩
    let first := (Clones.start limit).call limit allocate
    let second := ({ first.2 with limits := limit :: first.2.limits } : Clones).call limit refused
    let third := second.2.call limit write
    let history : History := [(write, third.1), (refused, second.1), (allocate, first.1)]
    let store := third.2.view limit
    Run limit history third.2 ∧
      history.outstanding = [("psm_00000001", 1), ("psm_00000000", 3)] ∧
      store.allocatedBytes = 4 ∧ (¬ ∃ result, store.write another.val = .ok result) ∧
      (Store.Call.write another).steps store = .error (.failed (.outOfMemory 1)) store := by
  intro limit allocate refused write another first second third history store
  have hstart : limit ∈ (Clones.start limit).limits := List.mem_cons_self
  have hcloned := Run.clone (.call .start hstart allocate) (mem_limits_call hstart _)
  have hsecond : limit ∈ second.2.limits := mem_limits_call List.mem_cons_self _
  have hrun : Run limit history third.2 :=
    .call (.call hcloned List.mem_cons_self refused) hsecond write
  have hbooks : history.outstanding = [("psm_00000001", 1), ("psm_00000000", 3)] := by
    decide +kernel
  have hfew : history.generated < 2 ^ 64 := by decide +kernel
  obtain ⟨⟨-, htotal, -, -⟩, hwrite, -, -, -, hsteps⟩ :=
    limit_exact_and_failures_atomic (by decide) hrun hfew (mem_limits_call hsecond _)
  have hfull : store.allocatedBytes = 4 := by
    rw [hbooks] at htotal
    exact htotal
  refine ⟨hrun, hbooks, hfull, ?_, ?_⟩
  · rw [hwrite another, show (third.2.view limit).allocatedBytes = 4 from hfull]
    decide
  · have hrefused (store : Store) (hroom : store.admits 1 = false) :
        ((Store.Call.write another).perform store).1 = .error (.outOfMemory 1) := by
      simp [Store.Call.perform, Store.Call.settled, Store.write, another, hroom, Except.map]
    exact ((hsteps (.write another)).2.1 _ _).mpr ⟨hrefused _ (by decide +kernel), rfl⟩

/-- A limit leaves room for more zeros than a buffer can have. Allocating them crashes and does not
fail, and the handle that was taken for them is lost. -/
theorem allocation_crashes_within_limit :
    let limit : UInt64 := 18446744073709551614
    let size : UInt64 := 9223372036854775808
    let clones := Clones.start (some limit)
    let store := clones.view (some limit)
    limit.toNat < 2 ^ 64 - 1 ∧ Run (some limit) [] clones ∧
      store.allocatedBytes + size.toNat ≤ limit.toNat ∧
      (store.allocate .cpu size).1 = .crashed ∧
      (store.allocate .cpu size).2.next ≠ store.next := by
  intro limit size clones store
  exact ⟨by decide, .start, by decide +kernel, by decide +kernel, by decide +kernel⟩

end Clones

end SegmentCache
