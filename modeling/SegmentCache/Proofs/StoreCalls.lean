import SegmentCache.Proofs.Departures

/-!
# Calls on a store and its clones

A store is passed around in clones. All clones work on the same segments and take handles off the
same counter, while each carries the limit as a value of its own, taken over from the clone that it
was made from. `Clones.Run` lists the calls made through any of them with the answers they gave.
Since all limits stay equal, such a run is a run of calls on one store, and `Run.store_induction`
leads every statement about runs back to what a single call does.

A call takes several steps: it looks whether there is room, takes a handle off the counter, lays out
the bytes and registers a segment. `Call.steps` has these steps one by one, and what was done before
a step failed or crashed stays done there. `steps_eq_perform` says that nothing is done before a
failure. Before a crash the counter has moved on.
-/

namespace SegmentCache

/-- Bytes in a number that a word can count. -/
abbrev Bytes := { bytes : List UInt8 // bytes.length < 2 ^ 64 }

namespace Store

/-- A call on a store. -/
inductive Call where
  /-- Writes bytes to a new segment in host memory. -/
  | write (bytes : Bytes)
  /-- Allocates a new segment of zeros. -/
  | allocate (locality : Locality) (size : UInt64)
  /-- Copies one segment over another. -/
  | copy (destination source : String)
  /-- Frees a segment. -/
  | free (handle : String)

/-- Why a call breaks off. -/
inductive Stop where
  /-- A step failed, and the caller is told why. -/
  | failed (failure : SegmentFailure)
  /-- A step crashed. -/
  | crashed

/-- A part of a call, carried out on a store. What it did before it broke off stays done. -/
abbrev Steps := EStateM Stop Store

namespace Steps

variable {α β : Type} {m : Steps α} {store after : Store}

/-- What follows a part that succeeded goes on from where that part ended. -/
theorem bind_of_ok {value : α} (hdone : m store = .ok value after) (next : α → Steps β) :
    (m >>= next) store = next value after := by
  show EStateM.bind m next store = _
  rw [EStateM.bind, hdone]

/-- Nothing follows a part that broke off. -/
theorem bind_of_stop {stop : Stop} (hstopped : m store = .error stop after)
    (next : α → Steps β) : (m >>= next) store = .error stop after := by
  show EStateM.bind m next store = _
  rw [EStateM.bind, hstopped]

/-- Looks whether there is room for that many bytes more. -/
def reserve (requested : UInt64) : Steps Unit := do
  let store ← get
  if store.admits requested then pure () else throw (.failed (.outOfMemory requested))

/-- Takes the next handle off the counter. -/
def takeHandle (locality : Locality) : Steps String := do
  let store ← get
  set (store.takeHandle locality).2
  return (store.takeHandle locality).1

/-- Lays out that many zeros, if a buffer can have so many. -/
def layOut (size : UInt64) : Steps Contents := do
  match Contents.blank? size with
  | none => throw .crashed
  | some contents => return contents

/-- Registers a segment under a handle. -/
def hold (handle : String) (segment : Segment) : Steps Unit :=
  modify fun store => store.register handle segment

/-- Writes bytes to a new segment under a fresh handle, if there is room for them. -/
def write (bytes : List UInt8) : Steps (Option String) := do
  reserve (UInt64.ofNat bytes.length)
  let handle ← takeHandle .cpu
  hold handle { locality := .cpu, contents := .written bytes }
  return some handle

/-- Allocates a new segment of zeros under a fresh handle, if there is room for them. -/
def allocate (locality : Locality) (size : UInt64) : Steps (Option String) := do
  reserve size
  let handle ← takeHandle locality
  let contents ← layOut size
  hold handle { locality, contents }
  return some handle

/-- Looks up a segment. -/
def find (handle : String) : Steps Segment := do
  let store ← get
  match store.get? handle with
  | none => throw (.failed (.unknown handle))
  | some segment => return segment

/-- Copies a segment over another of its length. -/
def copy (destination source : String) : Steps (Option String) := do
  let src ← find source
  let dst ← find destination
  if dst.contents.length = src.contents.length then
    hold destination { dst with contents := src.contents }
    return none
  else throw (.failed (.sizeMismatch source dst.contents.length src.contents.length))

/-- Takes away a segment that is live. -/
def free (handle : String) : Steps (Option String) := do
  let store ← get
  if store.contains handle then
    set { store with segments := store.segments.erase handle }
    return none
  else throw (.failed (.unknown handle))

/-- Where there is room, reserving does nothing. -/
theorem reserve_of_room {requested : UInt64} (hroom : store.admits requested = true) :
    reserve requested store = .ok () store :=
  (bind_of_ok (m := get) rfl _).trans (by rw [hroom]; rfl)

/-- Where there is no room, reserving fails and says what was asked for. -/
theorem reserve_of_full {requested : UInt64} (hfull : store.admits requested = false) :
    reserve requested store = .error (.failed (.outOfMemory requested)) store :=
  (bind_of_ok (m := get) rfl _).trans (by rw [hfull]; rfl)

/-- A segment that is there is found. -/
theorem find_of_some {handle : String} {segment : Segment}
    (hfound : store.get? handle = some segment) : find handle store = .ok segment store :=
  (bind_of_ok (m := get) rfl _).trans (by rw [hfound]; rfl)

/-- Looking for a segment that is not there fails and says which. -/
theorem find_of_none {handle : String} (hnone : store.get? handle = none) :
    find handle store = .error (.failed (.unknown handle)) store :=
  (bind_of_ok (m := get) rfl _).trans (by rw [hnone]; rfl)

end Steps

namespace Call

/-- A call that fails or succeeds and does not crash, on a store that a failure leaves alone. -/
def settled (store : Store) :
    Except SegmentFailure (Option String × Store) →
      Attempt SegmentFailure (Option String) × Store
  | .ok (answer, after) => (.ok answer, after)
  | .error failure => (.error failure, store)

/-- Makes a call: the handle that it returns, if it returns one, and the store afterwards. -/
def perform (store : Store) : Call → Attempt SegmentFailure (Option String) × Store
  | .write bytes =>
    settled store ((store.write bytes.val).map fun written => (some written.1, written.2))
  | .allocate locality size =>
    let (allocated, after) := store.allocate locality size
    (allocated.map some, after)
  | .copy destination source =>
    settled store ((store.copy destination source).map fun after => (none, after))
  | .free handle => settled store ((store.free handle).map fun after => (none, after))

/-- The steps of a call in their order. -/
def steps : Call → Steps (Option String)
  | .write bytes => Steps.write bytes.val
  | .allocate locality size => Steps.allocate locality size
  | .copy destination source => Steps.copy destination source
  | .free handle => Steps.free handle

/-- A call that was made in one go, as the end of its steps. -/
def ending : Attempt SegmentFailure (Option String) × Store →
    EStateM.Result Stop Store (Option String)
  | (.ok answer, after) => .ok answer after
  | (.error failure, after) => .error (.failed failure) after
  | (.crashed, after) => .error .crashed after

/-- Bytes are written in one go or not at all: the counter is not touched before there is room. -/
theorem write_eq_ending (store : Store) (bytes : Bytes) :
    Steps.write bytes.val store = ending (perform store (.write bytes)) := by
  simp only [perform, Store.write]
  cases hroom : store.admits (UInt64.ofNat bytes.val.length) with
  | true => exact Steps.bind_of_ok (Steps.reserve_of_room hroom) _
  | false => exact Steps.bind_of_stop (Steps.reserve_of_full hroom) _

/-- Zeros are allocated in one go, or they are refused and the counter is not touched, or they are
too many and the counter has moved on. -/
theorem allocate_eq_ending (store : Store) (locality : Locality) (size : UInt64) :
    Steps.allocate locality size store = ending (perform store (.allocate locality size)) := by
  simp only [perform, Store.allocate]
  cases hroom : store.admits size with
  | false => exact Steps.bind_of_stop (Steps.reserve_of_full hroom) _
  | true =>
    refine (Steps.bind_of_ok (Steps.reserve_of_room hroom) _).trans ?_
    refine (Steps.bind_of_ok (m := Steps.takeHandle locality) rfl _).trans ?_
    cases hblank : Contents.blank? size with
    | none =>
      have hstopped (store : Store) : Steps.layOut size store = .error .crashed store := by
        rw [Steps.layOut, hblank]
        rfl
      exact Steps.bind_of_stop (hstopped _) _
    | some contents =>
      have hlaid (store : Store) : Steps.layOut size store = .ok contents store := by
        rw [Steps.layOut, hblank]
        rfl
      exact Steps.bind_of_ok (hlaid _) _

/-- A segment is copied over another in one go or not at all. -/
theorem copy_eq_ending (store : Store) (destination source : String) :
    Steps.copy destination source store = ending (perform store (.copy destination source)) := by
  cases hsource : store.get? source with
  | none =>
    refine (Steps.bind_of_stop (Steps.find_of_none hsource) _).trans ?_
    simp only [perform, Store.copy, hsource]
    rfl
  | some src =>
    refine (Steps.bind_of_ok (Steps.find_of_some hsource) _).trans ?_
    cases hdestination : store.get? destination with
    | none =>
      refine (Steps.bind_of_stop (Steps.find_of_none hdestination) _).trans ?_
      simp only [perform, Store.copy, hsource, hdestination]
      rfl
    | some dst =>
      refine (Steps.bind_of_ok (Steps.find_of_some hdestination) _).trans ?_
      simp only [perform, Store.copy, hsource, hdestination]
      split <;> rfl

/-- A segment is freed in one go or not at all. -/
theorem free_eq_ending (store : Store) (handle : String) :
    Steps.free handle store = ending (perform store (.free handle)) := by
  refine (Steps.bind_of_ok (m := get) rfl _).trans ?_
  simp only [perform, Store.free]
  split <;> rfl

/-- Step by step a call comes to the same as in one go. -/
theorem steps_eq_perform (call : Call) (store : Store) :
    call.steps store = ending (call.perform store) := by
  cases call with
  | write bytes => exact write_eq_ending store bytes
  | allocate locality size => exact allocate_eq_ending store locality size
  | copy destination source => exact copy_eq_ending store destination source
  | free handle => exact free_eq_ending store handle

/-- The segment that a call adds, if it adds one. -/
def segment? : Call → Option Segment
  | .write bytes => some { locality := .cpu, contents := .written bytes.val }
  | .allocate locality size => some { locality := locality, contents := .zeros size.toNat }
  | _ => none

/-- The handle of the segment that a call changes or takes away, if it does. -/
def touched? : Call → Option String
  | .copy destination _ => some destination
  | .free handle => some handle
  | _ => none

/-- What a call that succeeded has done. -/
inductive Done (store : Store) : Call → Option String → Store → Prop
  /-- A segment was added under the next handle. -/
  | issued {call : Call} {segment : Segment} (hsegment : call.segment? = some segment)
      (hroom : store.admits (UInt64.ofNat segment.contents.length) = true) :
      Done store call (some (store.issue segment).1) (store.issue segment).2
  /-- A segment got the bytes of another of the same length. -/
  | copied {destination source : String} {dst src : Segment}
      (hdst : store.get? destination = some dst) (hsrc : store.get? source = some src)
      (hlength : dst.contents.length = src.contents.length) :
      Done store (.copy destination source) none
        (store.register destination { dst with contents := src.contents })
  /-- A segment was taken away. -/
  | freed {handle : String} (hlive : store.contains handle = true) :
      Done store (.free handle) none (store.discard handle)

/-- How a call ends, and what it leaves. -/
inductive Ended (store : Store) : Call → Attempt SegmentFailure (Option String) → Store → Prop
  /-- It succeeds. -/
  | done {call : Call} {answer : Option String} {after : Store}
      (hdone : Done store call answer after) : Ended store call (.ok answer) after
  /-- It fails and has changed nothing. -/
  | failed {call : Call} {failure : SegmentFailure} : Ended store call (.error failure) store
  /-- It was to allocate more than a buffer can have, and the handle for that is lost. -/
  | crashed {locality : Locality} {size : UInt64} (hroom : store.admits size = true)
      (hlong : Contents.maxLength < size.toNat) :
      Ended store (.allocate locality size) .crashed (store.takeHandle locality).2

variable {call : Call} {store after : Store} {answer : Option String}

/-- A call that does not crash ends well if it does what it is to do when it succeeds. -/
theorem ended_settled {result : Except SegmentFailure (Option String × Store)}
    (hok : ∀ {answer after}, result = .ok (answer, after) → Done store call answer after) :
    Ended store call (settled store result).1 (settled store result).2 := by
  cases result with
  | error failure => exact .failed
  | ok value => exact .done (hok rfl)

/-- Every call ends in one of the three ways. -/
theorem ended (call : Call) (store : Store) :
    Ended store call (call.perform store).1 (call.perform store).2 := by
  cases call with
  | write bytes =>
    refine ended_settled fun hok => ?_
    simp only [Store.write] at hok
    split at hok
    · rename_i hroom
      cases hok
      exact .issued rfl hroom
    · cases hok
  | allocate locality size =>
    rw [perform]
    rcases store.allocate_cases locality size with
      ⟨-, hallocate⟩ | ⟨hroom, hlong, hallocate⟩ | ⟨hroom, -, hallocate⟩
    · rw [hallocate]
      exact .failed
    · rw [hallocate]
      exact .crashed hroom hlong
    · rw [hallocate]
      refine .done (@Done.issued store (.allocate locality size) _ rfl ?_)
      simpa [Contents.length] using hroom
  | copy destination source =>
    refine ended_settled fun hok => ?_
    cases hcopy : store.copy destination source with
    | error failure => simp [hcopy, Except.map] at hok
    | ok copied =>
      obtain ⟨src, dst, hsrc, hdst, hlength, rfl⟩ := copy_eq_ok hcopy
      simp only [hcopy, Except.map, Except.ok.injEq, Prod.mk.injEq] at hok
      obtain ⟨rfl, rfl⟩ := hok
      exact .copied hdst hsrc hlength
  | free handle =>
    refine ended_settled fun hok => ?_
    simp only [Store.free] at hok
    split at hok
    · rename_i hlive
      cases hok
      exact .freed hlive
    · cases hok

/-- The steps of a call succeed when it succeeds in one go, and with the same outcome. -/
theorem steps_eq_ok_iff :
    call.steps store = .ok answer after ↔ call.perform store = (.ok answer, after) := by
  rw [steps_eq_perform]
  obtain ⟨ended, left⟩ := call.perform store
  cases ended <;> simp [ending]

/-- The steps of a call fail when it fails in one go, and then they have changed nothing. -/
theorem steps_eq_failed_iff {failure : SegmentFailure} :
    call.steps store = .error (.failed failure) after ↔
      (call.perform store).1 = .error failure ∧ after = store := by
  have hended := call.ended store
  rw [steps_eq_perform]
  generalize call.perform store = called at hended ⊢
  obtain ⟨ended, left⟩ := called
  cases hended <;> simp [ending, eq_comm]

/-- The steps of a call crash when it is to allocate more than a buffer can have and the store admits
that, and then only the counter has moved on. -/
theorem steps_eq_crashed_iff :
    call.steps store = .error .crashed after ↔
      (∃ locality size, call = .allocate locality size ∧ store.admits size = true ∧
        Contents.maxLength < size.toNat) ∧ after = { store with next := store.next + 1 } := by
  constructor
  · intro hsteps
    have hended := call.ended store
    rw [steps_eq_perform] at hsteps
    generalize call.perform store = called at hended hsteps
    obtain ⟨ended, left⟩ := called
    cases hended with
    | done => cases hsteps
    | failed => cases hsteps
    | @crashed locality size hroom hlong =>
      cases hsteps
      exact ⟨⟨locality, size, rfl, hroom, hlong⟩, rfl⟩
  · rintro ⟨⟨locality, size, rfl, hroom, hlong⟩, rfl⟩
    rw [steps_eq_perform, perform, allocate_of_overlong hroom hlong]
    rfl

/-- A call leaves the limit alone. -/
theorem limit_perform (call : Call) (store : Store) :
    (call.perform store).2.limit = store.limit := by
  have hended := call.ended store
  generalize call.perform store = called at hended ⊢
  obtain ⟨ended, left⟩ := called
  cases hended with
  | done hdone => cases hdone <;> rfl
  | failed => rfl
  | crashed => rfl

end Call

/-- Calls with how they ended, the latest first. -/
abbrev History := List (Call × Attempt SegmentFailure (Option String))

/-- The handle that a call returned, if it returned one. -/
def returned? : Attempt SegmentFailure (Option String) → Option String
  | .ok answer => answer
  | _ => none

/-- The handles that were returned, the latest first. -/
def History.returned (history : History) : List String :=
  history.filterMap fun event => returned? event.2

/-- How many handles a call took off the counter: the one that it returned, or the one that was lost
when it crashed. -/
def generated : Attempt SegmentFailure (Option String) → Nat
  | .ok (some _) => 1
  | .crashed => 1
  | _ => 0

/-- How many handles were taken off the counter. -/
def History.generated : History → Nat
  | [] => 0
  | event :: history => Store.generated event.2 + History.generated history

/-- The last call returns its handle on top of the others. -/
@[simp]
theorem History.returned_cons (call : Call) (ended : Attempt SegmentFailure (Option String))
    (history : History) :
    History.returned ((call, ended) :: history) =
      (returned? ended).toList ++ history.returned := by
  cases hreturned : returned? ended <;> simp [returned, hreturned]

end Store

/-- The clones of one store: what they share, and the limits they carry. -/
structure Clones where
  /-- The segments by handle. -/
  segments : Std.ExtTreeMap String Segment
  /-- The number of the next handle. -/
  next : UInt64
  /-- The limit of each clone. -/
  limits : List (Option UInt64)

namespace Clones

/-- A new store with a limit, and no clone beside it. -/
def start (limit : Option UInt64) : Clones where
  segments := ∅
  next := 0
  limits := [limit]

/-- What a clone with a limit works on. -/
def view (clones : Clones) (limit : Option UInt64) : Store where
  segments := clones.segments
  next := clones.next
  limit := limit

/-- The clones after a call through one of them, on what the call left. -/
def share (clones : Clones) (store : Store) : Clones :=
  { clones with segments := store.segments, next := store.next }

/-- Makes a call through a clone with a limit. -/
def call (clones : Clones) (limit : Option UInt64) (call : Store.Call) :
    Attempt SegmentFailure (Option String) × Clones :=
  let (ended, after) := call.perform (clones.view limit)
  (ended, clones.share after)

/-- The runs of calls through the clones of one store, and what they lead to. -/
inductive Run (limit : Option UInt64) : Store.History → Clones → Prop
  /-- There is one store, and nothing has been called. -/
  | start : Run limit [] (Clones.start limit)
  /-- A clone is made of a clone. -/
  | clone {history : Store.History} {clones : Clones} (hrun : Run limit history clones)
      {own : Option UInt64} (hown : own ∈ clones.limits) :
      Run limit history { clones with limits := own :: clones.limits }
  /-- A call is made through a clone. -/
  | call {history : Store.History} {clones : Clones} (hrun : Run limit history clones)
      {own : Option UInt64} (hown : own ∈ clones.limits) (call : Store.Call) :
      Run limit ((call, (clones.call own call).1) :: history) (clones.call own call).2

variable {limit : Option UInt64} {history : Store.History} {clones : Clones}

/-- A call through a clone ends as it does on the store, and all clones share what it left. -/
theorem call_eq (clones : Clones) (limit : Option UInt64) (call : Store.Call) :
    clones.call limit call =
      ((call.perform (clones.view limit)).1,
        clones.share (call.perform (clones.view limit)).2) :=
  rfl

/-- After a call, a clone works on what the call left. -/
theorem view_call (clones : Clones) (limit : Option UInt64) (call : Store.Call) :
    (clones.call limit call).2.view limit = (call.perform (clones.view limit)).2 := by
  have hlimit := call.limit_perform (clones.view limit)
  show Clones.view _ (clones.view limit).limit = _
  rw [← hlimit]
  rfl

/-- A call leaves the limits alone. -/
theorem limits_call (clones : Clones) (limit : Option UInt64) (call : Store.Call) :
    (clones.call limit call).2.limits = clones.limits :=
  rfl

/-- A clone is still there after a call. -/
theorem mem_limits_call {own : Option UInt64} (hown : own ∈ clones.limits) (call : Store.Call) :
    own ∈ (clones.call limit call).2.limits := by
  rwa [limits_call]

/-- All clones carry the limit of the first. -/
theorem Run.limit_eq (hrun : Run limit history clones) {own : Option UInt64}
    (hown : own ∈ clones.limits) : own = limit := by
  induction hrun generalizing own with
  | start => exact List.mem_singleton.mp hown
  | clone _ horigin ih =>
    rcases List.mem_cons.mp hown with rfl | hearlier
    · exact ih horigin
    · exact ih hearlier
  | call _ _ call ih =>
    rw [limits_call] at hown
    exact ih hown

/-- What holds of a store without segments and stays true with every call, however it ends, holds
after every run through clones. -/
theorem Run.store_induction {motive : Store.History → Store → Prop}
    (hstart : motive [] (Store.empty limit))
    (hcall : ∀ {history store} (call : Store.Call), motive history store → store.limit = limit →
      motive ((call, (call.perform store).1) :: history) (call.perform store).2)
    (hrun : Run limit history clones) : motive history (clones.view limit) := by
  induction hrun with
  | start => exact hstart
  | clone _ _ ih => exact ih
  | @call history clones hrun through hthrough call ih =>
    obtain rfl := hrun.limit_eq hthrough
    rw [view_call]
    exact hcall call ih rfl

end Clones

end SegmentCache
