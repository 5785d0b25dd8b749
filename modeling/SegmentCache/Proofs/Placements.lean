import SegmentCache.Proofs.Handles
import SegmentCache.State

/-!
# Finding a segment for an object

An object in host memory stays in the segment it is offered in, and the store is left alone. For an
object on a device the store makes up a handle, registers a buffer of zeros under it, and copies
the offered segment over the zeros. The handle comes from the counter alone: a segment that has it
already is overwritten, the offered one included. A copy that fails leaves the zeros behind, and an
object that is longer than any buffer takes a handle off the counter and crashes. `Placing` lists
what can come of it.
-/

namespace SegmentCache

namespace Store

/-- The handle of the next buffer on a device. -/
def nextBuffer (store : Store) (device : UInt32) : String :=
  handleFor (.gpu device) store.next

/-- The store with one more buffer on a device. -/
def withBuffer (store : Store) (device : UInt32) (contents : Contents) : Store :=
  (store.issue { locality := .gpu device, contents }).2

/-- A new buffer shows under its handle only. -/
theorem get?_withBuffer (store : Store) (device : UInt32) (contents : Contents) (handle : String) :
    (store.withBuffer device contents).get? handle =
      if store.nextBuffer device = handle then some { locality := .gpu device, contents }
      else store.get? handle :=
  store.get?_register (store.nextBuffer device) handle _

/-- A new buffer makes its handle live. -/
theorem contains_withBuffer (store : Store) (device : UInt32) (contents : Contents)
    (handle : String) :
    (store.withBuffer device contents).contains handle = true ↔
      handle = store.nextBuffer device ∨ store.contains handle = true :=
  store.contains_issue _ handle

/-- Registering a segment under the handle of a buffer that was just added puts it in place of the
buffer. -/
theorem register_withBuffer (store : Store) (device : UInt32) (contents later : Contents) :
    (store.withBuffer device contents).register (store.nextBuffer device)
        { locality := .gpu device, contents := later } =
      store.withBuffer device later :=
  congrArg (fun kept : Store => { kept with next := store.next + 1 })
    (store.register_register (store.nextBuffer device) { locality := .gpu device, contents }
      { locality := .gpu device, contents := later })

/-- A handle that is taken off the counter shows nowhere. -/
theorem get?_takeHandle (store : Store) (locality : Locality) (handle : String) :
    (store.takeHandle locality).2.get? handle = store.get? handle :=
  rfl

/-- Why a segment cannot be copied to a buffer of a size: there is none, or it has another
length. -/
inductive CopyFault (store : Store) (source : String) (size : Nat) : SegmentFailure → Prop
  /-- The source is not live. -/
  | gone (hnone : store.get? source = none) : CopyFault store source size (.unknown source)
  /-- The source is longer or shorter than the buffer. -/
  | unequal {segment : Segment} (hfound : store.get? source = some segment)
      (hlength : size ≠ segment.contents.length) :
      CopyFault store source size (.sizeMismatch source size segment.contents.length)

variable {store : Store} {device : UInt32} {source : String} {size : Nat}

/-- A segment that cannot be copied leaves a new buffer as it is. -/
theorem CopyFault.copy {failure : SegmentFailure} (hfault : store.CopyFault source size failure)
    (hother : store.nextBuffer device ≠ source) :
    (store.withBuffer device (.zeros size)).copy (store.nextBuffer device) source =
      .error failure := by
  cases hfault with
  | gone hnone => simp [Store.copy, get?_withBuffer, hother, hnone]
  | unequal hfound hlength =>
    simp only [Store.copy, get?_withBuffer, if_neg hother, hfound, if_true]
    exact if_neg hlength

/-- A segment of the right length is copied to a new buffer. -/
theorem copy_withBuffer {segment : Segment} (hfound : store.get? source = some segment)
    (hlength : size = segment.contents.length) (hother : store.nextBuffer device ≠ source) :
    (store.withBuffer device (.zeros size)).copy (store.nextBuffer device) source =
      .ok (store.withBuffer device segment.contents) := by
  simp only [copy, get?_withBuffer, if_neg hother, hfound, if_true, register_withBuffer]
  exact if_pos hlength

/-- A new buffer can be copied to itself, which changes nothing. -/
theorem copy_withBuffer_self (store : Store) (device : UInt32) (contents : Contents) :
    (store.withBuffer device contents).copy (store.nextBuffer device) (store.nextBuffer device) =
      .ok (store.withBuffer device contents) := by
  simp only [copy, get?_withBuffer, if_true, register_withBuffer]

end Store

namespace State

/-- What comes of finding a segment for an object: the handle or the failure, and the store
afterwards. -/
inductive Placing (store : Store) (insertion : Insertion) :
    Attempt SegmentFailure String → Store → Prop
  /-- An object in host memory stays where it is. -/
  | stays (hhost : insertion.locality = .cpu) :
      Placing store insertion (.ok insertion.handle) store
  /-- The store allocates no buffer of that size. -/
  | full {device : UInt32} (hdevice : insertion.locality = .gpu device)
      (hfull : store.admits insertion.size = false) :
      Placing store insertion (.error (.outOfMemory insertion.size)) store
  /-- The object is longer than any buffer, and the handle for it is lost. -/
  | overlong {device : UInt32} (hdevice : insertion.locality = .gpu device)
      (hroom : store.admits insertion.size = true)
      (hlong : Contents.maxLength < insertion.size.toNat) :
      Placing store insertion .crashed (store.takeHandle (.gpu device)).2
  /-- The offered segment cannot be copied, and the buffer is left behind. -/
  | uncopied {device : UInt32} (hdevice : insertion.locality = .gpu device)
      (hshort : insertion.size.toNat ≤ Contents.maxLength)
      (hother : store.nextBuffer device ≠ insertion.handle) {failure : SegmentFailure}
      (hfault : store.CopyFault insertion.handle insertion.size.toNat failure) :
      Placing store insertion (.error failure)
        (store.withBuffer device (.zeros insertion.size.toNat))
  /-- The offered segment is copied. -/
  | copied {device : UInt32} (hdevice : insertion.locality = .gpu device)
      (hshort : insertion.size.toNat ≤ Contents.maxLength)
      (hother : store.nextBuffer device ≠ insertion.handle) {source : Segment}
      (hsource : store.get? insertion.handle = some source)
      (hlength : insertion.size.toNat = source.contents.length) :
      Placing store insertion (.ok (store.nextBuffer device))
        (store.withBuffer device source.contents)
  /-- The buffer has the handle of the offered segment, and its zeros are copied to themselves. -/
  | overwritten {device : UInt32} (hdevice : insertion.locality = .gpu device)
      (hshort : insertion.size.toNat ≤ Contents.maxLength)
      (hsame : store.nextBuffer device = insertion.handle) :
      Placing store insertion (.ok (store.nextBuffer device))
        (store.withBuffer device (.zeros insertion.size.toNat))

variable {store : Store} {insertion : Insertion}

/-- A store that admits the size of an object allocates a buffer for it, if it is not too long. -/
theorem place_of_admits {device : UInt32} (hdevice : insertion.locality = .gpu device)
    (hroom : store.admits insertion.size = true)
    (hshort : insertion.size.toNat ≤ Contents.maxLength) {copied : Except SegmentFailure Store}
    (hcopy : (store.withBuffer device (.zeros insertion.size.toNat)).copy
      (store.nextBuffer device) insertion.handle = copied) :
    place store insertion =
      (.ofExcept (copied.map fun _ => store.nextBuffer device),
        copied.toOption.getD (store.withBuffer device (.zeros insertion.size.toNat))) := by
  have hallocate : store.allocate (.gpu device) insertion.size =
      (.ok (store.nextBuffer device), store.withBuffer device (.zeros insertion.size.toNat)) :=
    Store.allocate_of_room hroom hshort (.gpu device)
  simp only [place, hdevice, hallocate, hcopy]
  cases copied <;> rfl

/-- Finding a segment for an object comes to one of the cases of `Placing`. -/
theorem placing (store : Store) (insertion : Insertion) :
    Placing store insertion (place store insertion).1 (place store insertion).2 := by
  cases hplace : insertion.locality with
  | cpu =>
    have hstays : place store insertion = (.ok insertion.handle, store) := by
      simp only [place, hplace]
    rw [hstays]
    exact .stays hplace
  | gpu device =>
    cases hroom : store.admits insertion.size with
    | false =>
      have hfull : place store insertion = (.error (.outOfMemory insertion.size), store) := by
        simp only [place, hplace, Store.allocate_of_full hroom]
      rw [hfull]
      exact .full hplace hroom
    | true =>
      by_cases hshort : insertion.size.toNat ≤ Contents.maxLength
      · have hfails {failure : SegmentFailure}
            (hother : store.nextBuffer device ≠ insertion.handle)
            (hfault : store.CopyFault insertion.handle insertion.size.toNat failure) :
            Placing store insertion (place store insertion).1 (place store insertion).2 := by
          rw [place_of_admits hplace hroom hshort (hfault.copy hother)]
          exact .uncopied hplace hshort hother hfault
        by_cases hsame : store.nextBuffer device = insertion.handle
        · have hcopy := store.copy_withBuffer_self device (.zeros insertion.size.toNat)
          nth_rewrite 2 [hsame] at hcopy
          rw [place_of_admits hplace hroom hshort hcopy]
          exact .overwritten hplace hshort hsame
        · cases hsource : store.get? insertion.handle with
          | none => exact hfails hsame (.gone hsource)
          | some source =>
            by_cases hlength : insertion.size.toNat = source.contents.length
            · rw [place_of_admits hplace hroom hshort
                (Store.copy_withBuffer hsource hlength hsame)]
              exact .copied hplace hshort hsame hsource hlength
            · exact hfails hsame (.unequal hsource hlength)
      · have hlong : Contents.maxLength < insertion.size.toNat := Nat.lt_of_not_ge hshort
        have hcrashed : place store insertion =
            (.crashed, (store.takeHandle (.gpu device)).2) := by
          simp only [place, hplace, Store.allocate_of_overlong hroom hlong]
        rw [hcrashed]
        exact .overlong hplace hroom hlong

/-- Whatever comes of it, at most a handle is taken and a buffer is added to the store. -/
theorem Placing.store_eq {placed : Attempt SegmentFailure String} {after : Store}
    (hplacing : Placing store insertion placed after) :
    after = store ∨ (∃ device, after = (store.takeHandle (.gpu device)).2) ∨
      ∃ device contents, after = store.withBuffer device contents := by
  cases hplacing with
  | stays | full => exact Or.inl rfl
  | overlong => exact Or.inr (Or.inl ⟨_, rfl⟩)
  | uncopied | copied | overwritten => exact Or.inr (Or.inr ⟨_, _, rfl⟩)

/-- In host memory an object keeps its segment, and the store stays as it is. -/
theorem Placing.in_host {after : Store} {handle : String}
    (hplacing : Placing store insertion (.ok handle) after) (hhost : insertion.locality = .cpu) :
    handle = insertion.handle ∧ after = store := by
  cases hplacing with
  | stays => exact ⟨rfl, rfl⟩
  | copied hdevice => cases hhost.symm.trans hdevice
  | overwritten hdevice => cases hhost.symm.trans hdevice

/-- On a device an object gets the next buffer, with the bytes of the offered segment if that is
not the buffer itself. -/
theorem Placing.on_device {after : Store} {handle : String}
    (hplacing : Placing store insertion (.ok handle) after) {device : UInt32}
    (hdevice : insertion.locality = .gpu device) :
    handle = store.nextBuffer device ∧ ∃ contents, after = store.withBuffer device contents ∧
      (store.nextBuffer device ≠ insertion.handle →
        ∃ source, store.get? insertion.handle = some source ∧ contents = source.contents) := by
  cases hplacing with
  | stays hhost => cases hhost.symm.trans hdevice
  | copied hplace _ _ hsource =>
    cases hplace.symm.trans hdevice
    exact ⟨rfl, _, rfl, fun _ => ⟨_, hsource, rfl⟩⟩
  | overwritten hplace _ hsame =>
    cases hplace.symm.trans hdevice
    exact ⟨rfl, _, rfl, fun hother => absurd hsame hother⟩

end State

end SegmentCache
