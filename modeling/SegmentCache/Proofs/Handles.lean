import Mathlib
import SegmentCache.Json.Token
import SegmentCache.Store

/-!
# Handles are made up afresh

A made-up handle ends in the counter of the store, in hexadecimal digits behind a low line. The
counter can be read back, so handles from different counters differ, whatever their localities.
A store that has handed out fewer handles than the counter tells apart makes up a handle that
nobody has seen. `Numbered` is the invariant behind it: all live handles carry smaller numbers.
-/

namespace SegmentCache

namespace Text

/-- Reading the hexadecimal digits of a number gives the number back. -/
theorem hexNumber?_toDigits (n : Nat) : Json.hexNumber? (Nat.toDigits 16 n) = some n := by
  have hdigit : ∀ d < 16, Json.hexValue? (Nat.digitChar d) = some d := by decide
  induction n using Nat.strong_induction_on with
  | _ n ih =>
    rw [Nat.toDigits_eq_if (by decide)]
    split
    · rename_i hsmall
      simp [Json.hexNumber?, hdigit n hsmall]
    · rename_i hlarge
      have hrest : List.foldlM (fun value c => (Json.hexValue? c).map (value * 16 + ·)) 0
          (Nat.toDigits 16 (n / 16)) = some (n / 16) := ih (n / 16) (by omega)
      simp only [Json.hexNumber?, List.foldlM_append, hrest]
      simp [hdigit (n % 16) (by omega)]
      omega

/-- Zeros before a number do not change it. -/
theorem hexNumber?_replicate_append (count : Nat) (cs : List Char) :
    Json.hexNumber? (List.replicate count '0' ++ cs) = Json.hexNumber? cs := by
  have hzero : Json.hexValue? '0' = some 0 := by decide
  induction count with
  | zero => rfl
  | succ count ih =>
    rw [← ih, List.replicate_succ, List.cons_append]
    simp only [Json.hexNumber?, List.foldlM_cons, hzero]
    rfl

/-- A padded number is read back. -/
theorem hexNumber?_hexPadded (width n : Nat) :
    Json.hexNumber? (hexPadded width n).toList = some n := by
  rw [hexPadded, String.toList_ofList, hexNumber?_replicate_append, hexNumber?_toDigits]

end Text

namespace Store

/-- The number that a handle carries behind its first low line. -/
def handleNumber? (handle : String) : Option Nat :=
  Json.hexNumber? ((handle.toList.dropWhile (· ≠ '_')).drop 1)

/-- A made-up handle carries the counter from which it was made. -/
theorem handleNumber?_handleFor (locality : Locality) (number : UInt64) :
    handleNumber? (handleFor locality number) = some number.toNat := by
  have hread := Text.hexNumber?_hexPadded 8 number.toNat
  cases locality with
  | cpu =>
    have hchars : (handleFor .cpu number).toList =
        ['p', 's', 'm'] ++ '_' :: (Text.hexPadded 8 number.toNat).toList := by
      simp [handleFor]
    simp [handleNumber?, hchars, hread]
  | gpu device =>
    have hchars : (handleFor (.gpu device) number).toList =
        (['d', 'e', 'v'] ++ Nat.toDigits 10 device.toNat) ++
          '_' :: (Text.hexPadded 8 number.toNat).toList := by
      have hdevice : (toString device).toList = Nat.toDigits 10 device.toNat := by
        rw [show toString device = toString device.toNat from rfl, Nat.toString_eq_ofList_toDigits,
          String.toList_ofList]
      simp only [handleFor, String.toList_append, hdevice]
      simp [toString]
    have hplain : ∀ c ∈ ['d', 'e', 'v'] ++ Nat.toDigits 10 device.toNat, c ≠ '_' := by
      rintro c hc rfl
      rcases List.mem_append.mp hc with hletter | hdigit
      · simp at hletter
      · have hnot := Nat.isDigit_of_mem_toDigits (by decide) (by decide) hdigit
        revert hnot
        decide
    rw [handleNumber?, hchars, List.dropWhile_append_of_pos (by simpa using hplain)]
    simpa using hread

/-- Every live handle carries a number below a count, and the counter stands at that count, as far
as a word can tell. -/
structure Numbered (store : Store) (count : Nat) : Prop where
  /-- The counter stands at the count. -/
  next : store.next = UInt64.ofNat count
  /-- Live handles carry smaller numbers. -/
  below : ∀ {handle}, store.contains handle = true →
    ∃ number, handleNumber? handle = some number ∧ number < count

/-- As long as the count fits a word, the next handle carries it. -/
theorem Numbered.handleNumber?_next {store : Store} {count : Nat} (hnumbered : store.Numbered count)
    (hfew : count < 2 ^ 64) (locality : Locality) :
    handleNumber? (handleFor locality store.next) = some count := by
  rw [handleNumber?_handleFor, hnumbered.next, UInt64.toNat_ofNat_of_lt' hfew]

/-- As long as the count fits a word, the next handle is not live. -/
theorem Numbered.not_contains_next {store : Store} {count : Nat} (hnumbered : store.Numbered count)
    (hfew : count < 2 ^ 64) (locality : Locality) :
    store.contains (handleFor locality store.next) = false := by
  rw [← Bool.not_eq_true]
  intro hlive
  obtain ⟨number, hnumber, hbelow⟩ := hnumbered.below hlive
  rw [hnumbered.handleNumber?_next hfew] at hnumber
  cases hnumber
  exact Nat.lt_irrefl _ hbelow

/-- Registering a segment makes its handle live. -/
theorem contains_register (store : Store) (handle other : String) (segment : Segment) :
    (store.register handle segment).contains other = true ↔
      other = handle ∨ store.contains other = true := by
  simp [register, contains, @eq_comm _ handle other]

/-- Registering a segment shows under its handle only. -/
theorem get?_register (store : Store) (handle other : String) (segment : Segment) :
    (store.register handle segment).get? other =
      if handle = other then some segment else store.get? other := by
  simp [get?, register, Std.ExtTreeMap.getElem?_insert]

/-- Of two segments with one handle the later stays. -/
theorem register_register (store : Store) (handle : String) (segment later : Segment) :
    (store.register handle segment).register handle later = store.register handle later := by
  have hsegments : (store.segments.insert handle segment).insert handle later =
      store.segments.insert handle later := by
    apply Std.ExtTreeMap.ext_getElem?
    intro key
    simp only [Std.ExtTreeMap.getElem?_insert]
    split <;> rfl
  simp only [register, hsegments]

/-- Handing out a handle makes it live. -/
theorem contains_issue (store : Store) (segment : Segment) (other : String) :
    (store.issue segment).2.contains other = true ↔
      other = (store.issue segment).1 ∨ store.contains other = true :=
  contains_register store (handleFor segment.locality store.next) other segment

/-- Handing out a handle shows under that handle only. -/
theorem get?_issue (store : Store) (segment : Segment) (other : String) :
    (store.issue segment).2.get? other =
      if (store.issue segment).1 = other then some segment else store.get? other :=
  get?_register store (handleFor segment.locality store.next) other segment

/-- Zeros that the store does not admit are refused. -/
theorem allocate_of_full {store : Store} {size : UInt64} (hfull : store.admits size = false)
    (locality : Locality) :
    store.allocate locality size = (.error (.outOfMemory size), store) := by
  simp [allocate, hfull]

/-- More zeros than a buffer can have cost a handle, though the store admits them. -/
theorem allocate_of_overlong {store : Store} {size : UInt64} (hroom : store.admits size = true)
    (hlong : Contents.maxLength < size.toNat) (locality : Locality) :
    store.allocate locality size = (.crashed, (store.takeHandle locality).2) := by
  have hblank : Contents.blank? size = none := if_neg hlong.not_ge
  simp only [allocate, if_pos hroom, hblank]

/-- Zeros that the store admits and a buffer can have are handed out. -/
theorem allocate_of_room {store : Store} {size : UInt64} (hroom : store.admits size = true)
    (hshort : size.toNat ≤ Contents.maxLength) (locality : Locality) :
    store.allocate locality size =
      let issued := store.issue { locality, contents := .zeros size.toNat }
      (.ok issued.1, issued.2) := by
  have hblank : Contents.blank? size = some (.zeros size.toNat) := if_pos hshort
  simp only [allocate, if_pos hroom, hblank]
  rfl

/-- Zeros are refused, crash or are handed out. -/
theorem allocate_cases (store : Store) (locality : Locality) (size : UInt64) :
    (store.admits size = false ∧
      store.allocate locality size = (.error (.outOfMemory size), store)) ∨
    (store.admits size = true ∧ Contents.maxLength < size.toNat ∧
      store.allocate locality size = (.crashed, (store.takeHandle locality).2)) ∨
    (store.admits size = true ∧ size.toNat ≤ Contents.maxLength ∧
      store.allocate locality size =
        let issued := store.issue { locality, contents := .zeros size.toNat }
        (.ok issued.1, issued.2)) := by
  cases hroom : store.admits size with
  | false => exact Or.inl ⟨rfl, allocate_of_full hroom locality⟩
  | true =>
    rcases Nat.lt_or_ge Contents.maxLength size.toNat with hlong | hshort
    · exact Or.inr (Or.inl ⟨rfl, hlong, allocate_of_overlong hroom hlong locality⟩)
    · exact Or.inr (Or.inr ⟨rfl, hshort, allocate_of_room hroom hshort locality⟩)

/-- A segment that was written is under a handle that was handed out for it. -/
theorem write_eq_ok {store after : Store} {bytes : List UInt8} {handle : String}
    (hwrite : store.write bytes = .ok (handle, after)) :
    store.issue { locality := .cpu, contents := .written bytes } = (handle, after) := by
  simp only [write] at hwrite
  split at hwrite
  · exact Except.ok.inj hwrite
  · cases hwrite

/-- A handle is live when a segment is found under it. -/
theorem contains_eq_isSome (store : Store) (handle : String) :
    store.contains handle = (store.get? handle).isSome :=
  Std.ExtTreeMap.contains_eq_isSome_getElem?

/-- A handle is live when there is a segment under it. -/
theorem contains_iff {store : Store} {handle : String} :
    store.contains handle = true ↔ ∃ segment, store.get? handle = some segment := by
  rw [contains_eq_isSome, Option.isSome_iff_exists]

/-- A handle is not live when there is no segment under it. -/
theorem contains_eq_false_iff {store : Store} {handle : String} :
    store.contains handle = false ↔ store.get? handle = none := by
  rw [contains_eq_isSome, Option.isSome_eq_false_iff, Option.isNone_iff_eq_none]

/-- What copying one segment over another does: both are live and of one length, and the
destination gets the bytes of the source. -/
theorem copy_eq_ok {store after : Store} {destination source : String}
    (hcopy : store.copy destination source = .ok after) :
    ∃ src dst, store.get? source = some src ∧ store.get? destination = some dst ∧
      dst.contents.length = src.contents.length ∧
      after = store.register destination { dst with contents := src.contents } := by
  unfold copy at hcopy
  split at hcopy
  · cases hcopy
  · rename_i src hsrc
    split at hcopy
    · cases hcopy
    · rename_i dst hdst
      split at hcopy
      · rename_i hlength
        cases hcopy
        exact ⟨src, dst, hsrc, hdst, hlength, rfl⟩
      · cases hcopy

/-- A store without segments is numbered from zero. -/
theorem Numbered.empty (limit : Option UInt64) : (Store.empty limit).Numbered 0 where
  next := rfl
  below h := by simp [Store.empty, contains] at h

/-- Where no handle becomes live and the counter stays, the numbering stays. -/
theorem Numbered.of_le {store after : Store} {count : Nat} (hnumbered : store.Numbered count)
    (hnext : after.next = store.next)
    (hlive : ∀ {handle}, after.contains handle = true → store.contains handle = true) :
    after.Numbered count where
  next := hnext.trans hnumbered.next
  below h := hnumbered.below (hlive h)

/-- Handing out a handle counts it. -/
theorem Numbered.issue {store : Store} {count : Nat} (hnumbered : store.Numbered count)
    (hfew : count < 2 ^ 64) (segment : Segment) :
    (store.issue segment).2.Numbered (count + 1) where
  next := by
    show store.next + 1 = _
    rw [hnumbered.next]
    exact (UInt64.ofNat_add count 1).symm
  below {handle} hlive := by
    rcases (contains_issue store segment handle).mp hlive with rfl | hbefore
    · exact ⟨count, hnumbered.handleNumber?_next hfew segment.locality, Nat.lt_succ_self count⟩
    · obtain ⟨number, hnumber, hbelow⟩ := hnumbered.below hbefore
      exact ⟨number, hnumber, Nat.lt_succ_of_lt hbelow⟩

end Store

end SegmentCache
