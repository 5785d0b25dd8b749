import SegmentCache.Proofs.Insertions
import SegmentCache.Proofs.Runs

/-!
# Breaches of the rules on locks and entries

Five failures say that a message has broken a rule on locks and entries. `Breach` lists the rules,
each by itself, while the handlers test for them one after the other, and a replacement only where
it removes the entry in its way. The two agree because a locked name has an entry. A message that
is refused for a breach, for a device that is not there or for a report that cannot be written has
changed nothing that the cache holds.
-/

namespace SegmentCache

/-- Whether the failure arises while an object is inserted. -/
def CacheFailure.onInsertion : CacheFailure → Bool
  | .unconfiguredDevice _ | .sizeOverflow .. | .segment _ => true
  | _ => false

/-- An insertion does not fail on a breach. -/
theorem CacheFailure.isCoherence_of_onInsertion {failure : CacheFailure}
    (hinserting : failure.onInsertion = true) : failure.isCoherence = false := by
  cases failure with
  | unconfiguredDevice | sizeOverflow | segment => rfl
  | alreadyLocked | notLocked | unknownEntry | lockUnknownEntry | removeLocked | unknownDevice
  | report => cases hinserting

/-- A report that cannot be written is the failure of a report. -/
theorem Profile.flush_eq_error {profile : Profile} {time directory : String}
    {files after : FileTree} {failure : CacheFailure}
    (hflush : profile.flush time directory files = (.error failure, after)) :
    ∃ cause, failure = .report (FileTree.join directory reportName) cause := by
  unfold flush at hflush
  dsimp only at hflush
  split at hflush
  · rename_i fault _ _
    cases hflush
    exact ⟨fault, rfl⟩
  · split at hflush
    · rename_i fault _
      cases hflush
      exact ⟨fault, rfl⟩
    · cases hflush

namespace State

/-- The rules on locks and entries that a message can break, with the failure that says so. -/
inductive Breach (state : State) : Message → CacheFailure → Prop
  /-- Only what is cached is locked. -/
  | lockUnknown {fileName : String} (hfree : state.isInCache fileName = false) :
      Breach state (.lock fileName) (.lockUnknownEntry (entryKey fileName))
  /-- What is locked is not locked again. -/
  | lockLocked {fileName : String} (hlocked : state.isLocked fileName = true) :
      Breach state (.lock fileName) (.alreadyLocked (entryKey fileName))
  /-- Only what is locked is unlocked. -/
  | unlockUnlocked {fileName : String} (hunlocked : state.isLocked fileName = false) :
      Breach state (.unlock fileName) (.notLocked (entryKey fileName))
  /-- What is locked is not removed. -/
  | removeLocked {fileName : String} (hlocked : state.isLocked fileName = true) :
      Breach state (.remove fileName) (.removeLocked (entryKey fileName))
  /-- Only what is cached is removed. -/
  | removeUnknown {fileName : String} (hfree : state.isInCache fileName = false) :
      Breach state (.remove fileName) (.unknownEntry (entryKey fileName))
  /-- What is locked is not replaced. -/
  | replaceLocked {offer : Offer} (hlocked : state.isLocked offer.fileName = true) :
      Breach state (.replace offer) (.removeLocked (entryKey offer.fileName))

variable {state : State} {fileName : String}

/-- What is not cached cannot be locked. -/
theorem lock_of_free (hfree : state.isInCache fileName = false) :
    state.lock fileName = state.fail (.lockUnknownEntry (entryKey fileName)) [] := by
  simp only [isInCache] at hfree
  simp [lock, hfree]

/-- What is locked cannot be locked again. -/
theorem lock_of_locked (hthere : state.isInCache fileName = true)
    (hlocked : state.isLocked fileName = true) :
    state.lock fileName = state.fail (.alreadyLocked (entryKey fileName)) [] := by
  simp only [isInCache, isLocked] at hthere hlocked
  simp [lock, LockSet.lock, hthere, hlocked]

/-- What is cached and not locked is locked, and nothing else changes. -/
theorem lock_of_unlocked (hthere : state.isInCache fileName = true)
    (hunlocked : state.isLocked fileName = false) :
    state.lock fileName =
      { state with locks := { names := state.locks.names.insert (entryKey fileName) } }.done
        [.locking (entryKey fileName)] := by
  simp only [isInCache, isLocked] at hthere hunlocked
  simp [lock, LockSet.lock, hthere, hunlocked]

/-- What is not locked cannot be unlocked. -/
theorem unlock_of_unlocked (hunlocked : state.isLocked fileName = false) :
    state.unlock fileName =
      state.fail (.notLocked (entryKey fileName)) [.unlocking (entryKey fileName)] := by
  simp only [isLocked] at hunlocked
  simp [unlock, LockSet.unlock, hunlocked]

/-- What is locked is unlocked, and nothing else changes. -/
theorem unlock_of_locked (hlocked : state.isLocked fileName = true) :
    state.unlock fileName =
      { state with locks := { names := state.locks.names.erase (entryKey fileName) } }.done
        [.unlocking (entryKey fileName)] := by
  simp only [isLocked] at hlocked
  simp [unlock, LockSet.unlock, hlocked]

/-- What is locked cannot be removed. -/
theorem remove_of_locked (hlocked : state.isLocked fileName = true) :
    state.remove fileName =
      state.fail (.removeLocked (entryKey fileName)) [.removing (entryKey fileName)] := by
  simp only [isLocked] at hlocked
  simp [remove, hlocked]

/-- What is neither locked nor cached cannot be removed. -/
theorem remove_of_free (hunlocked : state.isLocked fileName = false)
    (hfree : state.isInCache fileName = false) :
    state.remove fileName =
      state.fail (.unknownEntry (entryKey fileName)) [.removing (entryKey fileName)] := by
  have hnone := Table.contains_eq_false_iff.mp hfree
  simp only [isLocked] at hunlocked
  simp [remove, hunlocked, Table.remove, hnone]

/-- What is cached and not locked is let go of. -/
theorem remove_of_unlocked (hunlocked : state.isLocked fileName = false)
    (hthere : state.isInCache fileName = true) :
    state.remove fileName =
      (state.vacate (entryKey fileName)).1.done
        (.removing (entryKey fileName) :: (state.vacate (entryKey fileName)).2) := by
  obtain ⟨entry, hfound⟩ := Table.contains_iff.mp hthere
  obtain ⟨table, hremove⟩ := Table.exists_remove_eq_ok hfound
  simp only [isLocked] at hunlocked
  simp [remove, hunlocked, hremove, vacate]

/-- A request to lock is refused for a breach only, and then changes nothing. -/
theorem lock_eq_error {failure : CacheFailure}
    (herror : (state.lock fileName).result = .error failure) :
    state.Breach (.lock fileName) failure ∧ (state.lock fileName).state = state := by
  cases hthere : state.isInCache fileName with
  | false =>
    rw [lock_of_free hthere] at herror ⊢
    cases herror
    exact ⟨.lockUnknown hthere, rfl⟩
  | true =>
    cases hlocked : state.isLocked fileName with
    | false =>
      rw [lock_of_unlocked hthere hlocked] at herror
      cases herror
    | true =>
      rw [lock_of_locked hthere hlocked] at herror ⊢
      cases herror
      exact ⟨.lockLocked hlocked, rfl⟩

/-- A request to unlock is refused for a breach only, and then changes nothing. -/
theorem unlock_eq_error {failure : CacheFailure}
    (herror : (state.unlock fileName).result = .error failure) :
    state.Breach (.unlock fileName) failure ∧ (state.unlock fileName).state = state := by
  cases hlocked : state.isLocked fileName with
  | true =>
    rw [unlock_of_locked hlocked] at herror
    cases herror
  | false =>
    rw [unlock_of_unlocked hlocked] at herror ⊢
    cases herror
    exact ⟨.unlockUnlocked hlocked, rfl⟩

/-- A request to remove is refused for a breach only, and then changes nothing. -/
theorem remove_eq_error {failure : CacheFailure}
    (herror : (state.remove fileName).result = .error failure) :
    state.Breach (.remove fileName) failure ∧ (state.remove fileName).state = state := by
  cases hlocked : state.isLocked fileName with
  | true =>
    rw [remove_of_locked hlocked] at herror ⊢
    cases herror
    exact ⟨.removeLocked hlocked, rfl⟩
  | false =>
    cases hthere : state.isInCache fileName with
    | true =>
      rw [remove_of_unlocked hlocked hthere] at herror
      cases herror
    | false =>
      rw [remove_of_free hlocked hthere] at herror ⊢
      cases herror
      exact ⟨.removeUnknown hthere, rfl⟩

/-- A report that cannot be written changes files only. -/
theorem endProfiling_eq_error {failure : CacheFailure}
    (herror : state.endProfiling.result = .error failure) :
    ∃ path cause files, failure = .report path cause ∧
      state.endProfiling.state = { state with files := files } := by
  unfold endProfiling at herror ⊢
  split at herror
  · rename_i profile directory hprofile _
    unfold writeReport at herror
    cases hflush : profile.flush state.clock directory state.files with
    | mk written files =>
      cases written with
      | ok path =>
        rw [hflush] at herror
        cases herror
      | error reason =>
        rw [hflush] at herror
        cases herror
        obtain ⟨cause, rfl⟩ := Profile.flush_eq_error hflush
        refine ⟨_, cause, files, rfl, ?_⟩
        simp only [hprofile, writeReport, hflush]
  · cases herror

/-- An insertion fails for want of a capacity, of room in the counter or of a segment. -/
theorem onInsertion_of_insert {insertion : Insertion} {failure : CacheFailure}
    (herror : (state.insert insertion).result = .error failure) : failure.onInsertion = true := by
  cases hcapacity : state.config.capacityFor insertion.locality with
  | none =>
    rw [insert, hcapacity] at herror
    cases herror
    rfl
  | some capacity =>
    rw [insert_eq_settle state insertion hcapacity] at herror
    simp only [settle] at herror
    split at herror
    · cases herror
      rfl
    · split at herror
      · cases herror
        rfl
      · cases herror
      · cases herror

/-- A message that was to bring in an object fails on a locked entry in its way, and then changes
nothing, or it fails while the object is inserted. -/
theorem handle_error_of_insertion {message : Message} {insertion : Insertion}
    {failure : CacheFailure} (hbrings : state.insertion? message = some insertion)
    (herror : (state.handle message).result = .error failure) :
    failure.onInsertion = true ∨
      (state.Breach message failure ∧ (state.handle message).state = state) := by
  rcases handle_refused_or_insert hbrings with
    ⟨hthere, hlocked, hhandle⟩ | ⟨function, parameter, events, -, hhandle⟩
  · right
    rw [hhandle] at herror ⊢
    cases herror
    refine ⟨?_, rfl⟩
    obtain ⟨offer, -, hfree, rfl⟩ | ⟨offer, device, -, -, hfree, rfl⟩ | ⟨offer, rfl, rfl⟩ :=
      insertion?_cases hbrings
    · exact absurd hthere (Bool.eq_false_iff.mp hfree)
    · exact absurd hthere (Bool.eq_false_iff.mp hfree)
    · exact .replaceLocked hlocked
  · left
    rw [hhandle, Outcome.after_result] at herror
    exact onInsertion_of_insert herror

/-- Why a message failed that brings in no object: it was refused for a breach or for want of a
device and changed nothing, or its report could not be written. -/
theorem handle_error_of_aside {message : Message} {failure : CacheFailure}
    (hnone : state.insertion? message = none)
    (herror : (state.handle message).result = .error failure) :
    (state.Breach message failure ∧ (state.handle message).state = state) ∨
    (∃ bus, failure = .unknownDevice bus ∧ (state.handle message).state = state) ∨
    ∃ path cause files, failure = .report path cause ∧
      (state.handle message).state = { state with files := files } := by
  cases message with
  | get fileName parameter function =>
    simp only [handle, get] at herror
    split at herror <;> cases herror
  | put offer =>
    -- Nothing is brought in under a taken name, which is no failure.
    simp only [handle, put] at herror
    split at herror
    · cases herror
    · rename_i hfree
      simp [insertion?, isInCache, hfree] at hnone
  | putGpu offer =>
    simp only [handle, putGpu] at herror ⊢
    cases hdevice : state.config.deviceAt offer.bus with
    | none =>
      rw [hdevice] at herror
      cases herror
      exact Or.inr (Or.inl ⟨offer.bus, rfl, rfl⟩)
    | some device =>
      simp only [hdevice] at herror
      split at herror
      · cases herror
      · rename_i hfree
        simp [insertion?, isInCache, hdevice, hfree] at hnone
  | replace offer => cases hnone
  | remove fileName => exact Or.inl (remove_eq_error herror)
  | lock fileName => exact Or.inl (lock_eq_error herror)
  | unlock fileName => exact Or.inl (unlock_eq_error herror)
  | endProfiling => exact Or.inr (Or.inr (endProfiling_eq_error herror))
  | isLocked | isInCache | quit => cases herror

/-- Why a message failed and what it left behind: its object could not be inserted, it was refused
for a breach or for want of a device and changed nothing, or its report could not be written. -/
theorem handle_eq_error {message : Message} {failure : CacheFailure}
    (herror : (state.handle message).result = .error failure) :
    failure.onInsertion = true ∨
    (state.Breach message failure ∧ (state.handle message).state = state) ∨
    (∃ bus, failure = .unknownDevice bus ∧ (state.handle message).state = state) ∨
    ∃ path cause files, failure = .report path cause ∧
      (state.handle message).state = { state with files := files } := by
  cases hbrings : state.insertion? message with
  | some insertion => exact (handle_error_of_insertion hbrings herror).imp id Or.inl
  | none => exact Or.inr (handle_error_of_aside hbrings herror)

/-- In a coherent state every breach is refused with the failure that says so. -/
theorem Coherent.handle_of_breach (hcoherent : state.Coherent) {message : Message}
    {failure : CacheFailure} (hbreach : state.Breach message failure) :
    (state.handle message).result = .error failure := by
  cases hbreach with
  | lockUnknown hfree =>
    rw [handle, lock_of_free hfree]
    rfl
  | lockLocked hlocked =>
    rw [handle, lock_of_locked (hcoherent.locked hlocked) hlocked]
    rfl
  | unlockUnlocked hunlocked =>
    rw [handle, unlock_of_unlocked hunlocked]
    rfl
  | removeLocked hlocked =>
    rw [handle, remove_of_locked hlocked]
    rfl
  | @removeUnknown fileName hfree =>
    -- What is not there is not locked, so the entry is missed and not the lock.
    have hunlocked : state.isLocked fileName = false :=
      Bool.eq_false_iff.mpr fun hlocked =>
        Bool.eq_false_iff.mp hfree (hcoherent.locked hlocked)
    rw [handle, remove_of_free hunlocked hfree]
    rfl
  | replaceLocked hlocked =>
    rw [handle, replace_of_locked (hcoherent.locked hlocked) hlocked]
    rfl

/-- Letting go of an entry takes it from the table and from what clients see, and leaves the locks
alone. -/
theorem Coherent.vacate_there (hcoherent : state.Coherent) {name : String}
    (hthere : state.table.contains name = true) :
    (state.vacate name).1.table.entries = state.table.entries.erase name ∧
      (state.vacate name).1.replica = state.replica.erase name ∧
      (state.vacate name).1.locks = state.locks := by
  obtain ⟨entry, hfound⟩ := Table.contains_iff.mp hthere
  obtain ⟨table, hremove⟩ := Table.exists_remove_eq_ok hfound
  obtain ⟨-, hentries, -, -⟩ := Table.remove_eq_ok hremove
  have hname := hcoherent.indexed.named hfound
  simp [vacate, hremove, release_state, hentries, hname]

/-- A message fails on a rule about locks and entries exactly when it breaks that rule. A request
to lock, unlock or remove that breaks none is carried out. A failure on such a rule or for want of
a device has changed nothing, and a report that could not be written has changed files only. -/
theorem refused_iff_breach (hreach : Reachable state) :
    (∀ message failure, failure.isCoherence = true →
      ((state.handle message).result = .error failure ↔ state.Breach message failure)) ∧
    (∀ fileName, state.isInCache fileName = true → state.isLocked fileName = false →
      let outcome := state.handle (.lock fileName)
      outcome.result = .ok .none ∧ outcome.state =
        { state with locks := { names := state.locks.names.insert (entryKey fileName) } }) ∧
    (∀ fileName, state.isLocked fileName = true →
      let outcome := state.handle (.unlock fileName)
      outcome.result = .ok .none ∧ outcome.state =
        { state with locks := { names := state.locks.names.erase (entryKey fileName) } }) ∧
    (∀ fileName, state.isInCache fileName = true → state.isLocked fileName = false →
      let outcome := state.handle (.remove fileName)
      outcome.result = .ok .none ∧
        outcome.state.table.entries = state.table.entries.erase (entryKey fileName) ∧
        outcome.state.replica = state.replica.erase (entryKey fileName) ∧
        outcome.state.locks = state.locks) ∧
    ∀ message failure, (state.handle message).result = .error failure →
      ((failure.isCoherence = true ∨ ∃ bus, failure = .unknownDevice bus) →
        (state.handle message).state = state) ∧
      ((∃ path cause, failure = .report path cause) →
        ∃ files, (state.handle message).state = { state with files := files }) := by
  have hcoherent := hreach.coherent
  refine ⟨?_, ?_, ?_, ?_, ?_⟩
  · intro message failure hrule
    refine ⟨fun herror => ?_, hcoherent.handle_of_breach⟩
    rcases handle_eq_error herror with hinserting | ⟨hbreach, -⟩ | ⟨_, rfl, -⟩ | ⟨_, _, _, rfl, -⟩
    · cases hrule.symm.trans (CacheFailure.isCoherence_of_onInsertion hinserting)
    · exact hbreach
    · cases hrule
    · cases hrule
  · intro fileName hthere hunlocked
    rw [handle, lock_of_unlocked hthere hunlocked]
    exact ⟨rfl, rfl⟩
  · intro fileName hlocked
    rw [handle, unlock_of_locked hlocked]
    exact ⟨rfl, rfl⟩
  · intro fileName hthere hunlocked
    rw [handle, remove_of_unlocked hunlocked hthere]
    exact ⟨rfl, hcoherent.vacate_there hthere⟩
  · intro message failure herror
    rcases handle_eq_error herror with
      hinserting | ⟨hbreach, hsame⟩ | ⟨_, rfl, hsame⟩ | ⟨_, _, files, rfl, hfiles⟩
    · constructor
      · rintro (hrule | ⟨bus, rfl⟩)
        · cases hrule.symm.trans (CacheFailure.isCoherence_of_onInsertion hinserting)
        · cases hinserting
      · rintro ⟨path, cause, rfl⟩
        cases hinserting
    · exact ⟨fun _ => hsame, fun _ => ⟨state.files, hsame⟩⟩
    · exact ⟨fun _ => hsame, fun _ => ⟨state.files, hsame⟩⟩
    · exact ⟨by simp [CacheFailure.isCoherence], fun _ => ⟨files, hfiles⟩⟩

/-- A locked entry is not replaced under another spelling of its path: the replacement fails before
it has counted a use or removed anything. -/
theorem refused_iff_breach_replace :
    let state :=
      (State.initial { profiling := true, logDir := some "log" } (Store.empty none) FileTree.empty
        "").handleAll [.put { fileName := "data/a", handle := "h", size := 4 }, .lock "a"]
    let message : Message := .replace { fileName := "tmp//a/", handle := "g", size := 1 }
    Reachable state ∧ (state.handle message).result = .error (.removeLocked "a") ∧
      (state.handle message).state = state := by
  intro state message
  have hreach : Reachable state := (Reachable.initial _ _ _ _).handleAll _
  have hkey : entryKey "tmp//a/" = "a" := by decide
  have hbreach : state.Breach message (.removeLocked "a") :=
    hkey ▸ Breach.replaceLocked (by decide)
  obtain ⟨hrefused, -, -, -, hkept⟩ := refused_iff_breach hreach
  have herror := (hrefused message (.removeLocked "a") rfl).mpr hbreach
  exact ⟨hreach, herror, (hkept message _ herror).1 (Or.inl rfl)⟩

end State

end SegmentCache
