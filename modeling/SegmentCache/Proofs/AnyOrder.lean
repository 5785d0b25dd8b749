import SegmentCache.Profile
import SegmentCache.Proofs.Moves

/-!
# Changes that can be made in any order

A message about a file leaves traces beyond the entry of that file: a segment may be discarded, and
a use may be counted, in a map of maps that it shares with the uses of other files. Such changes can
be made in any order, since those to one map under different keys can, and so, level by level, can
those to maps within maps.
-/

namespace SegmentCache

/-- The map with the value under a key changed. A key that is not there is taken to have the default
value. -/
def amend {β : Type} (map : Std.ExtTreeMap String β) (key : String) (default : β)
    (change : β → β) : Std.ExtTreeMap String β :=
  map.insert key (change ((map[key]?).getD default))

/-- Changes under different keys, and changes of one value that can be made in any order, can be
made to the map in any order. -/
theorem amend_comm {β : Type} (map : Std.ExtTreeMap String β) {key other : String} (default : β)
    {change change' : β → β}
    (hswap : key = other → ∀ value, change (change' value) = change' (change value)) :
    amend (amend map other default change') key default change =
      amend (amend map key default change) other default change' := by
  apply Std.ExtTreeMap.ext_getElem?
  intro found
  simp only [amend, Std.ExtTreeMap.getElem?_insert, Std.LawfulEqCmp.compare_eq_iff_eq]
  by_cases hkey : key = other
  · subst hkey
    by_cases hfound : key = found
    · simp [hfound, hswap rfl]
    · simp [hfound]
  · by_cases hfound : key = found
    · subst hfound
      simp [Ne.symm hkey]
    · by_cases hother : other = found
      · subst hother
        simp [hkey]
      · simp [hfound, hother]

/-- Discarding segments can be done in any order. -/
theorem Store.discard_comm (store : Store) (handle other : String) :
    (store.discard handle).discard other = (store.discard other).discard handle := by
  have hsegments : (store.segments.erase handle).erase other =
      (store.segments.erase other).erase handle := by
    apply Std.ExtTreeMap.ext_getElem?
    intro found
    simp only [Std.ExtTreeMap.getElem?_erase]
    split <;> split <;> rfl
  exact congrArg (fun segments => { store with segments := segments }) hsegments

/-- The use that a message makes of a file, for a function and one of its parameters. -/
inductive Usage where
  /-- None. -/
  | nothing
  /-- The file is served. -/
  | served (function parameter : String)
  /-- An object is offered for the file. -/
  | offered (function parameter : String)

/-- Counts the use of a file. -/
def Profile.record (profile : Profile) (file : String) : Usage → Profile
  | .nothing => profile
  | .served function parameter => profile.recordGet function parameter file
  | .offered function parameter => profile.recordPut function parameter file

/-- Counting a file that was served changes its counts and adds it to the files served. -/
theorem Profile.recordGet_eq (profile : Profile) (function parameter file : String) :
    profile.recordGet function parameter file =
      { usage := amend profile.usage function ∅ fun parameters =>
          amend parameters parameter ∅ fun files =>
            amend files file { gets := 0, puts := 0 } fun counts =>
              { counts with gets := counts.gets + 1 }
        served := amend profile.served function ∅ fun parameters =>
          amend parameters parameter ∅ fun files => files.insert file } := rfl

/-- Counting an object that was offered changes the counts of its file. -/
theorem Profile.recordPut_eq (profile : Profile) (function parameter file : String) :
    profile.recordPut function parameter file =
      { usage := amend profile.usage function ∅ fun parameters =>
          amend parameters parameter ∅ fun files =>
            amend files file { gets := 0, puts := 0 } fun counts =>
              { counts with puts := counts.puts + 1 }
        served := profile.served } := rfl

/-- Uses of different files can be counted in any order. -/
theorem Profile.record_comm (profile : Profile) {file other : String} (hfile : file ≠ other)
    (usage usage' : Usage) :
    (profile.record other usage').record file usage =
      (profile.record file usage).record other usage' := by
  have hcounts (function parameter function' parameter' : String)
      (change change' : UseCounts → UseCounts) :
      amend (amend profile.usage function' ∅ fun parameters =>
          amend parameters parameter' ∅ fun files =>
            amend files other { gets := 0, puts := 0 } change') function ∅ (fun parameters =>
          amend parameters parameter ∅ fun files =>
            amend files file { gets := 0, puts := 0 } change) =
        amend (amend profile.usage function ∅ fun parameters =>
          amend parameters parameter ∅ fun files =>
            amend files file { gets := 0, puts := 0 } change) function' ∅ (fun parameters =>
          amend parameters parameter' ∅ fun files =>
            amend files other { gets := 0, puts := 0 } change') :=
    amend_comm _ _ fun _ parameters => amend_comm parameters _ fun _ files =>
      amend_comm files _ fun hsame => absurd hsame hfile
  have hserved (function parameter function' parameter' : String) :
      amend (amend profile.served function' ∅ fun parameters =>
          amend parameters parameter' ∅ fun files => files.insert other) function ∅
            (fun parameters => amend parameters parameter ∅ fun files => files.insert file) =
        amend (amend profile.served function ∅ fun parameters =>
          amend parameters parameter ∅ fun files => files.insert file) function' ∅
            (fun parameters => amend parameters parameter' ∅ fun files => files.insert other) := by
    refine amend_comm _ _ fun _ parameters => amend_comm parameters _ fun _ files => ?_
    apply Std.ExtTreeSet.ext_mem
    intro found
    simp only [Std.ExtTreeSet.mem_insert]
    exact or_left_comm
  cases usage with
  | nothing => rfl
  | served function parameter =>
    cases usage' with
    | nothing => rfl
    | served function' parameter' => simp only [record, recordGet_eq, hcounts, hserved]
    | offered function' parameter' => simp only [record, recordGet_eq, recordPut_eq, hcounts]
  | offered function parameter =>
    cases usage' with
    | nothing => rfl
    | served function' parameter' => simp only [record, recordGet_eq, recordPut_eq, hcounts]
    | offered function' parameter' => simp only [record, recordPut_eq, hcounts]

end SegmentCache
