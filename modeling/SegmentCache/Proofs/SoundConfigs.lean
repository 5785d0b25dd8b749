import Mathlib
import SegmentCache.Config

/-!
# Which configurations are sound

A configuration is sound when every capacity is positive, every name is there, devices differ in
number and in bus address, and reports have a place to go. Nothing in this depends on the order of
the devices. Validation asks for it piece by piece: `Config.checks` lists the questions in their
order, and the first that is answered badly decides the failure. A device is compared with those
before it only, of which numbers and addresses were kept (`SeenDevices.Holds`), so that of two
devices that clash the later one is reported.
-/

namespace SegmentCache

namespace SeenDevices

/-- What was seen is what some devices have. -/
structure Holds (seen : SeenDevices) (devices : List Device) : Prop where
  /-- The numbers are theirs. -/
  ids : ∀ {id}, seen.ids.contains id = true ↔ ∃ device ∈ devices, device.id = id
  /-- The bus addresses are theirs, in small letters. -/
  buses : ∀ {bus}, seen.buses.contains bus = true ↔
    ∃ device ∈ devices, String.ofList (asciiLower device.bus) = bus

/-- In the beginning no device was seen. -/
theorem Holds.none : SeenDevices.none.Holds [] := by
  constructor <;> simp [SeenDevices.none]

/-- One more device was seen. -/
theorem Holds.add {seen : SeenDevices} {devices : List Device}
    (hseen : seen.Holds devices) (device : Device) :
    (seen.add device).Holds (devices ++ [device]) where
  ids {id} := by
    simp only [SeenDevices.add, Std.ExtTreeSet.contains_insert, Bool.or_eq_true, hseen.ids,
      beq_iff_eq, List.mem_append, List.mem_singleton]
    grind
  buses {bus} := by
    simp only [SeenDevices.add, Std.ExtTreeSet.contains_insert, Bool.or_eq_true, hseen.buses,
      beq_iff_eq, compare_eq_iff_eq, List.mem_append, List.mem_singleton]
    grind

end SeenDevices

namespace Config

/-- What makes a configuration sound. -/
structure Sound (config : Config) : Prop where
  /-- Host memory has a capacity. -/
  host : 0 < config.cpuCapacity
  /-- The name of the process does not consist of blanks. -/
  named : ∃ c ∈ config.processName.toList, Text.isBlank c = false
  /-- Every device has a capacity. -/
  stocked : ∀ device ∈ config.devices, 0 < device.capacity
  /-- No bus address consists of blanks. -/
  addressed : ∀ device ∈ config.devices, ∃ c ∈ device.bus.toList, Text.isBlank c = false
  /-- Devices differ in their numbers. -/
  ids : config.devices.Pairwise fun first second => first.id ≠ second.id
  /-- Devices differ in their bus addresses by more than the case of letters. -/
  buses : config.devices.Pairwise fun first second =>
    asciiLower first.bus ≠ asciiLower second.bus
  /-- Where uses are counted, there is a place for reports. -/
  reports : config.profiling = true → ∃ directory, config.logDir = some directory

/-- A question that validation asks. A device is meant by its place in the list. -/
inductive Check (config : Config) where
  /-- Does host memory have a capacity? -/
  | hostCapacity
  /-- Does the process have a name? -/
  | processName
  /-- Does the device have a capacity? -/
  | deviceCapacity (place : Fin config.devices.length)
  /-- Does the device have a bus address? -/
  | deviceBus (place : Fin config.devices.length)
  /-- Does the device have a number that no earlier device has? -/
  | ownId (place : Fin config.devices.length)
  /-- Does the device have a bus address that no earlier device has? -/
  | ownBus (place : Fin config.devices.length)
  /-- Is there a place for reports, if they are wanted? -/
  | logDir

namespace Check

variable {config : Config}

/-- The answer to a question is bad. -/
def Violated : Check config → Prop
  | .hostCapacity => config.cpuCapacity = 0
  | .processName => ∀ c ∈ config.processName.toList, Text.isBlank c = true
  | .deviceCapacity place => (config.devices.get place).capacity = 0
  | .deviceBus place => ∀ c ∈ (config.devices.get place).bus.toList, Text.isBlank c = true
  | .ownId place =>
    ∃ earlier < place, (config.devices.get earlier).id = (config.devices.get place).id
  | .ownBus place =>
    ∃ earlier < place, asciiLower (config.devices.get earlier).bus =
      asciiLower (config.devices.get place).bus
  | .logDir => config.profiling = true ∧ config.logDir = none

instance (check : Check config) : Decidable check.Violated :=
  match check with
  | .hostCapacity => inferInstanceAs (Decidable (config.cpuCapacity = 0))
  | .processName =>
    inferInstanceAs (Decidable (∀ c ∈ config.processName.toList, Text.isBlank c = true))
  | .deviceCapacity place => inferInstanceAs (Decidable ((config.devices.get place).capacity = 0))
  | .deviceBus place =>
    inferInstanceAs (Decidable (∀ c ∈ (config.devices.get place).bus.toList,
      Text.isBlank c = true))
  | .ownId place =>
    inferInstanceAs (Decidable (∃ earlier < place,
      (config.devices.get earlier).id = (config.devices.get place).id))
  | .ownBus place =>
    inferInstanceAs (Decidable (∃ earlier < place,
      asciiLower (config.devices.get earlier).bus = asciiLower (config.devices.get place).bus))
  | .logDir => inferInstanceAs (Decidable (config.profiling = true ∧ config.logDir = none))

/-- The failure that tells of a bad answer. -/
def failure : Check config → ConfigFailure
  | .hostCapacity => .invalidValue "cpu_capacity_bytes" "0" "Must be greater than 0"
  | .processName => .invalidValue "process_name" config.processName "Must not be empty"
  | .deviceCapacity place =>
    .invalidValue "gpu_devices.capacity_bytes" s!"device {(config.devices.get place).id}: 0"
      "Must be greater than 0"
  | .deviceBus place =>
    .invalidValue "gpu_devices.pci_bus_id" s!"device {(config.devices.get place).id}"
      "Must not be empty"
  | .ownId place => .contradictory s!"Duplicate GPU device id {(config.devices.get place).id}"
  | .ownBus place => .contradictory s!"Duplicate PCI bus id {(config.devices.get place).bus}"
  | .logDir => .missingRequired "log_dir"

/-- The questions about one device, in their order. -/
def onDevice (place : Fin config.devices.length) : List (Check config) :=
  [.deviceCapacity place, .deviceBus place, .ownId place, .ownBus place]

/-- What comes of asking questions in turn: the first bad answer decides. -/
def verdict (checks : List (Check config)) : Except ConfigFailure Unit :=
  match checks.find? fun check => check.Violated with
  | none => .ok ()
  | some check => .error check.failure

/-- Nothing to check is in order. -/
@[simp]
theorem verdict_nil : verdict ([] : List (Check config)) = .ok () := rfl

/-- The first check decides if it is violated, and otherwise those behind it do. -/
theorem verdict_cons (check : Check config) (checks : List (Check config)) :
    verdict (check :: checks) =
      if check.Violated then .error check.failure else verdict checks := by
  by_cases hbad : check.Violated <;> simp [verdict, hbad]

/-- Later checks decide if the earlier ones are in order. -/
theorem verdict_append (checks later : List (Check config)) :
    verdict (checks ++ later) =
      match verdict checks with
      | .error failure => .error failure
      | .ok () => verdict later := by
  simp only [verdict, List.find?_append]
  cases checks.find? fun check => check.Violated <;> rfl

/-- Questions are passed when every answer is good. -/
theorem verdict_eq_ok_iff {checks : List (Check config)} :
    verdict checks = .ok () ↔ ∀ check ∈ checks, ¬ check.Violated := by
  cases hfind : checks.find? fun check => check.Violated with
  | none =>
    have hgood := List.find?_eq_none.mp hfind
    simpa [verdict, hfind] using hgood
  | some bad =>
    have hbad := List.find?_some hfind
    simp only [decide_eq_true_eq] at hbad
    simp only [verdict, hfind, reduceCtorEq, false_iff, not_forall, not_not]
    exact ⟨bad, List.mem_of_find?_eq_some hfind, hbad⟩

/-- Otherwise the failure tells of the first bad answer. -/
theorem verdict_eq_error_iff {checks : List (Check config)} {failure : ConfigFailure} :
    verdict checks = .error failure ↔
      ∃ check before after, checks = before ++ check :: after ∧ check.Violated ∧
        (∀ earlier ∈ before, ¬ earlier.Violated) ∧ check.failure = failure := by
  constructor
  · intro hverdict
    cases hfind : checks.find? fun check => check.Violated with
    | none => simp [verdict, hfind] at hverdict
    | some check =>
      simp only [verdict, hfind, Except.error.injEq] at hverdict
      obtain ⟨hbad, before, after, rfl, hgood⟩ := List.find?_eq_some_iff_append.mp hfind
      exact ⟨check, before, after, rfl, by simpa using hbad, by simpa using hgood, hverdict⟩
  · rintro ⟨check, before, after, rfl, hbad, hgood, rfl⟩
    rw [verdict_append, verdict_eq_ok_iff.mpr hgood]
    simp [verdict_cons, hbad]

end Check

/-- The questions that validation asks, in their order: host memory, the process, the devices one
after the other, and the place for reports. -/
def checks (config : Config) : List (Check config) :=
  [.hostCapacity, .processName] ++ (List.finRange config.devices.length).flatMap Check.onDevice ++
    [.logDir]

variable {config : Config}

/-- Every question is asked. -/
theorem Check.mem_checks (check : Check config) : check ∈ config.checks := by
  cases check <;> simp [checks, onDevice]

/-- A device is among the earlier ones when it is in the part of the list before. -/
theorem exists_take_iff (place : Fin config.devices.length) (p : Device → Prop) :
    (∃ device ∈ config.devices.take place, p device) ↔
      ∃ earlier < place, p (config.devices.get earlier) := by
  simp only [List.mem_take_iff_getElem]
  constructor
  · rintro ⟨device, ⟨index, hindex, rfl⟩, hp⟩
    exact ⟨⟨index, by omega⟩, by simp only [Fin.lt_def]; omega, hp⟩
  · rintro ⟨earlier, hearlier, hp⟩
    exact ⟨_, ⟨earlier, by simp only [Fin.lt_def] at hearlier; omega, rfl⟩, hp⟩

/-- A device is checked, beside those before it, by asking the questions about it. -/
theorem checkDevice_eq_verdict {seen : SeenDevices} (place : Fin config.devices.length)
    (hseen : seen.Holds (config.devices.take place)) :
    checkDevice seen (config.devices.get place) =
      (Check.verdict (Check.onDevice place)).map fun _ => seen.add (config.devices.get place) := by
  have hid : seen.ids.contains (config.devices.get place).id = true ↔
      (Check.ownId place).Violated := by
    rw [hseen.ids, exists_take_iff]
    rfl
  have hbus : seen.buses.contains (String.ofList (asciiLower (config.devices.get place).bus)) =
      true ↔ (Check.ownBus place).Violated := by
    simp only [hseen.buses, exists_take_iff, String.ofList_inj]
    rfl
  have hblank : Text.isBlankText (config.devices.get place).bus = true ↔
      (Check.deviceBus place).Violated := by
    simp [Text.isBlankText, Check.Violated]
  have hcapacity : (config.devices.get place).capacity = 0 ↔
      (Check.deviceCapacity place).Violated := Iff.rfl
  simp only [checkDevice, Check.onDevice, Check.verdict_cons, Check.verdict_nil, hid, hbus, hblank,
    hcapacity]
  repeat' split
  all_goals rfl

/-- The devices from a place on are checked, beside those before it, by asking the questions about
them in turn. -/
theorem checkDevices_eq_verdict {seen : SeenDevices} (start : Nat)
    (hseen : seen.Holds (config.devices.take start)) :
    checkDevices seen (config.devices.drop start) =
      Check.verdict (((List.finRange config.devices.length).drop start).flatMap
        Check.onDevice) := by
  by_cases hstart : start < config.devices.length
  · have hplaces : (List.finRange config.devices.length).drop start =
        ⟨start, hstart⟩ :: (List.finRange config.devices.length).drop (start + 1) := by
      rw [List.drop_eq_getElem_cons (by simpa using hstart), List.getElem_finRange]
      rfl
    have hnext := hseen.add config.devices[start]
    rw [← List.take_succ_eq_append_getElem hstart] at hnext
    have hrest := checkDevices_eq_verdict (start + 1) hnext
    have hfirst := checkDevice_eq_verdict ⟨start, hstart⟩ hseen
    rw [hplaces, List.flatMap_cons, Check.verdict_append, ← hrest,
      List.drop_eq_getElem_cons hstart, checkDevices]
    rw [List.get_eq_getElem] at hfirst
    rw [hfirst]
    cases Check.verdict (Check.onDevice (⟨start, hstart⟩ : Fin config.devices.length)) <;> rfl
  · have hend : config.devices.length ≤ start := by omega
    have hplaces : (List.finRange config.devices.length).drop start = [] :=
      List.drop_eq_nil_of_le (by simpa using hend)
    rw [List.drop_eq_nil_of_le hend, hplaces]
    rfl
termination_by config.devices.length - start

/-- Validation asks all questions in their order. -/
theorem validate_eq_verdict (config : Config) : config.validate = Check.verdict config.checks := by
  have hdevices := @checkDevices_eq_verdict config .none 0 SeenDevices.Holds.none
  simp only [List.drop_zero] at hdevices
  have hname : Text.isBlankText config.processName = true ↔
      (Check.processName : Check config).Violated := by
    simp [Text.isBlankText, Check.Violated]
  have hhost : config.cpuCapacity = 0 ↔ (Check.hostCapacity : Check config).Violated := Iff.rfl
  have hreports : (config.profiling && config.logDir.isNone) = true ↔
      (Check.logDir : Check config).Violated := by
    simp [Check.Violated]
  rw [validate, checks, List.append_assoc, List.cons_append, List.cons_append, List.nil_append,
    Check.verdict_cons, Check.verdict_cons, Check.verdict_append, hdevices]
  simp only [Check.verdict_cons, Check.verdict_nil, hname, hhost, hreports]
  rfl

/-- Elements of a list differ pairwise when each differs from those before it. -/
theorem pairwise_ne_iff {α β : Type} (items : List α) (f : α → β) :
    (items.Pairwise fun first second => f first ≠ f second) ↔
      ∀ place : Fin items.length, ¬ ∃ earlier < place, f (items.get earlier) = f (items.get place) := by
  rw [List.pairwise_iff_get]
  constructor
  · rintro hapart place ⟨earlier, hearlier, hsame⟩
    exact hapart earlier place hearlier hsame
  · intro hapart first second hlt hsame
    exact hapart second ⟨first, hlt, hsame⟩

/-- A configuration is sound when no question is answered badly. -/
theorem sound_iff : config.Sound ↔ ∀ check : Check config, ¬ check.Violated := by
  have hpositive (word : UInt64) : 0 < word ↔ ¬ word = 0 := UInt64.pos_iff_ne_zero
  have hblank (text : String) : (∃ c ∈ text.toList, Text.isBlank c = false) ↔
      ¬ ∀ c ∈ text.toList, Text.isBlank c = true := by simp
  have heach {P : Device → Prop} : (∀ device ∈ config.devices, P device) ↔
      ∀ place, P (config.devices.get place) := List.forall_mem_iff_get
  constructor
  · intro hsound check
    cases check with
    | hostCapacity => exact (hpositive _).mp hsound.host
    | processName => exact (hblank _).mp hsound.named
    | deviceCapacity place => exact (hpositive _).mp (heach.mp hsound.stocked place)
    | deviceBus place => exact (hblank _).mp (heach.mp hsound.addressed place)
    | ownId place => exact (pairwise_ne_iff _ _).mp hsound.ids place
    | ownBus place => exact (pairwise_ne_iff _ _).mp hsound.buses place
    | logDir =>
      rintro ⟨hprofiling, hnone⟩
      obtain ⟨directory, hsome⟩ := hsound.reports hprofiling
      cases hnone.symm.trans hsome
  · intro hgood
    exact {
      host := (hpositive _).mpr (hgood .hostCapacity)
      named := (hblank _).mpr (hgood .processName)
      stocked := heach.mpr fun place => (hpositive _).mpr (hgood (.deviceCapacity place))
      addressed := heach.mpr fun place => (hblank _).mpr (hgood (.deviceBus place))
      ids := (pairwise_ne_iff _ _).mpr fun place => hgood (.ownId place)
      buses := (pairwise_ne_iff _ _).mpr fun place => hgood (.ownBus place)
      reports := fun hprofiling => Option.ne_none_iff_exists'.mp fun hnone =>
        hgood .logDir ⟨hprofiling, hnone⟩ }

/-- Validation accepts the sound configurations. -/
theorem validate_eq_ok_iff : config.validate = .ok () ↔ config.Sound := by
  rw [validate_eq_verdict, Check.verdict_eq_ok_iff, sound_iff]
  exact ⟨fun hgood check => hgood check check.mem_checks, fun hgood check _ => hgood check⟩

/-- Validation accepts exactly the sound configurations. Any other is refused with the failure of
the first question that is answered badly, in the order of `checks`. -/
theorem validate_refuses_first_violation (config : Config) :
    (config.validate = .ok () ↔ config.Sound) ∧
      ∀ failure, config.validate = .error failure ↔
        ∃ check before after, config.checks = before ++ check :: after ∧ check.Violated ∧
          (∀ earlier ∈ before, ¬ earlier.Violated) ∧ check.failure = failure := by
  refine ⟨validate_eq_ok_iff, fun failure => ?_⟩
  rw [validate_eq_verdict]
  exact Check.verdict_eq_error_iff

end Config

end SegmentCache
