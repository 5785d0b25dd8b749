import SegmentCache.Proofs.MessageFrame
import SegmentCache.Proofs.SoundConfigs

/-!
# Finding the device that a message means

A message names a device by its bus address, in any case of letters. The cache looks the address
up to get a number, and looks the number up to get a capacity, each time taking the first device
that answers. In a sound configuration at most one device answers, so both lookups meet the same
device and the object is held against the capacity of the device that was named. Where at most one
device answers, the order of the devices does not matter either.
-/

namespace SegmentCache

/-- The same character, or a capital of the ASCII alphabet and its small letter. -/
def SameLetter (c d : Char) : Prop :=
  c = d ∨ (c.isUpper = true ∧ d.toNat = c.toNat + 32) ∨
    (d.isUpper = true ∧ c.toNat = d.toNat + 32)

instance (c d : Char) : Decidable (SameLetter c d) :=
  inferInstanceAs (Decidable (_ ∨ _))

/-- Two texts that differ at most in the case of ASCII letters. -/
def SameButForCase (s t : String) : Prop :=
  List.Forall₂ SameLetter s.toList t.toList

instance (s t : String) : Decidable (SameButForCase s t) :=
  inferInstanceAs (Decidable (List.Forall₂ _ _ _))

/-- The capitals are the characters from 65 to 90. -/
theorem isUpper_iff (c : Char) : c.isUpper = true ↔ 65 ≤ c.toNat ∧ c.toNat ≤ 90 := by
  simp [Char.isUpper, UInt32.le_iff_toNat_le]

/-- Lower-casing moves the capitals up by 32 and leaves the rest alone. -/
theorem toNat_toLower (c : Char) :
    c.toLower.toNat = if c.isUpper then c.toNat + 32 else c.toNat := by
  by_cases hupper : c.isUpper = true
  · have hrange := (isUpper_iff c).mp hupper
    have hcapital : c.val ≥ 'A'.val ∧ c.val ≤ 'Z'.val := by simpa [Char.isUpper] using hupper
    rw [if_pos hupper, Char.toLower, dif_pos hcapital]
    show (c.val + 32).toNat = c.val.toNat + 32
    rw [UInt32.toNat_add, Nat.mod_eq_of_lt]
    · rfl
    · show c.toNat + 32 < 2 ^ 32
      omega
  · have hcapital : ¬ (c.val ≥ 'A'.val ∧ c.val ≤ 'Z'.val) := by simpa [Char.isUpper] using hupper
    rw [if_neg hupper, Char.toLower, dif_neg hcapital]

/-- Lower-casing makes two characters equal exactly when they are the same letter. -/
theorem toLower_eq_toLower_iff (c d : Char) : c.toLower = d.toLower ↔ SameLetter c d := by
  rw [← Char.toNat_inj, toNat_toLower, toNat_toLower, SameLetter, ← Char.toNat_inj]
  simp only [isUpper_iff]
  split <;> split <;> omega

/-- Lower-casing makes two texts equal exactly when they differ at most in case. -/
theorem asciiLower_eq_iff (s t : String) : asciiLower s = asciiLower t ↔ SameButForCase s t := by
  rw [asciiLower, asciiLower, ← List.forall₂_eq_eq_eq, List.forall₂_map_left_iff,
    List.forall₂_map_right_iff]
  simp only [toLower_eq_toLower_iff]
  rfl

/-- Where no two items have one key, the items with a key are the first that is found. -/
theorem filter_eq_toList_find? {α β : Type} [DecidableEq β] {items : List α} {key : α → β}
    (hapart : items.Pairwise fun first second => key first ≠ key second) (wanted : β) :
    (items.filter fun item => key item = wanted) =
      (items.find? fun item => key item = wanted).toList := by
  induction hapart with
  | nil => rfl
  | @cons first rest hfirst _ ih =>
    by_cases hkey : key first = wanted
    · have hnone : (rest.filter fun item => key item = wanted) = [] := by
        simp only [List.filter_eq_nil_iff, decide_eq_true_eq]
        intro item hitem hsame
        exact hfirst item hitem (hkey.trans hsame.symm)
      simp [hkey, hnone]
    · simpa [hkey] using ih

/-- Where no two items have one key, the first item with a key does not depend on their order. -/
theorem find?_eq_of_perm {α β : Type} [DecidableEq β] {items others : List α} {key : α → β}
    (hapart : items.Pairwise fun first second => key first ≠ key second)
    (hperm : items.Perm others) (wanted : β) :
    (others.find? fun item => key item = wanted) = items.find? fun item => key item = wanted := by
  have hapart' : others.Pairwise fun first second => key first ≠ key second :=
    (hperm.pairwise_iff Ne.symm).mp hapart
  have hfound := hperm.filter fun item => key item = wanted
  rw [filter_eq_toList_find? hapart, filter_eq_toList_find? hapart'] at hfound
  generalize (others.find? fun item => key item = wanted) = found at hfound ⊢
  cases hfirst : items.find? fun item => key item = wanted with
  | none => simpa [hfirst] using hfound
  | some item =>
    rw [hfirst, Option.toList_some, List.singleton_perm] at hfound
    cases found with
    | none => cases hfound
    | some other => simpa using hfound.symm

namespace Config

variable {config : Config}

/-- All capacities together, cut off at the largest word. -/
theorem toNat_totalCapacity (config : Config) :
    config.totalCapacity.toNat =
      min (config.cpuCapacity.toNat + (config.devices.map (·.capacity.toNat)).sum)
        (2 ^ 64 - 1) :=
  Word.toNat_foldl_addSat Device.capacity config.devices config.cpuCapacity

/-- The devices with a bus address, up to case, are the one that is found or none. -/
theorem Sound.filter_bus (hsound : config.Sound) (bus : String) :
    (config.devices.filter fun device => SameButForCase device.bus bus) =
      (config.deviceAt bus).toList := by
  simp only [← asciiLower_eq_iff]
  exact filter_eq_toList_find? hsound.buses (asciiLower bus)

/-- The capacity at the number of a device is its own. -/
theorem Sound.capacityFor_device (hsound : config.Sound) {device : Device}
    (hdevice : device ∈ config.devices) :
    config.capacityFor (.gpu device.id) = some device.capacity := by
  have honly := filter_eq_toList_find? hsound.ids device.id
  have hmem : device ∈ config.devices.filter fun other => other.id = device.id := by
    simpa using hdevice
  rw [honly, Option.mem_toList] at hmem
  simp only [capacityFor, hmem, Option.map_some]

/-- Soundness does not depend on the order of the devices. -/
theorem Sound.of_perm (hsound : config.Sound) {devices : List Device}
    (hperm : config.devices.Perm devices) : ({ config with devices := devices } : Config).Sound where
  host := hsound.host
  named := hsound.named
  stocked device hdevice := hsound.stocked device (hperm.mem_iff.mpr hdevice)
  addressed device hdevice := hsound.addressed device (hperm.mem_iff.mpr hdevice)
  ids := (hperm.pairwise_iff Ne.symm).mp hsound.ids
  buses := (hperm.pairwise_iff Ne.symm).mp hsound.buses
  reports := hsound.reports

/-- The capacity of all devices together does not depend on their order. -/
theorem totalCapacity_of_perm {devices : List Device} (hperm : config.devices.Perm devices) :
    ({ config with devices := devices } : Config).totalCapacity = config.totalCapacity := by
  rw [← UInt64.toNat_inj, toNat_totalCapacity, toNat_totalCapacity,
    (hperm.map (·.capacity.toNat)).sum_nat]

end Config

namespace State

variable {state : State} {offer : DeviceOffer} {device : Device}

/-- An object offered for a device is charged to a device: room is made for it there, up to the
capacity of that device, and it is added there to what making room has left. -/
structure ChargedTo (state : State) (offer : DeviceOffer) (device : Device) : Prop where
  /-- What the table holds afterwards, whether the object could be added or not. -/
  table :
    let outcome := state.handle (.putGpu offer)
    let room := state.table.makeRoom state.locks (.gpu device.id) offer.size device.capacity
    (outcome.result.isOk = false ∧ outcome.state.table = room.table) ∨
      outcome.result = .ok .none ∧ ∃ handle, outcome.state.table =
        (room.table.put ((offer.insertion device.id (entryKey offer.fileName)).entry handle)).1
  /-- The bytes used on the device are within its capacity, unless all else there is locked. -/
  ceiling : (state.handle (.putGpu offer)).result = .ok .none →
    let after := (state.handle (.putGpu offer)).state
    after.usedBytes (.gpu device.id) ≤ device.capacity ∨
      ∀ {name entry}, after.table.get? name = some entry →
        entry.locality = .gpu device.id → name ≠ entryKey offer.fileName →
        after.locks.isLocked name = true

/-- An offer for a device under a free name brings in an object. -/
theorem insertion?_putGpu (hdevice : state.config.deviceAt offer.bus = some device)
    (hfree : state.isInCache offer.fileName = false) :
    state.insertion? (.putGpu offer) =
      some (offer.insertion device.id (entryKey offer.fileName)) := by
  simp [insertion?, hdevice, hfree]

/-- Under a free name there is nothing locked to replace. -/
theorem open_of_free {name : String} (hfree : state.table.contains name = false) :
    state.table.contains name = true → state.locks.isLocked name = false :=
  fun hthere => absurd hthere (Bool.eq_false_iff.mp hfree)

/-- No offer fails for want of a capacity: the number that was looked up is that of a device. -/
theorem putGpu_ne_unconfigured (state : State) (offer : DeviceOffer) (id : UInt32) :
    (state.handle (.putGpu offer)).result ≠ .error (.unconfiguredDevice id) := by
  intro herror
  cases hbrings : state.insertion? (.putGpu offer) with
  | none =>
    rcases handle_error_of_aside hbrings herror with
      ⟨hbreach, -⟩ | ⟨bus, hother, -⟩ | ⟨path, cause, files, hother, -⟩
    · cases hbreach
    · cases hother
    · cases hother
  | some insertion =>
    have hopen : state.table.contains insertion.name = true →
        state.locks.isLocked insertion.name = false := by
      obtain ⟨_, hmessage, -⟩ | ⟨_, _, -, -, hfree, rfl⟩ | ⟨_, hmessage, -⟩ :=
        insertion?_cases hbrings
      · cases hmessage
      · exact open_of_free hfree
      · cases hmessage
    obtain ⟨room, -, -, -, -, -, -, hresult⟩ := handle_in_room hbrings hopen
    rw [hresult] at herror
    rcases room.settle_cases insertion with
      ⟨used, -, hsettled⟩ | ⟨failure, store, -, -, hsettled⟩ | ⟨store, -, -, hsettled⟩ |
        ⟨handle, store, -, -, hsettled⟩
    all_goals
      rw [hsettled] at herror
      cases herror

/-- Where the capacity at the number of a device is its own, an offer is charged to the device that
it names. -/
theorem Coherent.chargedTo (hcoherent : state.Coherent)
    (hdevice : state.config.deviceAt offer.bus = some device)
    (hcapacity : state.config.capacityFor (.gpu device.id) = some device.capacity)
    (hfree : state.isInCache offer.fileName = false) : state.ChargedTo offer device := by
  have hbrings := insertion?_putGpu hdevice hfree
  have hopen := @open_of_free state _ hfree
  constructor
  · obtain ⟨room, capacity, hsame, htable, -, -, hstate, hresult⟩ := handle_in_room hbrings hopen
    cases hcapacity.symm.trans hsame
    have hroom : room.table = (state.table.makeRoom state.locks (.gpu device.id) offer.size
        device.capacity).table := by
      have hvacated : state.vacate (entryKey offer.fileName) = (state, []) := vacate_of_free hfree
      rw [htable, show (offer.insertion device.id (entryKey offer.fileName)).name =
        entryKey offer.fileName from rfl, hvacated]
      rfl
    dsimp only
    rw [hstate, hresult, ← hroom]
    rcases room.settle_cases (offer.insertion device.id (entryKey offer.fileName)) with
      ⟨used, hsettled, hends⟩ | ⟨failure, store, -, hsettled, hends⟩ |
      ⟨store, -, hsettled, hends⟩ | ⟨handle, store, -, hsettled, hok⟩
    · exact Or.inl ⟨by rw [hends]; rfl, by rw [hsettled]⟩
    · exact Or.inl ⟨by rw [hends]; rfl, by rw [hsettled]; rfl⟩
    · exact Or.inl ⟨by rw [hends]; rfl, by rw [hsettled]; rfl⟩
    · exact Or.inr ⟨hok, handle, by rw [hsettled]; rfl⟩
  · intro hok
    obtain ⟨capacity, entry, hsame, -, -, hwithin⟩ :=
      hcoherent.handle_within_or_locked hbrings hok
    cases hcapacity.symm.trans hsame
    exact hwithin

/-- In a sound configuration a bus address leads to the one device that has it, up to the case of
letters, or to none, and the capacity at the number of a device is its own. So an object offered
for a device is charged to the device that was named, and no offer fails for want of a capacity.
Whether a configuration is sound, where addresses and numbers lead and what there is in all do not
depend on the order of the devices. -/
theorem device_routing_unambiguous :
    (∀ {config : Config}, config.validate = .ok () →
      (∀ bus, (config.devices.filter fun device => SameButForCase device.bus bus) =
        (config.deviceAt bus).toList) ∧
      (∀ device ∈ config.devices, config.capacityFor (.gpu device.id) = some device.capacity) ∧
      ∀ {state : State}, Reachable state → state.config = config → ∀ offer : DeviceOffer,
        (∀ id, (state.handle (.putGpu offer)).result ≠ .error (.unconfiguredDevice id)) ∧
        ∀ {device}, config.deviceAt offer.bus = some device →
          state.isInCache offer.fileName = false → state.ChargedTo offer device) ∧
    ∀ {config : Config} {devices : List Device}, config.devices.Perm devices →
      let permuted := { config with devices := devices }
      (permuted.validate = .ok () ↔ config.validate = .ok ()) ∧
      (config.validate = .ok () →
        (∀ bus, permuted.deviceAt bus = config.deviceAt bus) ∧
        (∀ locality, permuted.capacityFor locality = config.capacityFor locality) ∧
        permuted.totalCapacity = config.totalCapacity) := by
  constructor
  · intro config hvalid
    have hsound := Config.validate_eq_ok_iff.mp hvalid
    refine ⟨hsound.filter_bus, fun device => hsound.capacityFor_device, ?_⟩
    rintro state hreach rfl offer
    refine ⟨state.putGpu_ne_unconfigured offer, ?_⟩
    intro device hdevice hfree
    have hlisted : device ∈ state.config.devices := List.mem_of_find?_eq_some hdevice
    exact hreach.coherent.chargedTo hdevice (hsound.capacityFor_device hlisted) hfree
  · intro config devices hperm permuted
    simp only [Config.validate_eq_ok_iff]
    refine ⟨⟨fun hsound => hsound.of_perm hperm.symm, fun hsound => hsound.of_perm hperm⟩, ?_⟩
    intro hsound
    refine ⟨fun bus => find?_eq_of_perm hsound.buses hperm (asciiLower bus), ?_,
      Config.totalCapacity_of_perm hperm⟩
    intro locality
    cases locality with
    | cpu => rfl
    | gpu id => exact congrArg (Option.map _) (find?_eq_of_perm hsound.ids hperm id)

/-- An object for the second of two devices, named in small letters, drives out what is there and
is charged to that device. The devices may be listed in the other order. -/
theorem device_routing_unambiguous_evicting :
    let first : Device := { id := 7, bus := "0000:3B:00.0", capacity := 100 }
    let second : Device := { id := 0, bus := "0000:5E:00.0", capacity := 4 }
    let config : Config := { cpuCapacity := 10, devices := [first, second] }
    let state :=
      ((State.initial config (Store.empty none) FileTree.empty "").withStore
        ((Store.empty none).register "s" { locality := .cpu, contents := .zeros 4 })).handleAll
        [.putGpu { fileName := "a", handle := "s", size := 4, bus := "0000:5e:00.0" }]
    let offer : DeviceOffer := { fileName := "b", handle := "s", size := 4, bus := "0000:5e:00.0" }
    config.validate = .ok () ∧ Reachable state ∧ state.usedBytes (.gpu second.id) = 4 ∧
      config.deviceAt offer.bus = some second ∧ state.ChargedTo offer second ∧
      ({ config with devices := [second, first] } : Config).deviceAt offer.bus = some second := by
  intro first second config state offer
  have hvalid : config.validate = .ok () := by decide +kernel
  have hreach : Reachable state :=
    ((Reachable.initial config _ _ _).surroundings _ _ _).handleAll _
  have hused : state.usedBytes (.gpu second.id) = 4 := by decide +kernel
  have hdevice : config.deviceAt offer.bus = some second := by decide +kernel
  have hconfig : state.config = config := by decide +kernel
  have hfree : state.isInCache offer.fileName = false := by decide +kernel
  have hperm : config.devices.Perm [second, first] := List.Perm.swap second first []
  obtain ⟨-, -, hcharged⟩ := device_routing_unambiguous.1 hvalid
  obtain ⟨-, hkept⟩ := device_routing_unambiguous.2 hperm
  exact ⟨hvalid, hreach, hused, hdevice, (hcharged hreach hconfig offer).2 hdevice hfree,
    ((hkept hvalid).1 offer.bus).trans hdevice⟩

end State

end SegmentCache
