import Std.Data.ExtTreeSet
import SegmentCache.Locality
import SegmentCache.Text.Blank
import SegmentCache.Word

/-!
# Configuration

A configuration names the process, gives the capacity of host memory and of each device, and says
whether uses are profiled and where reports go. It is sound when every capacity is positive, every
name is there, and devices can be told apart by number and by bus address.
-/

namespace SegmentCache

/-- A device and its capacity. -/
structure Device where
  /-- The number of the device. -/
  id : UInt32
  /-- The bus address of the device. -/
  bus : String
  /-- The bytes the cache may use on the device. -/
  capacity : UInt64
  deriving DecidableEq, Repr, Inhabited

/-- How a cache is set up. -/
structure Config where
  /-- The name under which the cache logs. -/
  processName : String := "cache-manager"
  /-- The bytes the cache may use in host memory. -/
  cpuCapacity : UInt64 := 1073741824
  /-- The devices the cache may use. -/
  devices : List Device := []
  /-- Whether uses are counted. -/
  profiling : Bool := false
  /-- Where reports go. -/
  logDir : Option String := none
  deriving DecidableEq, Repr, Inhabited

/-- Why a configuration is not sound. -/
inductive ConfigFailure where
  /-- The configuration contradicts itself. -/
  | contradictory (reason : String)
  /-- A field has a value it may not have. -/
  | invalidValue (field value reason : String)
  /-- A field is needed and missing. -/
  | missingRequired (field : String)
  deriving DecidableEq, Repr

/-- The wording of a configuration failure. -/
def ConfigFailure.message : ConfigFailure → String
  | .contradictory reason => s!"Validation failed: {reason}"
  | .invalidValue field value reason =>
    s!"Invalid value for field '{field}': {value} - {reason}"
  | .missingRequired field => s!"Missing required field: {field}"

/-- Text in which the ASCII capitals are small letters. -/
def asciiLower (s : String) : List Char :=
  s.toList.map Char.toLower

/-- What the devices that were seen have taken. -/
structure SeenDevices where
  /-- Their numbers. -/
  ids : Std.ExtTreeSet UInt32
  /-- Their bus addresses, in small letters. -/
  buses : Std.ExtTreeSet String

namespace SeenDevices

/-- No device was seen. -/
def none : SeenDevices where
  ids := ∅
  buses := ∅

/-- One more device was seen. -/
def add (seen : SeenDevices) (device : Device) : SeenDevices where
  ids := seen.ids.insert device.id
  buses := seen.buses.insert (String.ofList (asciiLower device.bus))

end SeenDevices

namespace Config

/-- The default configuration with another capacity of host memory. -/
def ofCapacity (cpuCapacity : UInt64) : Config :=
  { cpuCapacity := cpuCapacity }

/-- The capacity of a locality, if it has one. -/
def capacityFor (config : Config) : Locality → Option UInt64
  | .cpu => some config.cpuCapacity
  | .gpu device => (config.devices.find? (·.id = device)).map (·.capacity)

/-- The device with a bus address, up to the case of ASCII letters. -/
def deviceAt (config : Config) (bus : String) : Option Device :=
  config.devices.find? fun device => asciiLower device.bus = asciiLower bus

/-- All capacities together, held at the largest word. -/
def totalCapacity (config : Config) : UInt64 :=
  config.devices.foldl (fun total device => Word.addSat total device.capacity)
    config.cpuCapacity

/-- Checks one device beside those that were seen, and adds it to them. -/
def checkDevice (seen : SeenDevices) (device : Device) : Except ConfigFailure SeenDevices :=
  if device.capacity = 0 then
    .error (.invalidValue "gpu_devices.capacity_bytes" s!"device {device.id}: 0"
      "Must be greater than 0")
  else if Text.isBlankText device.bus then
    .error (.invalidValue "gpu_devices.pci_bus_id" s!"device {device.id}" "Must not be empty")
  else if seen.ids.contains device.id then
    .error (.contradictory s!"Duplicate GPU device id {device.id}")
  else if seen.buses.contains (String.ofList (asciiLower device.bus)) then
    .error (.contradictory s!"Duplicate PCI bus id {device.bus}")
  else .ok (seen.add device)

/-- Checks the listed devices in turn. -/
def checkDevices (seen : SeenDevices) : List Device → Except ConfigFailure Unit
  | [] => .ok ()
  | device :: rest =>
    match checkDevice seen device with
    | .error failure => .error failure
    | .ok seen => checkDevices seen rest

/-- Checks a configuration. The first fault decides. -/
def validate (config : Config) : Except ConfigFailure Unit :=
  if config.cpuCapacity = 0 then
    .error (.invalidValue "cpu_capacity_bytes" "0" "Must be greater than 0")
  else if Text.isBlankText config.processName then
    .error (.invalidValue "process_name" config.processName "Must not be empty")
  else
    match checkDevices .none config.devices with
    | .error failure => .error failure
    | .ok () =>
      if config.profiling && config.logDir.isNone then .error (.missingRequired "log_dir")
      else .ok ()

/-- The configuration itself if it is sound. -/
def validated (config : Config) : Except ConfigFailure Config :=
  match config.validate with
  | .error failure => .error failure
  | .ok () => .ok config

/-- Adds a device behind the others. -/
def addDevice (config : Config) (id : UInt32) (bus : String) (capacity : UInt64) : Config :=
  { config with devices := config.devices ++ [{ id, bus, capacity }] }

/-- Turns profiling on, with reports going to a directory. -/
def enableProfiling (config : Config) (directory : String) : Config :=
  { config with profiling := true, logDir := some directory }

end Config

end SegmentCache
