import SegmentCache.Config
import SegmentCache.Json.Basic
import SegmentCache.Json.Reading

/-!
# The written form of configurations

A configuration is a record of which only the capacity of host memory has to be given.
-/

namespace SegmentCache

open Json

/-- Why a text does not give a configuration. -/
inductive ConfigTextFailure where
  /-- The text cannot be read. -/
  | unreadable (failure : ReadFailure)
  /-- The configuration is not sound. -/
  | unsound (failure : ConfigFailure)
  deriving DecidableEq, Repr

namespace Device

/-- What a device consists of. -/
def layout : Layout Device where
  title := "struct GpuDeviceConfig"
  blank := default
  fields :=
    [.need "device_id" Draft.readWord32 fun id device => { device with id },
     .need "pci_bus_id" Draft.readString fun bus device => { device with bus },
     .need "capacity_bytes" Draft.readWord fun capacity device => { device with capacity }]

/-- The written form of a device. -/
def document (device : Device) : Json :=
  .object
    [("device_id", .number device.id.toNat),
     ("pci_bus_id", .string device.bus),
     ("capacity_bytes", .number device.capacity.toNat)]

end Device

namespace Config

/-- What a configuration consists of. -/
def layout (origin : Origin) : Layout Config where
  title := "struct CacheConfig"
  blank := {}
  fields :=
    [.allow "process_name" Draft.readString fun processName config => { config with processName },
     .need "cpu_capacity_bytes" Draft.readWord fun cpuCapacity config =>
       { config with cpuCapacity },
     .allow "gpu_devices" (Draft.readList (Device.layout.read origin)) fun devices config =>
       { config with devices },
     .allow "profiling" Draft.readBool fun profiling config => { config with profiling },
     .allow "log_dir" Draft.readPath fun logDir config => { config with logDir }]

/-- Reads a configuration from a document, sound or not. -/
def ofDocument (document : Draft) : Except ReadFailure Config :=
  (layout .document).read .document document

/-- Reads a configuration from its written form, sound or not. -/
def ofText (text : String) : Except ReadFailure Config :=
  readText ((layout .text).read .text) text

/-- Reads a sound configuration from its written form. -/
def ofSoundText (text : String) : Except ConfigTextFailure Config :=
  match ofText text with
  | .error failure => .error (.unreadable failure)
  | .ok config =>
    match config.validate with
    | .error failure => .error (.unsound failure)
    | .ok () => .ok config

/-- The written form of a configuration. -/
def document (config : Config) : Json :=
  .object
    [("process_name", .string config.processName),
     ("cpu_capacity_bytes", .number config.cpuCapacity.toNat),
     ("gpu_devices", .array (config.devices.map Device.document)),
     ("profiling", .bool config.profiling),
     ("log_dir", (config.logDir.map Json.string).getD .null)]

end Config

end SegmentCache
