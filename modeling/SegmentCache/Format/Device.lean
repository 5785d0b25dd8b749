import SegmentCache.Config
import SegmentCache.Text.Blank
import SegmentCache.Text.Numeral
import SegmentCache.Text.Pieces

/-!
# Devices as text

On the command line a device is described by its number, its bus address and its capacity, between
commas, because bus addresses hold colons. Blanks around a part do not matter.
-/

namespace SegmentCache

namespace Device

/-- Why a text does not describe a device. -/
inductive TextFailure where
  /-- The text does not have three parts. -/
  | wrongParts (text : String)
  /-- The first part is not a device number. -/
  | invalidId (part : String) (fault : Text.NumeralFault)
  /-- The last part is not a capacity. -/
  | invalidCapacity (part : String) (fault : Text.NumeralFault)
  deriving DecidableEq, Repr

/-- The wording of a failure to read a device. -/
def TextFailure.message : TextFailure → String
  | .wrongParts text =>
    s!"expected <device_id>,<pci_bus_id>,<capacity_bytes>, got '{text}'"
  | .invalidId part fault => s!"invalid device id '{part}': {fault.message}"
  | .invalidCapacity part fault => s!"invalid capacity '{part}': {fault.message}"

/-- Reads a device from its number, bus address and capacity between commas. -/
def ofText (text : String) : Except TextFailure Device :=
  match Text.pieces ',' text.toList with
  | [id, bus, capacity] =>
    match Text.readNumeral UInt32.size (Text.trimChars id) with
    | .error fault => .error (.invalidId (String.ofList id) fault)
    | .ok number =>
      match Text.readNumeral UInt64.size (Text.trimChars capacity) with
      | .error fault => .error (.invalidCapacity (String.ofList capacity) fault)
      | .ok bytes =>
        .ok { id := UInt32.ofNat number
              bus := String.ofList (Text.trimChars bus)
              capacity := UInt64.ofNat bytes }
  | _ => .error (.wrongParts text)

end Device

end SegmentCache
