import SegmentCache.Format.Entry
import SegmentCache.Message

/-!
# The written form of messages

A message is a tagged record: its action and the fields that go with it. Fields whose value is the
usual one may be left out.
-/

namespace SegmentCache

open Json

namespace Message

/-- The names of the actions. -/
def knownActions : List String :=
  Action.all.map Action.text

/-- The fields of a message that counts a use. -/
structure Use where
  /-- The file that is used. -/
  fileName : String
  /-- The parameter it is used for. -/
  parameter : String
  /-- The function it is used by. -/
  function : String

/-- What is written beside the action of a use. -/
def useLayout : Layout Use where
  title := "struct variant CacheMessage::Get"
  blank := { fileName := "", parameter := "", function := "" }
  fields :=
    [.need "file_name" Draft.readString fun fileName use => { use with fileName },
     .allow "parameter" Draft.readString fun parameter use => { use with parameter },
     .allow "function" Draft.readString fun function use => { use with function }]

/-- What is written beside the action of an offer. -/
def offerLayout (title : String) : Layout Offer where
  title := title
  blank := { fileName := "", handle := "", size := 0 }
  fields :=
    [.need "file_name" Draft.readString fun fileName offer => { offer with fileName },
     .need "handle" Draft.readString fun handle offer => { offer with handle },
     .allow "kind" ObjectKind.readWhole fun kind offer => { offer with kind },
     .allow "parameter" Draft.readString fun parameter offer => { offer with parameter },
     .allow "function" Draft.readString fun function offer => { offer with function },
     .need "size" Draft.readWord fun size offer => { offer with size },
     .allow "dtype" Draft.readString fun dtype offer => { offer with dtype },
     .allow "shape" (Draft.readList Draft.readExtent) fun shape offer => { offer with shape }]

/-- What is written beside the action of an offer for a device. -/
def deviceOfferLayout : Layout DeviceOffer where
  title := "struct variant CacheMessage::PutGpu"
  blank := { fileName := "", handle := "", bus := "", size := 0 }
  fields :=
    [.need "file_name" Draft.readString fun fileName offer => { offer with fileName },
     .need "handle" Draft.readString fun handle offer => { offer with handle },
     .need "pci_bus_id" Draft.readString fun bus offer => { offer with bus },
     .allow "parameter" Draft.readString fun parameter offer => { offer with parameter },
     .allow "function" Draft.readString fun function offer => { offer with function },
     .need "size" Draft.readWord fun size offer => { offer with size },
     .allow "dtype" Draft.readString fun dtype offer => { offer with dtype },
     .allow "shape" (Draft.readList Draft.readExtent) fun shape offer => { offer with shape }]

/-- What is written beside an action that only names a file. -/
def fileLayout (title : String) : Layout String where
  title := title
  blank := ""
  fields := [.need "file_name" Draft.readString fun fileName _ => fileName]

/-- Reads what stands beside an action. -/
def readBody (body : Body) : Action → Except ReadFailure Message
  | .get => do
    let use ← useLayout.readBody body
    return .get use.fileName use.parameter use.function
  | .put => .put <$> (offerLayout "struct variant CacheMessage::Put").readBody body
  | .putGpu => .putGpu <$> deviceOfferLayout.readBody body
  | .replace => .replace <$> (offerLayout "struct variant CacheMessage::Replace").readBody body
  | .remove => .remove <$> (fileLayout "struct variant CacheMessage::Remove").readBody body
  | .lock => .lock <$> (fileLayout "struct variant CacheMessage::Lock").readBody body
  | .unlock => .unlock <$> (fileLayout "struct variant CacheMessage::Unlock").readBody body
  | .isLocked => .isLocked <$> (fileLayout "struct variant CacheMessage::IsLocked").readBody body
  | .isInCache =>
    .isInCache <$> (fileLayout "struct variant CacheMessage::IsInCache").readBody body
  | .endProfiling => do
    readAlone body
    return .endProfiling
  | .quit => do
    readAlone body
    return .quit

/-- Reads a message. -/
def read (draft : Draft) : Except ReadFailure Message := do
  let (action, body) ←
    splitTagged "CacheMessage" "action" (Draft.readTag Action.ofText? knownActions) maxDepth draft
  readBody body action

/-- Reads a message from its written form. -/
def ofText (text : String) : Except ReadFailure Message :=
  readText read text

/-- The fields of an offer. -/
def offerMembers (offer : Offer) : List (String × Json) :=
  [("file_name", .string offer.fileName),
   ("handle", .string offer.handle),
   ("kind", .string offer.kind.text),
   ("parameter", .string offer.parameter),
   ("function", .string offer.function),
   ("size", .number offer.size.toNat),
   ("dtype", .string offer.dtype),
   ("shape", .array (offer.shape.map fun extent => .number extent.toNat))]

/-- The fields of an offer for a device. -/
def deviceOfferMembers (offer : DeviceOffer) : List (String × Json) :=
  [("file_name", .string offer.fileName),
   ("handle", .string offer.handle),
   ("pci_bus_id", .string offer.bus),
   ("parameter", .string offer.parameter),
   ("function", .string offer.function),
   ("size", .number offer.size.toNat),
   ("dtype", .string offer.dtype),
   ("shape", .array (offer.shape.map fun extent => .number extent.toNat))]

/-- The fields of a message beside its action. -/
def members : Message → List (String × Json)
  | .get fileName parameter function =>
    [("file_name", .string fileName), ("parameter", .string parameter),
     ("function", .string function)]
  | .put offer => offerMembers offer
  | .putGpu offer => deviceOfferMembers offer
  | .replace offer => offerMembers offer
  | .remove fileName | .lock fileName | .unlock fileName | .isLocked fileName
  | .isInCache fileName => [("file_name", .string fileName)]
  | .endProfiling | .quit => []

/-- The written form of a message. -/
def document (message : Message) : Json :=
  .object (("action", .string message.action.text) :: message.members)

end Message

end SegmentCache
