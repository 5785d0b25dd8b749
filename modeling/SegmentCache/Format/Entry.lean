import SegmentCache.Entry
import SegmentCache.Json.Basic
import SegmentCache.Json.Reading

/-!
# The written form of entries

Entries are written as objects with all their fields. A locality is a tagged record, and a kind is
a name, which may also stand as the only member of an object.
-/

namespace SegmentCache

open Json

namespace ObjectKind

/-- The names of the kinds. -/
def known : List String :=
  all.map text

/-- Reads the value beside the name of a kind, which says nothing. -/
def readNothing : Draft → Except ReadFailure Unit
  | .null => .ok ()
  | draft => .error (draft.unexpected "unit")

/-- Reads the name of a kind where a member begins. -/
def readKey : Key → Except ReadFailure ObjectKind
  | .name name => Draft.readVariant ofText? known name
  | .unpaired => .error (.flaw .malformed)
  | .missing kept _ => .error (.flaw kept)

/-- Reads a kind as it comes. -/
def read : Draft → Except ReadFailure ObjectKind
  | .string name => Draft.readVariant ofText? known name
  | .object members ending =>
    match members with
    | [] => do
      flawed ending.check
      .error (.flaw .malformed)
    | (key, value) :: rest => do
      let kind ← readKey key
      readNothing value
      if rest.isEmpty then flawed ending.check else .error (.flaw .malformed)
      return kind
  | .absent flaw => .error (.flaw flaw)
  | .brokenString kept _ => .error (.flaw kept)
  | _ => .error (.flaw .malformed)

/-- Reads a kind from a document, with a reader for the value beside its name. -/
def readWith (readValue : Draft → Except ReadFailure Unit) :
    Draft → Except ReadFailure ObjectKind
  | .string name => Draft.readVariant ofText? known name
  | .object [(.name name, value)] _ => do
    let kind ← Draft.readVariant ofText? known name
    readValue value
    return kind
  | .object _ _ => .error (.mismatch (.wrongValue .map "map with a single key"))
  | draft => .error (draft.unexpected "string or map")

/-- Reads a kind from a document of its own. -/
def ofDocument (document : Draft) : Except ReadFailure ObjectKind :=
  readWith readNothing document

/-- Reads a kind in a record that has been read whole. An empty object says as little as a null. -/
def readWhole (document : Draft) : Except ReadFailure ObjectKind :=
  readWith (fun value =>
    match value with
    | .object [] _ => .ok ()
    | value => readNothing value) document

end ObjectKind

namespace Locality

/-- The name of a locality in its tag. -/
def known : List String :=
  ["cpu", "gpu"]

/-- Whether a tag names a device. -/
def isDevice? (tag : String) : Option Bool :=
  if tag = "cpu" then some false else if tag = "gpu" then some true else none

/-- What is written beside the tag of a device. -/
def layout : Layout UInt32 where
  title := "struct variant Locality::Gpu"
  blank := 0
  fields := [.need "device_id" Draft.readWord32 fun id _ => id]

/-- Reads a locality that stands in one list. -/
def read (draft : Draft) : Except ReadFailure Locality := do
  let (device, body) ←
    splitTagged "Locality" "type" (Draft.readTag isDevice? known) (maxDepth - 1) draft
  if device then return .gpu (← layout.readBody body)
  else
    readAlone body
    return .cpu

/-- The written form of a locality. -/
def document : Locality → Json
  | .cpu => .object [("type", .string "cpu")]
  | .gpu device => .object [("type", .string "gpu"), ("device_id", .number device.toNat)]

end Locality

namespace Entry

/-- What an entry consists of. -/
def layout : Layout Entry where
  title := "struct CacheEntry"
  blank := default
  fields :=
    [.need "name" Draft.readString fun name entry => { entry with name },
     .need "handle" Draft.readString fun handle entry => { entry with handle },
     .need "shape" (Draft.readList Draft.readExtent) fun shape entry => { entry with shape },
     .need "dtype" Draft.readString fun dtype entry => { entry with dtype },
     .need "size_bytes" Draft.readWord fun size entry => { entry with size },
     .need "hit_count" Draft.readWord fun hits entry => { entry with hits },
     .need "locality" Locality.read fun locality entry => { entry with locality },
     .need "kind" ObjectKind.read fun kind entry => { entry with kind }]

/-- Reads an entry from its written form. -/
def ofText (text : String) : Except ReadFailure Entry :=
  readText (layout.read .text) text

/-- The written form of an entry. -/
def document (entry : Entry) : Json :=
  .object
    [("name", .string entry.name),
     ("handle", .string entry.handle),
     ("shape", .array (entry.shape.map fun extent => .number extent.toNat)),
     ("dtype", .string entry.dtype),
     ("size_bytes", .number entry.size.toNat),
     ("hit_count", .number entry.hits.toNat),
     ("locality", entry.locality.document),
     ("kind", .string entry.kind.text)]

end Entry

end SegmentCache
