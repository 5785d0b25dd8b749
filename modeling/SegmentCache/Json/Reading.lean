import SegmentCache.Json.Draft
import SegmentCache.Text.Quoted

/-!
# Reading values from drafts

Readers turn drafts into values of the program. A reader reports the first thing that is wrong in
the order of the text, be it a flaw of the text or a value that is not what is expected.

Records are described by their fields in order. They can be written as objects, with the members
in any order, or as arrays, with one item for each field.
-/

namespace SegmentCache.Json

/-- What stands where something else is expected. -/
inductive Found where
  | null
  | boolean (value : Bool)
  | integer (value : Int)
  | real (negative : Bool) (value : Binary64)
  | string (text : String)
  | sequence
  | map
  deriving DecidableEq, Repr

/-- The wording for what was found. -/
def Found.text : Found → String
  | .null => "null"
  | .boolean value => s!"boolean `{value}`"
  | .integer value => s!"integer `{value}`"
  | .real negative value => "floating point `" ++ realText negative value ++ "`"
  | .string text => "string " ++ Text.quoted text
  | .sequence => "sequence"
  | .map => "map"

/-- Why a document is not what is expected. -/
inductive Mismatch where
  /-- A value has the wrong type. -/
  | wrongType (found : Found) (expected : String)
  /-- A value has the right type but may not be there. -/
  | wrongValue (found : Found) (expected : String)
  /-- A list has the wrong length. -/
  | wrongLength (length : Nat) (expected : String)
  /-- A name is not among those that are known. -/
  | unknownVariant (name : String) (known : List String)
  /-- A field is needed and missing. -/
  | missingField (name : String)
  /-- A field is there twice. -/
  | duplicateField (name : String)
  deriving DecidableEq, Repr

/-- The known names in a diagnostic. -/
def knownNames : List String → String
  | [a, b] => s!"`{a}` or `{b}`"
  | names => "one of " ++ String.intercalate ", " (names.map fun name => s!"`{name}`")

/-- The wording of a mismatch. -/
def Mismatch.message : Mismatch → String
  | .wrongType found expected => s!"invalid type: {found.text}, expected {expected}"
  | .wrongValue found expected => s!"invalid value: {found.text}, expected {expected}"
  | .wrongLength length expected => s!"invalid length {length}, expected {expected}"
  | .unknownVariant name known => s!"unknown variant `{name}`, expected " ++ knownNames known
  | .missingField name => s!"missing field `{name}`"
  | .duplicateField name => s!"duplicate field `{name}`"

/-- Why a text cannot be read. -/
inductive ReadFailure where
  /-- The text is not a document. -/
  | flaw (flaw : Flaw)
  /-- The document is not what is expected. -/
  | mismatch (mismatch : Mismatch)
  deriving DecidableEq, Repr

/-- The result of a check on the text as the result of a reader. -/
def flawed {α : Type} : Except Flaw α → Except ReadFailure α
  | .ok a => .ok a
  | .error reason => .error (.flaw reason)

namespace Draft

/-- What a draft is, or the flaw that keeps it from being anything. -/
def found : Draft → Except Flaw Found
  | .null => .ok .null
  | .bool value => .ok (.boolean value)
  | .number (.natural value) => .ok (.integer value.toNat)
  | .number (.negative magnitude) => .ok (.integer (-magnitude))
  | .number (.real negative value) => .ok (.real negative value)
  | .number .tooLarge => .error .malformed
  | .string text => .ok (.string text)
  | .unpaired => .error .malformed
  | .array _ _ => .ok .sequence
  | .object _ _ => .ok .map
  | .absent flaw => .error flaw
  | .brokenString kept _ | .broken kept _ => .error kept

/-- The failure to find something else than a draft. -/
def unexpected (draft : Draft) (expected : String) : ReadFailure :=
  match draft.found with
  | .ok found => .mismatch (.wrongType found expected)
  | .error reason => .flaw reason

/-- Reads a text. -/
def readString : Draft → Except ReadFailure String
  | .string text => .ok text
  | draft => .error (draft.unexpected "a string")

/-- Reads a path that may be left open. -/
def readPath : Draft → Except ReadFailure (Option String)
  | .null => .ok none
  | .string text => .ok (some text)
  | draft => .error (draft.unexpected "path string")

/-- Reads a truth value. -/
def readBool : Draft → Except ReadFailure Bool
  | .bool value => .ok value
  | draft => .error (draft.unexpected "a boolean")

/-- Reads a whole number below a bound, which is known under a name. -/
def readBelow (bound : Nat) (name : String) : Draft → Except ReadFailure UInt64
  | .number (.natural value) =>
    if value.toNat < bound then .ok value
    else .error (.mismatch (.wrongValue (.integer value.toNat) name))
  | .number (.negative magnitude) =>
    .error (.mismatch (.wrongValue (.integer (-magnitude)) name))
  | draft => .error (draft.unexpected name)

/-- Reads a 64-bit word. -/
def readWord (draft : Draft) : Except ReadFailure UInt64 :=
  draft.readBelow UInt64.size "u64"

/-- Reads the extent of an array. -/
def readExtent (draft : Draft) : Except ReadFailure UInt64 :=
  draft.readBelow UInt64.size "usize"

/-- Reads a 32-bit word. -/
def readWord32 (draft : Draft) : Except ReadFailure UInt32 :=
  UInt64.toUInt32 <$> draft.readBelow UInt32.size "u32"

/-- Reads the items of a list in turn. -/
def readEach {α : Type} (read : Draft → Except ReadFailure α) :
    List Draft → Except ReadFailure (List α)
  | [] => .ok []
  | item :: items => do
    let a ← read item
    let rest ← readEach read items
    return a :: rest

/-- Reads a list. -/
def readList {α : Type} (read : Draft → Except ReadFailure α) :
    Draft → Except ReadFailure (List α)
  | .array items ending => do
    let values ← readEach read items
    flawed ending.check
    return values
  | draft => .error (draft.unexpected "a sequence")

/-- Reads one of several names. -/
def readVariant {α : Type} (ofText? : String → Option α) (known : List String) (name : String) :
    Except ReadFailure α :=
  match ofText? name with
  | some a => .ok a
  | none => .error (.mismatch (.unknownVariant name known))

/-- Reads the name of a variant. -/
def readTag {α : Type} (ofText? : String → Option α) (known : List String) :
    Draft → Except ReadFailure α
  | .string name => readVariant ofText? known name
  | draft => .error (draft.unexpected "variant identifier")

end Draft

/-- A field of a record. -/
structure Field (α : Type) where
  /-- The name of the field. -/
  name : String
  /-- Whether the field has to be there. -/
  required : Bool
  /-- Reads the field and puts it into a record. -/
  read : Draft → α → Except ReadFailure α

/-- A required field from a reader of its values. -/
def Field.need {α β : Type} (name : String) (read : Draft → Except ReadFailure β)
    (set : β → α → α) : Field α where
  name := name
  required := true
  read draft record := (set · record) <$> read draft

/-- A field that may be left out, from a reader of its values. -/
def Field.allow {α β : Type} (name : String) (read : Draft → Except ReadFailure β)
    (set : β → α → α) : Field α :=
  { Field.need name read set with required := false }

/-- What a record consists of. -/
structure Layout (α : Type) where
  /-- What the record is called in diagnostics. -/
  title : String
  /-- The record before any field is read; fields that may be left out have their defaults. -/
  blank : α
  /-- The fields in order. -/
  fields : List (Field α)

/-- Where a record is read from. -/
inductive Origin where
  /-- A text, as it comes. -/
  | text
  /-- A document that has been read before. -/
  | document
  deriving DecidableEq, Repr

/-- The failure of an array that goes on behind the last field. In a text, something stands where
the array has to end; a document has an array of the wrong length. -/
def Origin.tooLong : Origin → Nat → ReadFailure
  | .text, _ => .flaw .malformed
  | .document, length => .mismatch (.wrongLength length "fewer elements in array")

/-- A count of elements in words. -/
def elements (count : Nat) : String :=
  if count = 1 then "1 element" else s!"{count} elements"

namespace Layout

variable {α : Type}

/-- The field with a name. -/
def field? (layout : Layout α) (name : String) : Option (Field α) :=
  layout.fields.find? (·.name = name)

/-- Reads members in turn. `seen` lists the names of the fields that have been read. The values of
other members are passed over by `pass`. -/
def readMembers (layout : Layout α) (pass : Draft → Except ReadFailure Unit)
    (seen : List String) (record : α) :
    List (Key × Draft) → Except ReadFailure (List String × α)
  | [] => .ok (seen, record)
  | (.missing kept _, _) :: _ => .error (.flaw kept)
  | (.unpaired, _) :: _ => .error (.flaw .malformed)
  | (.name name, value) :: members =>
    match layout.field? name with
    | none => do
      pass value
      layout.readMembers pass seen record members
    | some field =>
      if name ∈ seen then .error (.mismatch (.duplicateField name))
      else do
        let record ← field.read value record
        layout.readMembers pass (name :: seen) record members

/-- Makes sure that no required field is missing. -/
def checkSeen (layout : Layout α) (seen : List String) : Except ReadFailure Unit :=
  match layout.fields.find? fun field => field.required && !(field.name ∈ seen) with
  | some field => .error (.mismatch (.missingField field.name))
  | none => .ok ()

/-- The failure of an array that ends before a required field. -/
def tooShort (layout : Layout α) (position : Nat) : ReadFailure :=
  .mismatch (.wrongLength position
    (layout.title ++ " with " ++ elements layout.fields.length))

/-- Reads items for the fields from a position on, and gives the items that are left. -/
def readItems (layout : Layout α) (ending : Ending) (position : Nat) (record : α) :
    List (Field α) → List Draft → Except ReadFailure (α × List Draft)
  | [], items => .ok (record, items)
  | field :: fields, item :: items => do
    let record ← field.read item record
    layout.readItems ending (position + 1) record fields items
  | field :: fields, [] => do
    flawed ending.check
    if field.required then .error (layout.tooShort position)
    else layout.readItems ending (position + 1) record fields []

/-- Reads a record as it comes. Members that are not fields are skipped. -/
def read (layout : Layout α) (origin : Origin) : Draft → Except ReadFailure α
  | .object members ending => do
    let (seen, record) ←
      layout.readMembers (fun value => flawed value.skip) [] layout.blank members
    flawed ending.check
    layout.checkSeen seen
    return record
  | .array items ending => do
    let (record, rest) ← layout.readItems ending 0 layout.blank layout.fields items
    if rest.isEmpty then flawed ending.check else .error (origin.tooLong items.length)
    return record
  | draft => .error (draft.unexpected layout.title)

end Layout

/-- What stands beside the tag of a tagged record. -/
inductive Body where
  /-- The other members of an object. -/
  | members (members : List (Key × Draft))
  /-- The further items of an array. -/
  | items (items : List Draft)

/-- Finds the tag among members and makes sure that the others are sound. A tag that is wrong or
repeated is reported where it stands. -/
def readTagged {τ : Type} (tagName : String) (readTag : Draft → Except ReadFailure τ)
    (depth : Nat) (tag : Option τ) (others : List (Key × Draft)) :
    List (Key × Draft) → Except ReadFailure (Option τ × List (Key × Draft))
  | [] => .ok (tag, others.reverse)
  | (.missing kept _, _) :: _ => .error (.flaw kept)
  | (.unpaired, _) :: _ => .error (.flaw .malformed)
  | (.name name, value) :: members =>
    if name = tagName then
      if tag.isSome then .error (.mismatch (.duplicateField tagName))
      else do
        let tag ← readTag value
        readTagged tagName readTag depth (some tag) others members
    else do
      flawed (value.check depth)
      readTagged tagName readTag depth tag ((.name name, value) :: others) members

/-- Splits a tagged record into its tag and the rest, which is read whole before it is looked at.
At most `depth` lists may stand within each other. -/
def splitTagged {τ : Type} (title tagName : String) (readTag : Draft → Except ReadFailure τ)
    (depth : Nat) : Draft → Except ReadFailure (τ × Body)
  | .array items ending =>
    match items with
    | [] => do
      flawed ending.check
      .error (.mismatch (.missingField tagName))
    | first :: rest => do
      let tag ← readTag first
      flawed (Draft.checkItems (depth - 1) rest)
      flawed ending.check
      return (tag, .items rest)
  | .object members ending => do
    let (tag, others) ← readTagged tagName readTag (depth - 1) none [] members
    flawed ending.check
    match tag with
    | none => .error (.mismatch (.missingField tagName))
    | some tag => return (tag, .members others)
  | draft => .error (draft.unexpected ("internally tagged enum " ++ title))

/-- Refuses items behind those that are taken. -/
def checkRest (taken : Nat) (rest : List Draft) : Except ReadFailure Unit :=
  if rest.isEmpty then .ok ()
  else
    .error (.mismatch (.wrongLength (taken + rest.length) (elements taken ++ " in sequence")))

/-- Reads the record beside a tag. Members that are not fields are passed over. -/
def Layout.readBody {α : Type} (layout : Layout α) : Body → Except ReadFailure α
  | .members members => do
    let (seen, record) ← layout.readMembers (fun _ => .ok ()) [] layout.blank members
    layout.checkSeen seen
    return record
  | .items items => do
    let (record, rest) ← layout.readItems .closed 0 layout.blank layout.fields items
    checkRest layout.fields.length rest
    return record

/-- Makes sure that nothing counts beside a tag that stands alone. -/
def readAlone : Body → Except ReadFailure Unit
  | .members _ => .ok ()
  | .items items => checkRest 0 items

/-- The number of lists that may stand within each other. -/
def maxDepth : Nat := 127

/-- Reads a whole text. What stands behind the document is looked at last. -/
def readText {α : Type} (read : Draft → Except ReadFailure α) (text : String) :
    Except ReadFailure α := do
  let (draft, rest) := Draft.ofText text
  let value ← read draft
  if rest.isEmpty then return value else .error (.flaw .malformed)

end SegmentCache.Json
