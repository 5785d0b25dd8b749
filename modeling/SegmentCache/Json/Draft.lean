import SegmentCache.Json.Token

/-!
# Documents as far as they can be read

A draft is the tree of a document up to the first flaw of its text. The flaw stays in its place,
so that a reader who goes through the tree from left to right meets whatever is wrong in the order
of the text: a value of the wrong type before a bracket that is missing behind it.
-/

namespace SegmentCache.Json

/-- How a list of items or members ends. -/
inductive Ending where
  /-- With its closing bracket. -/
  | closed
  /-- With neither a comma nor a closing bracket. -/
  | flaw (flaw : Flaw)
  deriving DecidableEq, Repr

/-- The name of a member. -/
inductive Key where
  /-- A name. -/
  | name (text : String)
  /-- A name with half a surrogate pair, which can only be skipped. -/
  | unpaired
  /-- No name stands here. The flaw depends on whether the object is kept or skipped. -/
  | missing (kept skipped : Flaw)
  deriving DecidableEq, Repr

/-- A document as far as it can be read. -/
inductive Draft where
  | null
  | bool (value : Bool)
  | number (value : Number)
  | string (text : String)
  /-- A string with half a surrogate pair, which can only be skipped. -/
  | unpaired
  | array (items : List Draft) (ending : Ending)
  | object (members : List (Key × Draft)) (ending : Ending)
  /-- No value stands here. -/
  | absent (flaw : Flaw)
  /-- A string that breaks off. -/
  | brokenString (kept skipped : Flaw)
  /-- Anything else that breaks off. -/
  | broken (kept skipped : Flaw)
  deriving Inhabited

/-- A list of items or members whose end has not been reached. -/
inductive Frame where
  /-- An array with its items so far, last first. -/
  | array (items : List Draft)
  /-- An object with its members so far, last first, and the name that waits for its value. -/
  | object (members : List (Key × Draft)) (pending : Option Key)

/-- What may come next. -/
inductive Expecting where
  /-- A value. -/
  | value
  /-- The first item of an array or its end. -/
  | firstItem
  /-- The first member of an object or its end. -/
  | firstKey
  /-- The next member of an object. -/
  | nextKey
  /-- The colon behind a name. -/
  | colon
  /-- A comma or the end of an array or object. -/
  | separator
  deriving DecidableEq, Repr

/-- The whole document when reading stops at a part of it. -/
def abandon (part : Draft) : List Frame → Draft
  | [] => part
  | .array items :: frames =>
    abandon (.array (items.reverse ++ [part]) (.flaw .malformed)) frames
  | .object members pending :: frames =>
    let key := pending.getD (.missing .malformed .malformed)
    abandon (.object (members.reverse ++ [(key, part)]) (.flaw .malformed)) frames

/-- The whole document when the innermost list does not go on as it should. -/
def breakOff (flaw : Flaw) : List Frame → Draft
  | [] => .absent flaw
  | .array items :: frames => abandon (.array items.reverse (.flaw flaw)) frames
  | .object members _ :: frames => abandon (.object members.reverse (.flaw flaw)) frames

/-- The whole document when the innermost object has no further name. -/
def lackKey (key : Key) : List Frame → Draft
  | .object members _ :: frames =>
    abandon (.object (members.reverse ++ [(key, .absent .malformed)]) (.flaw .malformed)) frames
  | frames => abandon (.absent .malformed) frames

/-- Where a token leads. -/
inductive Step where
  /-- The document goes on. -/
  | more (expecting : Expecting) (frames : List Frame)
  /-- The document ends here. -/
  | done (draft : Draft)

/-- Puts a finished value in its place. -/
def deliver (value : Draft) : List Frame → Step
  | [] => .done value
  | .array items :: frames => .more .separator (.array (value :: items) :: frames)
  | .object members pending :: frames =>
    let key := pending.getD (.missing .malformed .malformed)
    .more .separator (.object ((key, value) :: members) none :: frames)

/-- Takes a token where a value may come. -/
def takeValue (frames : List Frame) : Token → Step
  | .openArray => .more .firstItem (.array [] :: frames)
  | .openObject => .more .firstKey (.object [] none :: frames)
  | .null => deliver .null frames
  | .bool value => deliver (.bool value) frames
  | .number value => deliver (.number value) frames
  | .string (some text) => deliver (.string text) frames
  | .string none => deliver .unpaired frames
  | .brokenString kept skipped => .done (abandon (.brokenString kept skipped) frames)
  | .broken kept skipped => .done (abandon (.broken kept skipped) frames)
  | .closeArray | .closeObject | .comma | .colon =>
    .done (abandon (.broken .malformed .malformed) frames)

/-- Takes a token where a name has to come. -/
def takeKey (frames : List Frame) (token : Token) : Step :=
  match token, frames with
  | .string (some text), .object members _ :: frames =>
    .more .colon (.object members (some (.name text)) :: frames)
  | .string none, .object members _ :: frames =>
    .more .colon (.object members (some .unpaired) :: frames)
  | .brokenString kept skipped, frames => .done (lackKey (.missing kept skipped) frames)
  | _, frames => .done (lackKey (.missing .malformed .malformed) frames)

/-- Takes a token where a list may go on or end. -/
def takeSeparator (frames : List Frame) (token : Token) : Step :=
  match token, frames with
  | .comma, .array _ :: _ => .more .value frames
  | .comma, .object _ _ :: _ => .more .nextKey frames
  | .closeArray, .array items :: frames => deliver (.array items.reverse .closed) frames
  | .closeObject, .object members _ :: frames =>
    deliver (.object members.reverse .closed) frames
  | _, frames => .done (breakOff .malformed frames)

/-- Takes a token. -/
def advance (expecting : Expecting) (frames : List Frame) (token : Token) : Step :=
  match expecting with
  | .value => takeValue frames token
  | .firstItem =>
    if token = .closeArray then takeSeparator frames token else takeValue frames token
  | .firstKey =>
    if token = .closeObject then takeSeparator frames token else takeKey frames token
  | .nextKey => takeKey frames token
  | .colon =>
    if token = .colon then .more .value frames
    else .done (abandon (.absent .malformed) frames)
  | .separator => takeSeparator frames token

/-- The document when the text ends. -/
def atEnd (expecting : Expecting) (frames : List Frame) : Draft :=
  match expecting with
  | .value | .colon => abandon (.absent .truncated) frames
  | .firstItem | .firstKey | .separator => breakOff .truncated frames
  | .nextKey =>
    lackKey (.missing .truncated .truncated) frames

/-- Builds a document from tokens, and gives the tokens behind it. -/
def build (expecting : Expecting) (frames : List Frame) : List Token → Draft × List Token
  | [] => (atEnd expecting frames, [])
  | token :: rest =>
    match advance expecting frames token with
    | .more expecting frames => build expecting frames rest
    | .done draft => (draft, rest)

/-- The document at the beginning of a text, and the tokens behind it. -/
def Draft.ofText (text : String) : Draft × List Token :=
  build .value [] (tokens text)

/-- The flaw with which a list ends, if there is one. -/
def Ending.check : Ending → Except Flaw Unit
  | .closed => .ok ()
  | .flaw reason => .error reason

namespace Draft

mutual

/-- Goes over a value that is skipped. -/
def skip : Draft → Except Flaw Unit
  | .null | .bool _ | .number _ | .string _ | .unpaired => .ok ()
  | .array items ending => do skipItems items; ending.check
  | .object members ending => do skipMembers members; ending.check
  | .absent flaw => .error flaw
  | .brokenString _ skipped | .broken _ skipped => .error skipped

/-- Goes over items that are skipped. -/
def skipItems : List Draft → Except Flaw Unit
  | [] => .ok ()
  | item :: items => do skip item; skipItems items

/-- Goes over members that are skipped. -/
def skipMembers : List (Key × Draft) → Except Flaw Unit
  | [] => .ok ()
  | (.missing _ skipped, _) :: _ => .error skipped
  | (_, value) :: members => do skip value; skipMembers members

end

mutual

/-- Goes over a value that is kept, with at most that many lists within each other. -/
def check (depth : Nat) : Draft → Except Flaw Unit
  | .null | .bool _ | .string _ => .ok ()
  | .number .tooLarge => .error .malformed
  | .number _ => .ok ()
  | .unpaired => .error .malformed
  | .array items ending =>
    if depth = 0 then .error .malformed else do checkItems (depth - 1) items; ending.check
  | .object members ending =>
    if depth = 0 then .error .malformed else do checkMembers (depth - 1) members; ending.check
  | .absent flaw => .error flaw
  | .brokenString kept _ | .broken kept _ => .error kept

/-- Goes over items that are kept. -/
def checkItems (depth : Nat) : List Draft → Except Flaw Unit
  | [] => .ok ()
  | item :: items => do check depth item; checkItems depth items

/-- Goes over members that are kept. -/
def checkMembers (depth : Nat) : List (Key × Draft) → Except Flaw Unit
  | [] => .ok ()
  | (.missing kept _, _) :: _ => .error kept
  | (.unpaired, _) :: _ => .error .malformed
  | (.name _, value) :: members => do check depth value; checkMembers depth members

end

end Draft

end SegmentCache.Json
