/-!
# JSON documents

Documents as the program writes them, in two layouts: compact, without any blanks, and indented
by two spaces for each level. Object members keep the order in which they are listed.
-/

namespace SegmentCache

/-- A document to be written. The numbers of this program are natural numbers. -/
inductive Json where
  | null
  | bool (value : Bool)
  | number (value : Nat)
  | string (value : String)
  | array (items : List Json)
  | object (members : List (String × Json))
  deriving Inhabited

namespace Json

/-- One character of a string. Quotes, backslashes and controls are escaped. -/
def escapeChar (c : Char) : List Char :=
  if c = '"' then ['\\', '"']
  else if c = '\\' then ['\\', '\\']
  else if c = '\x08' then ['\\', 'b']
  else if c = '\x0c' then ['\\', 'f']
  else if c = '\n' then ['\\', 'n']
  else if c = '\r' then ['\\', 'r']
  else if c = '\t' then ['\\', 't']
  else if c.toNat < 0x20 then
    ['\\', 'u', '0', '0', Nat.digitChar (c.toNat / 16), Nat.digitChar (c.toNat % 16)]
  else [c]

/-- A string between quotes. -/
def stringChars (s : String) : List Char :=
  '"' :: s.toList.flatMap escapeChar ++ ['"']

mutual

/-- The compact writing of a document. -/
def chars : Json → List Char
  | .null => "null".toList
  | .bool true => "true".toList
  | .bool false => "false".toList
  | .number n => Nat.toDigits 10 n
  | .string s => stringChars s
  | .array [] => ['[', ']']
  | .array (item :: items) => '[' :: chars item ++ moreItems items ++ [']']
  | .object [] => ['\x7b', '\x7d']
  | .object (member :: members) =>
    '\x7b' :: memberChars member ++ moreMembers members ++ ['\x7d']

/-- The items after the first, each behind a comma. -/
def moreItems : List Json → List Char
  | [] => []
  | item :: items => ',' :: chars item ++ moreItems items

/-- A member as its name, a colon and its value. -/
def memberChars : String × Json → List Char
  | (name, value) => stringChars name ++ ':' :: chars value

/-- The members after the first, each behind a comma. -/
def moreMembers : List (String × Json) → List Char
  | [] => []
  | member :: members => ',' :: memberChars member ++ moreMembers members

end

/-- The compact text of a document. -/
def compact (doc : Json) : String :=
  String.ofList doc.chars

/-- A new line indented by a number of levels. -/
def newLine (level : Nat) : List Char :=
  '\n' :: List.replicate (2 * level) ' '

mutual

/-- The indented writing of a document that stands at a level. -/
def indentedChars (level : Nat) : Json → List Char
  | .array (item :: items) =>
    '[' :: newLine (level + 1) ++ indentedChars (level + 1) item ++
      moreIndentedItems (level + 1) items ++ newLine level ++ [']']
  | .object (member :: members) =>
    '\x7b' :: newLine (level + 1) ++ indentedMember (level + 1) member ++
      moreIndentedMembers (level + 1) members ++ newLine level ++ ['\x7d']
  | doc => chars doc

/-- The items after the first, each on a line of its own. -/
def moreIndentedItems (level : Nat) : List Json → List Char
  | [] => []
  | item :: items =>
    ',' :: newLine level ++ indentedChars level item ++ moreIndentedItems level items

/-- A member as its name, a colon, a space and its value. -/
def indentedMember (level : Nat) : String × Json → List Char
  | (name, value) => stringChars name ++ ':' :: ' ' :: indentedChars level value

/-- The members after the first, each on a line of its own. -/
def moreIndentedMembers (level : Nat) : List (String × Json) → List Char
  | [] => []
  | member :: members =>
    ',' :: newLine level ++ indentedMember level member ++ moreIndentedMembers level members

end

/-- The indented text of a document. -/
def indented (doc : Json) : String :=
  String.ofList (doc.indentedChars 0)

end Json

end SegmentCache
