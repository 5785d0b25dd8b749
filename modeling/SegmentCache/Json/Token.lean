import SegmentCache.Json.Number

/-!
# Tokens of JSON text

A text is cut into tokens by a machine that takes one character at a time. A token that breaks off
is a token of its own, and the last one: what it reports depends on whether its value is to be
kept or skipped, since skipped values are looked at less closely.
-/

namespace SegmentCache.Json

/-- What is wrong with a text as such. -/
inductive Flaw where
  /-- The text ends too early. -/
  | truncated
  /-- Something stands where it may not stand. -/
  | malformed
  deriving DecidableEq, Repr

/-- A token. -/
inductive Token where
  | openArray
  | closeArray
  | openObject
  | closeObject
  | comma
  | colon
  | null
  | bool (value : Bool)
  | number (value : Number)
  /-- A string. One that names half a surrogate pair has no text and can only be skipped. -/
  | string (text : Option String)
  /-- A string that breaks off, with its flaw when it is kept and when it is skipped. -/
  | brokenString (kept skipped : Flaw)
  /-- Anything else that breaks off, likewise. -/
  | broken (kept skipped : Flaw)
  deriving DecidableEq, Repr

/-- A part of a string. -/
inductive StringPart where
  /-- A character. -/
  | char (c : Char)
  /-- Half a surrogate pair, written by number. -/
  | surrogate (unit : Nat)
  deriving DecidableEq, Repr

/-- The character written as a surrogate pair. -/
def pairedChar (high low : Nat) : Char :=
  Char.ofNat (0x10000 + (high - 0xD800) * 0x400 + (low - 0xDC00))

/-- The text of the parts of a string that ended well or with a flaw. The first surrogate that is
not part of a pair is a flaw of its own. -/
def keepParts (ending : Option Flaw) : List StringPart → Except Flaw (List Char)
  | [] =>
    match ending with
    | none => .ok []
    | some flaw => .error flaw
  | .char c :: rest => (c :: ·) <$> keepParts ending rest
  | [.surrogate unit] =>
    if unit < 0xDC00 then .error (ending.getD .malformed) else .error .malformed
  | .surrogate high :: .surrogate low :: rest =>
    if high < 0xDC00 ∧ 0xDC00 ≤ low then (pairedChar high low :: ·) <$> keepParts ending rest
    else .error .malformed
  | .surrogate _ :: .char _ :: _ => .error .malformed

/-- The token of a string that ended well. Its parts are listed last first. -/
def stringToken (parts : List StringPart) : Token :=
  match keepParts none parts.reverse with
  | .ok cs => .string (some (String.ofList cs))
  | .error _ => .string none

/-- The token of a string that broke off. Its parts are listed last first. -/
def brokenStringToken (flaw : Flaw) (parts : List StringPart) : Token :=
  match keepParts (some flaw) parts.reverse with
  | .ok _ => .brokenString flaw flaw
  | .error kept => .brokenString kept flaw

/-- The value of a hexadecimal digit. -/
def hexValue? (c : Char) : Option Nat :=
  if '0' ≤ c ∧ c ≤ '9' then some (c.toNat - '0'.toNat)
  else if 'a' ≤ c ∧ c ≤ 'f' then some (c.toNat - 'a'.toNat + 10)
  else if 'A' ≤ c ∧ c ≤ 'F' then some (c.toNat - 'A'.toNat + 10)
  else none

/-- The value of hexadecimal digits, listed first to last. -/
def hexNumber? (cs : List Char) : Option Nat :=
  cs.foldlM (fun value c => (hexValue? c).map (value * 16 + ·)) 0

/-- The part of a string written as a number. -/
def numberedPart (n : Nat) : StringPart :=
  if 0xD800 ≤ n ∧ n < 0xE000 then .surrogate n else .char (Char.ofNat n)

/-- What a character stands for behind a backslash. -/
def escaped? (c : Char) : Option Char :=
  if c = '"' ∨ c = '\\' ∨ c = '/' then some c
  else if c = 'b' then some '\x08'
  else if c = 'f' then some '\x0c'
  else if c = 'n' then some '\n'
  else if c = 'r' then some '\r'
  else if c = 't' then some '\t'
  else none

/-- What the scanner is in the middle of. -/
inductive Mode where
  /-- Between tokens. -/
  | between
  /-- In a word, with the letters that are still to come. -/
  | word (rest : List Char) (token : Token)
  /-- In a number. -/
  | number (number : PartialNumber)
  /-- In a string, with its parts last first. -/
  | string (parts : List StringPart)
  /-- Behind a backslash in a string. -/
  | escape (parts : List StringPart)
  /-- In the four digits of a numbered character, with those read so far last first. -/
  | numbered (parts : List StringPart) (digits : List Char)
  /-- Behind a token that broke off. -/
  | stopped

/-- Stops at a character that may not stand where it stands. -/
def stopMalformed : List Token × Mode :=
  ([.broken .malformed .malformed], .stopped)

/-- Takes a character between tokens. -/
def beginToken (c : Char) : List Token × Mode :=
  if c = ' ' ∨ c = '\t' ∨ c = '\n' ∨ c = '\r' then ([], .between)
  else if c = '[' then ([.openArray], .between)
  else if c = ']' then ([.closeArray], .between)
  else if c = '\x7b' then ([.openObject], .between)
  else if c = '\x7d' then ([.closeObject], .between)
  else if c = ',' then ([.comma], .between)
  else if c = ':' then ([.colon], .between)
  else if c = 'n' then ([], .word "ull".toList .null)
  else if c = 't' then ([], .word "rue".toList (.bool true))
  else if c = 'f' then ([], .word "alse".toList (.bool false))
  else if c = '"' then ([], .string [])
  else if c = '-' then ([], .number { phase := .sign, negative := true })
  else if '0' ≤ c ∧ c ≤ '9' then
    let start : PartialNumber := { phase := .sign, negative := false }
    match start.digit? (c.toNat - '0'.toNat) with
    | some n => ([], .number n)
    | none => stopMalformed
  else stopMalformed

/-- Takes a character in a number. A complete number ends before a character that cannot be part
of it. -/
def inNumber (n : PartialNumber) (c : Char) : List Token × Mode :=
  let next :=
    if '0' ≤ c ∧ c ≤ '9' then n.digit? (c.toNat - '0'.toNat) else n.mark? c
  match next with
  | some n => ([], .number n)
  | none =>
    if n.isComplete && !('0' ≤ c && c ≤ '9') then
      let (tokens, mode) := beginToken c
      (.number n.value :: tokens, mode)
    else stopMalformed

/-- Takes a character of a numbered character. Four bytes of text are looked at together. -/
def inNumbered (parts : List StringPart) (digits : List Char) (c : Char) : List Token × Mode :=
  let digits := c :: digits
  if digits.foldl (fun bytes digit => bytes + digit.utf8Size) 0 < 4 then
    ([], .numbered parts digits)
  else
    match hexNumber? digits.reverse with
    | some n =>
      if digits.length = 4 then ([], .string (numberedPart n :: parts))
      else ([brokenStringToken .malformed parts], .stopped)
    | none => ([brokenStringToken .malformed parts], .stopped)

/-- Takes one character: the tokens it completes and what the scanner is in afterwards. -/
def Mode.step (mode : Mode) (c : Char) : List Token × Mode :=
  match mode with
  | .between => beginToken c
  | .word rest token =>
    match rest with
    | [] => ([token], .between)
    | expected :: rest =>
      if c = expected then
        if rest.isEmpty then ([token], .between) else ([], .word rest token)
      else stopMalformed
  | .number n => inNumber n c
  | .string parts =>
    if c = '"' then ([stringToken parts], .between)
    else if c = '\\' then ([], .escape parts)
    else if c.toNat < 0x20 then ([brokenStringToken .malformed parts], .stopped)
    else ([], .string (.char c :: parts))
  | .escape parts =>
    if c = 'u' then ([], .numbered parts [])
    else
      match escaped? c with
      | some c => ([], .string (.char c :: parts))
      | none => ([brokenStringToken .malformed parts], .stopped)
  | .numbered parts digits => inNumbered parts digits c
  | .stopped => ([], .stopped)

/-- What is left when the text ends. -/
def Mode.finish : Mode → List Token
  | .between | .stopped => []
  | .word _ _ => [.broken .truncated .truncated]
  | .number n =>
    if n.isComplete then [.number n.value] else [.broken .truncated .malformed]
  | .string parts | .escape parts | .numbered parts _ => [brokenStringToken .truncated parts]

/-- The tokens of a text, for a scanner that is in the middle of something. -/
def scan (mode : Mode) : List Char → List Token
  | [] => mode.finish
  | c :: cs =>
    let (tokens, mode) := mode.step c
    tokens ++ scan mode cs

/-- The tokens of a text. -/
def tokens (text : String) : List Token :=
  scan .between text.toList

end SegmentCache.Json
