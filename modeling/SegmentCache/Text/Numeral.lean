/-!
# Numerals

Reading unsigned numbers from decimal text and writing the hexadecimal counters that appear in
segment handles.
-/

namespace SegmentCache.Text

/-- Why a text is not an unsigned number below a given bound. -/
inductive NumeralFault where
  /-- There is no text at all. -/
  | empty
  /-- A character is not a digit. -/
  | invalidDigit
  /-- The digits read so far already reach the bound. -/
  | tooLarge
  deriving DecidableEq, Repr

/-- The wording of a numeral fault. -/
def NumeralFault.message : NumeralFault → String
  | .empty => "cannot parse integer from empty string"
  | .invalidDigit => "invalid digit found in string"
  | .tooLarge => "number too large to fit in target type"

/-- The value of a decimal digit. -/
def digitValue? (c : Char) : Option Nat :=
  if '0' ≤ c ∧ c ≤ '9' then some (c.toNat - '0'.toNat) else none

/-- Continues a number whose digits so far denote `value`. The first character that spoils the
number decides the fault. -/
def readDigits (bound value : Nat) : List Char → Except NumeralFault Nat
  | [] => .ok value
  | c :: cs =>
    match digitValue? c with
    | none => .error .invalidDigit
    | some d =>
      if value * 10 + d < bound then readDigits bound (value * 10 + d) cs else .error .tooLarge

/-- Reads an unsigned number below `bound`: an optional plus sign and at least one digit. -/
def readNumeral (bound : Nat) : List Char → Except NumeralFault Nat
  | [] => .error .empty
  | ['+'] => .error .invalidDigit
  | '+' :: cs => readDigits bound 0 cs
  | cs => readDigits bound 0 cs

/-- A number in lower-case hexadecimal, padded with zeros to at least `width` digits. -/
def hexPadded (width n : Nat) : String :=
  let digits := Nat.toDigits 16 n
  String.ofList (List.replicate (width - digits.length) '0' ++ digits)

end SegmentCache.Text
