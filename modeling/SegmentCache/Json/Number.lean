import SegmentCache.Decimal.Shortest

/-!
# Numbers in JSON text

A number is read character by character. Whole numbers in the range of a signed or unsigned
64-bit word are kept as they are; everything else becomes a floating point number. Digits that no
longer fit into a word beside those before them are dropped, and only their place is remembered.
-/

namespace SegmentCache.Json

/-- What a number in a text denotes. -/
inductive Number where
  /-- A whole number that is not negative. -/
  | natural (value : UInt64)
  /-- The negative whole number with that magnitude. -/
  | negative (magnitude : Nat)
  /-- A floating point number with its sign. -/
  | real (negative : Bool) (value : Binary64)
  /-- A number beyond the largest floating point number. -/
  | tooLarge
  deriving DecidableEq, Repr

/-- How far the reading of a number has got. -/
inductive NumberPhase where
  /-- A minus sign has been read. -/
  | sign
  /-- A leading zero has been read, which no digit may follow. -/
  | zero
  /-- Digits before the point are being read. -/
  | whole
  /-- The point has been read. -/
  | point
  /-- Digits behind the point are being read. -/
  | places
  /-- The letter of the exponent has been read. -/
  | exponentMark
  /-- The sign of the exponent has been read. -/
  | exponentSign
  /-- The digits of the exponent are being read. -/
  | exponent
  deriving DecidableEq, Repr

/-- A number as far as it has been read. -/
structure PartialNumber where
  /-- How far the reading has got. -/
  phase : NumberPhase
  /-- Whether there is a minus sign. -/
  negative : Bool
  /-- The value of the digits that were kept, below `2 ^ 64`. -/
  significand : Nat := 0
  /-- Whether digits of the current part have been dropped. -/
  dropping : Bool := false
  /-- The power of ten by which the kept digits are off. -/
  scale : Int := 0
  /-- Whether a point or an exponent has been read. -/
  fractional : Bool := false
  /-- Whether the exponent is negative. -/
  exponentNegative : Bool := false
  /-- The magnitude of the exponent. -/
  exponent : Nat := 0
  deriving Repr

namespace PartialNumber

/-- Whether the number may end here. -/
def isComplete (n : PartialNumber) : Bool :=
  match n.phase with
  | .zero | .whole | .places | .exponent => true
  | _ => false

/-- Adds a digit before the point. -/
def pushWhole (n : PartialNumber) (digit : Nat) : PartialNumber :=
  if n.dropping || UInt64.size ≤ n.significand * 10 + digit then
    { n with dropping := true, scale := n.scale + 1 }
  else { n with significand := n.significand * 10 + digit }

/-- Adds a digit behind the point. -/
def pushPlace (n : PartialNumber) (digit : Nat) : PartialNumber :=
  if n.dropping || UInt64.size ≤ n.significand * 10 + digit then { n with dropping := true }
  else { n with significand := n.significand * 10 + digit, scale := n.scale - 1 }

/-- Adds a digit of the exponent. -/
def pushExponent (n : PartialNumber) (digit : Nat) : PartialNumber :=
  { n with exponent := n.exponent * 10 + digit }

/-- Goes on with a digit, if one may stand here. -/
def digit? (n : PartialNumber) (digit : Nat) : Option PartialNumber :=
  match n.phase with
  | .sign => some { n.pushWhole digit with phase := if digit = 0 then .zero else .whole }
  | .zero => none
  | .whole => some (n.pushWhole digit)
  | .point | .places => some { n.pushPlace digit with phase := .places }
  | .exponentMark | .exponentSign | .exponent =>
    some { n.pushExponent digit with phase := .exponent }

/-- Goes on with a mark of the number format, if it may stand here. -/
def mark? (n : PartialNumber) (c : Char) : Option PartialNumber :=
  if c = '.' then
    match n.phase with
    | .zero | .whole => some { n with phase := .point, dropping := false, fractional := true }
    | _ => none
  else if c = 'e' ∨ c = 'E' then
    match n.phase with
    | .zero | .whole | .places => some { n with phase := .exponentMark, fractional := true }
    | _ => none
  else if c = '+' ∨ c = '-' then
    match n.phase with
    | .exponentMark => some { n with phase := .exponentSign, exponentNegative := c = '-' }
    | _ => none
  else none

/-- What a complete number denotes. -/
def value (n : PartialNumber) : Number :=
  if !n.fractional && !n.dropping && !n.negative then
    .natural (UInt64.ofNat n.significand)
  else if !n.fractional && !n.dropping && 0 < n.significand && n.significand ≤ 1 <<< 63 then
    .negative n.significand
  else
    let exponent : Int := if n.exponentNegative then -(n.exponent : Int) else n.exponent
    match Binary64.ofDecimal n.significand (n.scale + exponent) with
    | none => .tooLarge
    | some x => .real n.negative x

end PartialNumber

/-- Floating point numbers are shown positionally while the leading digit stands between the fifth
place behind the point and the sixteenth before it. -/
def realLayout : DecimalLayout where
  leastPositional := -5
  greatestPositional := 15

/-- The text of a floating point number. -/
def realText (negative : Bool) (value : Binary64) : String :=
  (if negative then "-" else "") ++
    if value.isZero then "0.0" else realLayout.text value.shortest

end SegmentCache.Json
