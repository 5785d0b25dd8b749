import SegmentCache.Decimal.Binary64

/-!
# Shortest decimal text

A number is shown with the fewest decimal digits that still identify it among the numbers of its
format. Of several decimals with that many digits the one nearest to the number is shown.
-/

namespace SegmentCache

/-- A decimal number: `digits * 10 ^ exponent`, with `digits` read as a natural number. -/
structure DecimalDigits where
  /-- The digits as a natural number. -/
  digits : Nat
  /-- The power of ten they are multiplied by. -/
  exponent : Int
  deriving DecidableEq, Repr

namespace Binary64

/-- Whether the next smaller number is only half as far away as the next larger one. -/
def isBoundary (x : Binary64) : Bool :=
  x.mantissa == 1 <<< 52 && decide (-1074 < x.exponent)

/-- The number and the two ends of the interval of reals that round to it, as numerators over one
denominator: low end, number, high end, denominator. -/
def interval (x : Binary64) : Nat × Nat × Nat × Nat :=
  let (num, den) := x.fraction
  let unit := num / x.mantissa
  (4 * num - (if x.isBoundary then unit else 2 * unit), 4 * num, 4 * num + 2 * unit, 4 * den)

/-- The decimal exponent of the leading digit of the positive fraction `num / den`. -/
def leadingExponent (num den : Nat) : Int :=
  if den ≤ num then ((Nat.toDigits 10 (num / den)).length : Int) - 1
  else
    match (List.range 400).find? fun t => den ≤ num * Nat.pow 10 (t + 1) with
    | some t => -((t : Int) + 1)
    | none => 0

/-- The decimal nearest to a positive number among those with a digit count that lie in its
interval. The ends of the interval belong to it when the mantissa is even. -/
def withDigits? (x : Binary64) (count : Nat) : Option DecimalDigits :=
  let (low, num, high, den) := x.interval
  let exponent := leadingExponent num den + 1 - count
  let (up, down) :=
    match exponent with
    | .ofNat k => (1, Nat.pow 10 k)
    | .negSucc k => (Nat.pow 10 (k + 1), 1)
  let (low, num, high, den) := (low * up, num * up, high * up, den * down)
  let inside (c : Nat) : Bool :=
    if x.mantissa % 2 = 0 then low ≤ c * den && c * den ≤ high
    else low < c * den && c * den < high
  let below := num / den
  let above := below + 1
  let nearer := nearest num den
  let farther := if nearer = below then above else below
  if inside nearer then some { digits := nearer, exponent }
  else if inside farther then some { digits := farther, exponent }
  else none

/-- The shortest decimal that identifies a number. Seventeen digits always do. -/
def shortest (x : Binary64) : DecimalDigits :=
  if x.isZero then { digits := 0, exponent := 0 }
  else ((List.range 17).findSome? fun n => x.withDigits? (n + 1)).getD
    { digits := 0, exponent := 0 }

end Binary64

/-- How decimal numbers are laid out. -/
structure DecimalLayout where
  /-- The least exponent of a leading digit that is written positionally. -/
  leastPositional : Int
  /-- The greatest exponent of a leading digit that is written positionally. -/
  greatestPositional : Int

namespace DecimalLayout

/-- Digits without the zeros at their end. -/
def significant (digits : Nat) : List Char :=
  ((Nat.toDigits 10 digits).reverse.dropWhile (· == '0')).reverse

/-- The text of a positive decimal. -/
def text (layout : DecimalLayout) (decimal : DecimalDigits) : String :=
  let all := Nat.toDigits 10 decimal.digits
  let digits := significant decimal.digits
  let leading : Int := decimal.exponent + all.length - 1
  String.ofList <|
    if layout.leastPositional ≤ leading && leading ≤ layout.greatestPositional then
      match leading with
      | .ofNat e =>
        let whole := digits.take (e + 1)
        let places := digits.drop (e + 1)
        whole ++ List.replicate (e + 1 - whole.length) '0' ++ '.' ::
          if places.isEmpty then ['0'] else places
      | .negSucc e => '0' :: '.' :: List.replicate e '0' ++ digits
    else
      let places := digits.drop 1
      digits.take 1 ++ (if places.isEmpty then [] else '.' :: places) ++
        'e' :: (if leading < 0 then '-' else '+') :: Nat.toDigits 10 leading.natAbs

end DecimalLayout

end SegmentCache
