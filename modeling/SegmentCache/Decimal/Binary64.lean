/-!
# Binary floating point numbers

Numbers of the form `mantissa * 2 ^ exponent` with at most 53 bits of mantissa and an exponent of
at least -1074, as the usual double precision format has them. Every operation computes the exact
rational result and rounds it once, to the nearest number of the format and to an even mantissa
when two are equally near.
-/

namespace SegmentCache

/-- A finite number of the format, without its sign. -/
structure Binary64 where
  /-- The digits, at most 53 bits. -/
  mantissa : Nat
  /-- The power of two they are multiplied by, at least -1074. -/
  exponent : Int
  deriving DecidableEq, Repr, Inhabited

namespace Binary64

/-- Zero. -/
def zero : Binary64 where
  mantissa := 0
  exponent := -1074

/-- Whether a number is zero. -/
def isZero (x : Binary64) : Bool :=
  x.mantissa == 0

/-- The fraction `num / den` divided by a power of two. -/
def scaleByTwo (num den : Nat) (exponent : Int) : Nat × Nat :=
  match exponent with
  | .ofNat k => (num, den <<< k)
  | .negSucc k => (num <<< (k + 1), den)

/-- The natural number nearest to `num / den`, the even one when two are equally near. -/
def nearest (num den : Nat) : Nat :=
  let quotient := num / den
  let twice := 2 * (num % den)
  if twice < den then quotient
  else if den < twice then quotient + 1
  else if quotient % 2 = 0 then quotient
  else quotient + 1

/-- The exponent at which `num / den` has 53 bits of mantissa, or the least exponent. -/
def exponentFor (num den : Nat) : Int :=
  let guess : Int := max ((num.log2 : Int) - (den.log2 : Int) - 52) (-1074)
  let (n, d) := scaleByTwo num den guess
  if n / d < 1 <<< 52 then max (guess - 1) (-1074) else guess

/-- The number nearest to `num / den`, or nothing when that is beyond the largest number. -/
def round (num den : Nat) : Option Binary64 :=
  if num = 0 then some zero
  else
    let exponent := exponentFor num den
    let (n, d) := scaleByTwo num den exponent
    let mantissa := nearest n d
    let (mantissa, exponent) :=
      if mantissa = 1 <<< 53 then (1 <<< 52, exponent + 1) else (mantissa, exponent)
    if exponent ≤ 971 then some { mantissa, exponent } else none

/-- A number as a fraction. -/
def fraction (x : Binary64) : Nat × Nat :=
  match x.exponent with
  | .ofNat k => (x.mantissa <<< k, 1)
  | .negSucc k => (x.mantissa, 1 <<< (k + 1))

/-- The product of two numbers. -/
def mul (x y : Binary64) : Option Binary64 :=
  round (x.fraction.1 * y.fraction.1) (x.fraction.2 * y.fraction.2)

/-- The quotient of two numbers. -/
def div (x y : Binary64) : Option Binary64 :=
  round (x.fraction.1 * y.fraction.2) (x.fraction.2 * y.fraction.1)

/-- The number nearest to a power of ten. -/
def tenPower (k : Nat) : Option Binary64 :=
  round (Nat.pow 10 k) 1

/-- Divides by `10 ^ 308` a number of times and then by `10 ^ k`. Zero stays zero. -/
def scaleDown (x : Binary64) (k : Nat) : Nat → Option Binary64
  | 0 => do x.div (← tenPower k)
  | times + 1 =>
    if x.isZero then some x
    else
      match tenPower 308 >>= x.div with
      | none => none
      | some x => scaleDown x k times

/-- The reading of a decimal number: the significand is rounded first and then multiplied or
divided by a rounded power of ten. Nothing is read when the result is beyond the largest number. -/
def ofDecimal (significand : Nat) (exponent : Int) : Option Binary64 :=
  if significand = 0 then some zero
  else
    match round significand 1, exponent with
    | none, _ => none
    | some x, .ofNat k => if k ≤ 308 then tenPower k >>= x.mul else none
    | some x, .negSucc k => x.scaleDown (k + 1 - 308 * (k / 308)) (k / 308)

end Binary64

end SegmentCache
