import Calculator.Number.Library

/-!
# Powers

`powerBy checked base exponent` is defined on every pair of doubles. The library function `checked`
is consulted for the value; it refuses operands whose power leaves the doubles, and then sign and
kind of the result are fixed here: an overflow is an infinity, negative exactly for a negative base
and an odd exponent, a zero raised to a negative power is an infinity that takes the sign of the
zero if the exponent is odd, and a negative base with an exponent that is no whole number has no
result.
-/

set_option autoImplicit false

namespace Calculator

/-- An odd whole number. -/
def isOddInteger (x : Float) : Bool :=
  match Double.toInt? x with
  | some n => n % 2 = 1
  | none => false

/-- An infinity with a given sign. -/
def signedInfinity (negative : Bool) : Float :=
  (Double.infinite negative).toFloat

/-! ## The library function -/

/-- A zero raised to a negative power. -/
def isPole (base exponent : Float) : Bool :=
  Double.isZero base && Double.isBelowZero exponent

/-- A negative base with a fractional exponent. -/
def isUndefinedPower (base exponent : Float) : Bool :=
  Double.isFinite base && Double.isBelowZero base && Double.isFinite exponent &&
    (Double.toInt? exponent).isNone

/-- Finite operands whose power, as computed, is infinite. -/
def overflows (base exponent result : Float) : Bool :=
  Double.isFinite base && !Double.isZero base && Double.isFinite exponent &&
    Double.isInfinite result

/-- The library function, which computes as `pow` does but refuses a pole, a power that is not
defined, and an overflow. -/
def checkedPower (pow : Float → Float → Float) (base exponent : Float) :
    Except MathFault Float :=
  let result := pow base exponent
  if isPole base exponent || isUndefinedPower base exponent then .error .domain
  else if overflows base exponent result then .error .range
  else .ok result

/-! ## Powers without refusals -/

/-- `base` raised to `exponent` by a function that may refuse them. -/
def powerBy (checked : Float → Float → Except MathFault Float) (base exponent : Float) : Float :=
  match checked base exponent with
  | .ok result => result
  | .error .range => signedInfinity (Double.isBelowZero base && isOddInteger exponent)
  | .error .domain =>
      if Double.isZero base then
        signedInfinity (isOddInteger exponent && Double.isNegative base)
      else Double.notANumber

end Calculator
