import Calculator.Number.HalfEven

/-!
# Doubles

A `Float` is looked at through its bit pattern. Without the sign bit, the patterns of the finite
doubles are the numbers below `infinityBits`, in the order of the values they stand for. The least
positive double, `2 ^ -1074`, is the unit in which every finite magnitude is a whole number:
`units bits` counts them. In the other direction `nearestBits num den` is the pattern of the
double nearest to the quotient `num / den`.
-/

set_option autoImplicit false

namespace Calculator

/-- A double taken apart: not a number, an infinity, or a sign and the pattern of its magnitude. -/
inductive Double where
  | nan
  | infinite (negative : Bool)
  | finite (negative : Bool) (bits : Nat)
deriving DecidableEq, Repr

namespace Double

/-- How often the least positive double fits into `1`. -/
def unitsPerOne : Nat := Nat.pow 2 1074

/-- The pattern of positive infinity; the finite magnitudes have the patterns below it. -/
def infinityBits : Nat := 2047 * Nat.pow 2 52

/-- The pattern of the sign bit alone. -/
def signBit : Nat := Nat.pow 2 63

/-- The magnitude that a pattern stands for, counted in least positive doubles. Below `2 ^ 52` the
pattern is that count itself; above, each further step of the exponent doubles the spacing. -/
def units (bits : Nat) : Nat :=
  if bits < Nat.pow 2 52 then bits
  else (Nat.pow 2 52 + bits % Nat.pow 2 52) * Nat.pow 2 (bits / Nat.pow 2 52 - 1)

/-- The pattern of the double nearest to `num / den`, a half going to the even pattern. Quotients
beyond the largest double give `infinityBits`. -/
def nearestBits (num den : Nat) : Nat :=
  let scaled := num * unitsPerOne
  -- the spacing of doubles around the quotient is `2 ^ shift` units
  let shift := (scaled / den).log2 - 52
  -- a carry out of the significand goes into the exponent, as the patterns are in order
  min (shift * Nat.pow 2 52 + roundHalfEven scaled (den * Nat.pow 2 shift)) infinityBits

theorem nearestBits_le (num den : Nat) : nearestBits num den ≤ infinityBits :=
  Nat.min_le_right _ _

/-- Take a double apart. -/
def ofFloat (x : Float) : Double :=
  let pattern := x.toBits.toNat
  let bits := pattern % signBit
  if bits < infinityBits then .finite (signBit ≤ pattern) bits
  else if bits = infinityBits then .infinite (signBit ≤ pattern)
  else .nan

/-- The double with a given sign and pattern. -/
def withSign (negative : Bool) (bits : Nat) : Float :=
  Float.ofBits (UInt64.ofNat (if negative then signBit + bits else bits))

/-- Put a double together again. -/
def toFloat : Double → Float
  | .nan => Float.ofBits 0x7ff8000000000000
  | .infinite negative => withSign negative infinityBits
  | .finite negative bits => withSign negative bits

/-- Positive infinity. -/
def infinity : Float := (Double.infinite false).toFloat

/-- Negative infinity. -/
def negInfinity : Float := (Double.infinite true).toFloat

/-- Not a number. -/
def notANumber : Float := Double.nan.toFloat

/-- The sign bit is set, also for a negative zero. -/
def isNegative (x : Float) : Bool :=
  signBit ≤ x.toBits.toNat

/-- A zero or another number that is neither infinite nor missing. -/
def isFinite (x : Float) : Bool :=
  match ofFloat x with
  | .finite _ _ => true
  | _ => false

/-- An infinity of either sign. -/
def isInfinite (x : Float) : Bool :=
  match ofFloat x with
  | .infinite _ => true
  | _ => false

/-- Positive or negative zero. -/
def isZero (x : Float) : Bool :=
  match ofFloat x with
  | .finite _ 0 => true
  | _ => false

/-- Smaller than zero: negative zero is not. -/
def isBelowZero (x : Float) : Bool :=
  match ofFloat x with
  | .finite negative bits => negative && bits ≠ 0
  | .infinite negative => negative
  | .nan => false

/-- The whole number that a finite double equals, if it equals one. -/
def toInt? (x : Float) : Option Int :=
  match ofFloat x with
  | .finite negative bits =>
      if units bits % unitsPerOne = 0 then
        let magnitude := Int.ofNat (units bits / unitsPerOne)
        some (if negative then -magnitude else magnitude)
      else none
  | _ => none

/-- The double nearest to a whole number, unless the number is beyond the largest double. -/
def ofInt? (n : Int) : Option Float :=
  let bits := nearestBits n.natAbs 1
  if bits < infinityBits then some (withSign (n < 0) bits) else none

end Double

end Calculator
