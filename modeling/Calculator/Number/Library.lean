import Calculator.Fault
import Calculator.Number.Double

/-!
# Numbers in the language and its library

Functions of the mathematical library refuse arguments for which they are not defined, and do not
return values that are too large. A division refuses a zero below the line, and the whole part of a
double is taken of finite ones only.
-/

set_option autoImplicit false

namespace Calculator

/-! ## The mathematical library -/

namespace Library

/-- A function of angles, which no infinity is. -/
def ofAngle (f : Float → Float) (x : Float) : Except MathFault Float :=
  if Double.isInfinite x then .error .domain else .ok (f x)

/-- A logarithm, of positive numbers only. -/
def ofPositive (f : Float → Float) (x : Float) : Except MathFault Float :=
  if Double.isZero x || Double.isBelowZero x then .error .domain else .ok (f x)

/-- The exponential function. -/
def exp (x : Float) : Except MathFault Float :=
  if Double.isFinite x && Double.isInfinite x.exp then .error .range else .ok x.exp

/-- The square root. -/
def sqrt (x : Float) : Except MathFault Float :=
  if Double.isBelowZero x then .error .domain else .ok x.sqrt

/-- The absolute value. -/
def abs (x : Float) : Except MathFault Float := .ok x.abs

end Library

/-! ## Operations of the language -/

/-- A quotient. -/
def divide (x y : Float) : Except Fault Float :=
  if Double.isZero y then .error .divisionByZero else .ok (x / y)

/-- Whether a double is a whole number. -/
def isWhole (x : Float) : Bool := (Double.toInt? x).isSome

/-- The whole part of a double. -/
def wholePart (x : Float) : Except Fault Int :=
  match Double.ofFloat x with
  | .nan => .error .integerOfNaN
  | .infinite _ => .error .integerOfInfinity
  | .finite negative bits =>
      let magnitude := Int.ofNat (Double.units bits / Double.unitsPerOne)
      .ok (if negative then -magnitude else magnitude)

/-- A whole number is its own whole part. -/
theorem wholePart_of_toInt? {x : Float} {n : Int} (h : Double.toInt? x = some n) :
    wholePart x = .ok n := by
  unfold Double.toInt? at h
  unfold wholePart
  split at h
  · next negative bits hx =>
      rw [hx]
      split at h
      · exact congrArg Except.ok (Option.some.inj h)
      · cases h
  · cases h

end Calculator
