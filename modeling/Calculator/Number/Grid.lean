import Calculator.Number.Decimal

/-!
# Decimal grids

The multiples of `10 ^ k` form a grid. A magnitude, counted in least positive doubles as in
`Double.units`, is compared with a grid in exact arithmetic: `gridRatio units k` is the magnitude in
grid steps, as a numerator and a denominator, and `nearestOnGrid units k` the grid point nearest
to it. `leadingExponent units` is the place of the first digit, so that rounding to the grid
`leadingExponent units - (n - 1)` keeps `n` digits.
-/

set_option autoImplicit false

namespace Calculator

/-- How many decimal digits a whole number has; zero has one. -/
def digitCount (n : Nat) : Nat := (Nat.toDigits 10 n).length

/-- The magnitude divided by `10 ^ k`, as a numerator and a denominator. -/
def gridRatio (units : Nat) : Int → Nat × Nat
  | .ofNat k => (units, Double.unitsPerOne * Nat.pow 10 k)
  | .negSucc k => (units * Nat.pow 10 (k + 1), Double.unitsPerOne)

/-- The grid point nearest to the magnitude, a half going to the even multiple. -/
def nearestOnGrid (units : Nat) (k : Int) : Decimal :=
  ⟨roundHalfEven (gridRatio units k).1 (gridRatio units k).2, k⟩

/-- The magnitude itself: the least positive double is a multiple of `10 ^ -1074`. -/
def exactDecimal (units : Nat) : Decimal := ⟨units * Nat.pow 5 1074, -1074⟩

/-- The exponent of the first digit of a positive magnitude `x`: the largest `e` with
`10 ^ e ≤ x`. Below one it is read off the digits of the reciprocal. -/
def leadingExponent (units : Nat) : Int :=
  let whole := units / Double.unitsPerOne
  if whole = 0 then -(digitCount ((Double.unitsPerOne - 1) / units) : Int)
  else (digitCount whole : Int) - 1

end Calculator
