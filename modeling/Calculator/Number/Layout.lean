import Calculator.Fault
import Calculator.Number.Shortest

/-!
# Written numbers

A number is written from its significant digits and the exponent of the first of them, either
positionally or with a power of ten. A `Layout` says which exponents are written positionally and
whether a whole number keeps a point. Values are written by `Layout.value`, with the shortest digits
that read back, and displayed by `Layout.display p`, rounded to `p` significant digits.
-/

set_option autoImplicit false

namespace Calculator

/-- The choices in writing a number. -/
structure Layout where
  /-- Exponents from here on are written with a power of ten. -/
  positionalBelow : Int
  /-- A whole number ends in `.0`. -/
  keepsPoint : Bool

namespace Layout

/-- Values in full: positional below `10 ^ 16`, always with a point. -/
def value : Layout := ⟨16, true⟩

/-- Results rounded to `precision` digits: positional while those digits reach the units. -/
def display (precision : Int) : Layout := ⟨precision, false⟩

/-- The smallest exponent that is written positionally. -/
def leastPositional : Int := -4

/-- Whether a number whose first digit has this exponent is written positionally. -/
def isPositional (l : Layout) (exponent : Int) : Bool :=
  leastPositional ≤ exponent && exponent < l.positionalBelow

/-- The digits after the point, with the point. -/
def fraction (l : Layout) : List Char → List Char
  | [] => if l.keepsPoint then ['.', '0'] else []
  | digits => '.' :: digits

/-- Digits with the point in place, filled up with zeros where there is no digit. -/
def positional (l : Layout) (digits : List Char) : Int → List Char
  | .ofNat exponent =>
      digits.take (exponent + 1) ++ List.replicate (exponent + 1 - digits.length) '0' ++
        l.fraction (digits.drop (exponent + 1))
  | .negSucc below => '0' :: '.' :: List.replicate below '0' ++ digits

/-- An exponent: its sign and at least two digits. -/
def power (exponent : Int) : List Char :=
  let digits := Nat.toDigits 10 exponent.natAbs
  (if exponent < 0 then '-' else '+') :: List.replicate (2 - digits.length) '0' ++ digits

/-- One digit before the point, the others after it, and a power of ten. -/
def scientific (digits : List Char) (exponent : Int) : List Char :=
  let fraction := if digits.length ≤ 1 then [] else '.' :: digits.drop 1
  digits.take 1 ++ fraction ++ 'e' :: power exponent

/-- Significant digits in the chosen form. -/
def write (l : Layout) (digits : List Char) (exponent : Int) : List Char :=
  if l.isPositional exponent then l.positional digits exponent else scientific digits exponent

/-- The digits of a decimal without the zeros at their end; a zero keeps one. -/
def significantDigits (d : Decimal) : List Char :=
  let digits := ((Nat.toDigits 10 d.coefficient).reverse.dropWhile (· = '0')).reverse
  if digits.isEmpty then ['0'] else digits

/-- The exponent of the first digit of a decimal; that of a zero is `0`. -/
def firstExponent (d : Decimal) : Int :=
  if d.coefficient = 0 then 0 else d.exponent + (digitCount d.coefficient : Int) - 1

/-- A decimal in the chosen form. -/
def writeDecimal (l : Layout) (d : Decimal) : List Char :=
  l.write (significantDigits d) (firstExponent d)

/-- The sign in front of a magnitude. -/
def signed (negative : Bool) (magnitude : List Char) : List Char :=
  if negative then '-' :: magnitude else magnitude

/-- A double whose finite magnitudes are first turned into decimals. The sign of a number that is
missing is not shown. -/
def writeFloat (l : Layout) (decimal : Nat → Decimal) (x : Float) : List Char :=
  match Double.ofFloat x with
  | .nan => ['n', 'a', 'n']
  | .infinite negative => signed negative ['i', 'n', 'f']
  | .finite negative bits => signed negative (l.writeDecimal (decimal bits))

end Layout

/-- A double in full: the shortest digits that read back. -/
def floatChars (x : Float) : List Char :=
  Layout.value.writeFloat shortest x

/-- A double in full, as a string. -/
def floatText (x : Float) : String :=
  String.ofList (floatChars x)

/-! ## Rounding to significant digits -/

/-- No double has more significant digits than this. -/
def mostDigits : Nat := 767

/-- A magnitude rounded to `digits` significant digits. Beyond `mostDigits` further digits are
zeros, so they are not computed. -/
def roundToDigits (digits bits : Nat) : Decimal :=
  let units := Double.units bits
  let kept := min digits mostDigits
  nearestOnGrid units (leadingExponent units - (kept - 1 : Nat))

/-- Why a number of digits cannot be used. -/
inductive PrecisionError where
  /-- It cannot even be written. -/
  | unwritable
  | missing
  | tooBig
  | tooManyDigits
deriving DecidableEq, Repr

/-- The wording of a precision error. -/
def PrecisionError.message : PrecisionError → String
  | .unwritable => Fault.unwritable.message
  | .missing => "Format specifier missing precision"
  | .tooBig => "precision too big"
  | .tooManyDigits => "Too many decimal digits in format string"

/-- The largest precision that can be used. -/
def largestPrecision : Int := Int.pow 2 31 - 1

/-- The largest precision that can be read. -/
def largestReadablePrecision : Int := Int.pow 2 63 - 1

/-- Whether a number of digits can be used. -/
def checkPrecision (precision : Int) : Except PrecisionError Unit :=
  if isTooLong precision then .error .unwritable
  else if precision < 0 then .error .missing
  else if largestReadablePrecision < precision then .error .tooManyDigits
  else if largestPrecision < precision then .error .tooBig
  else .ok ()

/-- A result rounded to `precision` significant digits, without zeros at the end. A precision of
zero counts as one. -/
def displayFloat (precision : Int) (x : Float) : Except PrecisionError String := do
  checkPrecision precision
  let digits := max precision 1
  return String.ofList ((Layout.display digits).writeFloat (roundToDigits digits.toNat) x)

end Calculator
