import Calculator.Number.Double

/-!
# Decimals

A decimal is a coefficient and a power of ten. `Decimal.bits` reads it as the nearest double, and
`Decimal.ofChars?` takes the digits and the point of a numeral apart. `readFloat?` is the reader
for every written double: an optional sign, a numeral with an optional exponent, `inf` or `nan`.
-/

set_option autoImplicit false

namespace Calculator

/-- The number `coefficient * 10 ^ exponent`. -/
structure Decimal where
  coefficient : Nat
  exponent : Int
deriving DecidableEq, Repr

namespace Decimal

/-- The pattern of the double nearest to the decimal. Powers of ten so large or so small that the
answer is plain are not computed: a coefficient has at most as many decimal as binary digits. -/
def bits (d : Decimal) : Nat :=
  if d.coefficient = 0 then 0
  else if 400 < d.exponent then Double.infinityBits
  else if d.exponent + (d.coefficient.log2 : Int) < -400 then 0
  else if 0 ≤ d.exponent then Double.nearestBits (d.coefficient * Nat.pow 10 d.exponent.toNat) 1
  else Double.nearestBits d.coefficient (Nat.pow 10 (-d.exponent).toNat)

/-- The double nearest to the decimal, with a given sign. -/
def toFloat (negative : Bool) (d : Decimal) : Float :=
  Double.withSign negative d.bits

/-- Digits, at most one point among them, at least one digit: `12`, `1.5`, `.5` and `5.` are
numerals, `.` and `1.2.3` are not. -/
def ofChars? (numeral : List Char) : Option Decimal :=
  let whole := numeral.takeWhile Char.isDigit
  match numeral.dropWhile Char.isDigit with
  | [] => if whole.isEmpty then none else some ⟨Nat.ofDigitChars 10 whole 0, 0⟩
  | c :: fraction =>
      if c = '.' && fraction.all Char.isDigit && !(whole.isEmpty && fraction.isEmpty) then
        some ⟨Nat.ofDigitChars 10 (whole ++ fraction) 0, -(fraction.length : Int)⟩
      else none

end Decimal

/-! ## Written doubles -/

/-- An optional sign in front of a text, and the rest: `true` for a minus. -/
def splitSign : List Char → Bool × List Char
  | '-' :: rest => (true, rest)
  | '+' :: rest => (false, rest)
  | rest => (false, rest)

/-- A whole number written with decimal digits and an optional sign. -/
def readInt? (text : List Char) : Option Int :=
  let (negative, digits) := splitSign text
  if digits.isEmpty || !digits.all Char.isDigit then none
  else
    let magnitude := Int.ofNat (Nat.ofDigitChars 10 digits 0)
    some (if negative then -magnitude else magnitude)

/-- A numeral with an optional exponent. -/
def readScientific? (text : List Char) : Option Decimal :=
  let isMark := fun c => c = 'e' || c = 'E'
  let mantissa := text.takeWhile (fun c => !isMark c)
  match text.dropWhile (fun c => !isMark c) with
  | [] => Decimal.ofChars? mantissa
  | _ :: power => do
      let d ← Decimal.ofChars? mantissa
      let shift ← readInt? power
      some { d with exponent := d.exponent + shift }

/-- A written double: an optional sign and a number, `inf` or `nan`. -/
def readFloat? (text : List Char) : Option Float :=
  let (negative, magnitude) := splitSign text
  if magnitude = "inf".toList then some (Double.infinite negative).toFloat
  else if magnitude = "nan".toList then some Double.notANumber
  else (readScientific? magnitude).map (Decimal.toFloat negative)

end Calculator
