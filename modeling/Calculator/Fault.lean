import Calculator.Text.Quoted

/-!
# Faults

Operations of the language and of its library refuse what they cannot do: there is no argument at
a place, a function has no value, a number has more digits than are written. Such a fault is no
error that the program tells of its own accord. If nothing catches it, it ends what is going on.
-/

set_option autoImplicit false

namespace Calculator

/-! ## Long numbers -/

/-- The most digits with which a whole number can be read or written in base ten. -/
def mostIntegerDigits : Nat := 4300

/-- Whether a whole number has more digits than can be written. -/
def isTooLong (n : Int) : Bool := Nat.pow 10 mostIntegerDigits ≤ n.natAbs

/-- The wording of a number with too many digits. -/
def tooManyDigitsMessage (detail : String) : String :=
  "Exceeds the limit (" ++ toString mostIntegerDigits ++
    " digits) for integer string conversion" ++ detail ++
    "; use sys.set_int_max_str_digits() to increase the limit"

/-! ## Kinds of faults -/

/-- Why a function of the mathematical library returns no value. -/
inductive MathFault where
  /-- It is not defined there. -/
  | domain
  /-- The value is too large. -/
  | range
deriving DecidableEq, Repr

/-- Why an operation of the language or of its library refuses. -/
inductive Fault where
  /-- There is no argument at a place. -/
  | missingArgument
  /-- There is no entry under a name. -/
  | missingEntry (name : String)
  /-- A function of the mathematical library returns no value. -/
  | math (cause : MathFault)
  | divisionByZero
  /-- What is not a number has no whole part. -/
  | integerOfNaN
  /-- An infinity has no whole part. -/
  | integerOfInfinity
  /-- A rounded value is too large for a double. -/
  | roundedTooLarge
  /-- A whole number has no double near it. -/
  | integerTooLarge
  /-- A numeral of so many digits is not read. -/
  | unreadable (digits : Nat)
  /-- A whole number of too many digits is not written. -/
  | unwritable
  /-- The stack is used up. -/
  | stackOverflow
deriving DecidableEq, Repr

/-- The wording of a fault. -/
def Fault.message : Fault → String
  | .missingArgument => "list index out of range"
  | .missingEntry name => quoted name
  | .math .domain => "math domain error"
  | .math .range => "math range error"
  | .divisionByZero => "float division by zero"
  | .integerOfNaN => "cannot convert float NaN to integer"
  | .integerOfInfinity => "cannot convert float infinity to integer"
  | .roundedTooLarge => "rounded value too large to represent"
  | .integerTooLarge => "int too large to convert to float"
  | .unreadable digits => tooManyDigitsMessage (": value has " ++ toString digits ++ " digits")
  | .unwritable => tooManyDigitsMessage ""
  | .stackOverflow => "maximum recursion depth exceeded"

/-! ## Writing whole numbers -/

/-- A whole number in base ten. -/
def writeInt (n : Int) : Except Fault String :=
  if isTooLong n then .error .unwritable else .ok (toString n)

theorem writeInt_of_not_isTooLong {n : Int} (h : isTooLong n = false) :
    writeInt n = .ok (toString n) := if_neg (Bool.eq_false_iff.mp h)

theorem exists_writeInt_iff {n : Int} :
    (∃ text, writeInt n = .ok text) ↔ isTooLong n = false := by
  unfold writeInt
  split
  · next h => simp [h]
  · next h => simp [h]

end Calculator
