import Calculator.Host
import Calculator.Number.Layout

/-!
# Functions

A function has a name, an arity and a rule that turns its arguments into a value or a fault. The
arity is checked before the rule is applied. The rule may use what the host provides.
-/

set_option autoImplicit false

namespace Calculator

/-! ## Arities -/

/-- How many arguments a function takes, both ends included. -/
structure Arity where
  least : Int
  most : Int
deriving DecidableEq, Repr

namespace Arity

/-- Whether this many arguments can be given. -/
def accepts (a : Arity) (count : Int) : Bool := a.least ≤ count && count ≤ a.most

/-- The arity as it is listed: `1`, or `1-2`. -/
def signature (a : Arity) : Except Fault String :=
  if a.least = a.most then writeInt a.least
  else do return (← writeInt a.least) ++ "-" ++ (← writeInt a.most)

/-- The arity in a message: `exactly 1`, or `1 to 2`. -/
def expectation (a : Arity) : Except Fault String :=
  if a.least = a.most then do return "exactly " ++ (← writeInt a.least)
  else do return (← writeInt a.least) ++ " to " ++ (← writeInt a.most)

/-- A refusal of `given` arguments, which are counted. -/
def refusal (a : Arity) (name : String) (given : Int) : Except Fault String := do
  return name ++ "() takes " ++ (← a.expectation) ++ " argument" ++
    (if a.most = 1 then "" else "s") ++ ", got " ++ toString given

end Arity

/-! ## Faults -/

/-- Why an argument lies outside the domain of a function. -/
inductive DomainFault where
  | outside (argument : Float)
  | notPositive
  | negative
  | fractionalDigits
  | other (reason : String)

/-- The wording of a domain fault. -/
def DomainFault.message : DomainFault → String
  | .outside argument => "argument " ++ floatText argument ++ " is outside the domain"
  | .notPositive => "argument must be greater than 0"
  | .negative => "argument must not be negative"
  | .fractionalDigits => "number of digits must be an integer"
  | .other reason => reason

/-- Why a function has no value: an argument outside its domain, or a fault of an operation that it
uses. -/
inductive FunctionFault where
  | domain (cause : DomainFault)
  | raised (fault : Fault)

/-! ## Functions -/

/-- A named function. -/
structure Function where
  name : String
  arity : Arity
  summary : String
  apply : Host → List Float → Except FunctionFault Float

end Calculator
