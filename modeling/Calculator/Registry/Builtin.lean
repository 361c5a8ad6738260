import Calculator.Registry.Basic
import Calculator.Number.Places

/-!
# The built-in registry

Two constants and ten functions. Most of them ask the mathematical library, and each stands between
the library and its caller: an argument for which there is no value is refused in words of its own,
and a value that is too large is an infinity. Only `round` lets a fault pass, where a rounded value
leaves the doubles.
-/

set_option autoImplicit false

namespace Calculator

namespace Builtin

/-- The argument at a place. -/
def argument (arguments : List Float) (place : Nat) : Except FunctionFault Float :=
  match arguments[place]? with
  | some x => .ok x
  | none => .error (.raised .missingArgument)

/-- A function of the library: a value that is too large is an infinity, and an argument for which
there is none is outside the domain. -/
def ofLibrary (f : Float → Except MathFault Float) (arguments : List Float) :
    Except FunctionFault Float := do
  let x ← argument arguments 0
  match f x with
  | .ok y => .ok y
  | .error .range => .ok Double.infinity
  | .error .domain => .error (.domain (.outside x))

/-- A logarithm of the library, of positive numbers only. -/
def ofPositive (f : Float → Except MathFault Float) (arguments : List Float) :
    Except FunctionFault Float := do
  let x ← argument arguments 0
  if Double.isZero x || Double.isBelowZero x then .error (.domain .notPositive)
  else (f x).mapError fun cause => .raised (.math cause)

/-- The square root. -/
def squareRoot (arguments : List Float) : Except FunctionFault Float := do
  let x ← argument arguments 0
  if Double.isBelowZero x then .error (.domain .negative)
  else (Library.sqrt x).mapError fun cause => .raised (.math cause)

/-- A power. -/
def raise (host : Host) (arguments : List Float) : Except FunctionFault Float := do
  let x ← argument arguments 0
  let y ← argument arguments 1
  return host.power x y

/-- How many decimal places `round` is asked for; none if the argument is left out. -/
def digitsArgument (arguments : List Float) : Except FunctionFault Float :=
  if 1 < arguments.length then argument arguments 1 else .ok 0.0

/-- Rounding of the first argument to as many decimal places as the second says. -/
def round (arguments : List Float) : Except FunctionFault Float := do
  let digits ← digitsArgument arguments
  if !isWhole digits then .error (.domain .fractionalDigits)
  else
    let x ← argument arguments 0
    let places ← (wholePart digits).mapError .raised
    match roundToPlaces places x with
    | some y => .ok y
    | none => .error (.raised .roundedTooLarge)

/-- The ratio of a circle's circumference to its diameter. -/
def pi : Float := Float.ofBits 0x400921fb54442d18

/-- The base of the natural logarithm. -/
def e : Float := Float.ofBits 0x4005bf0a8b145769

/-- The built-in constants. -/
def constants : List (String × Float) := [("pi", pi), ("e", e)]

/-- The built-in functions. -/
def functions : List Function :=
  [⟨"sin", ⟨1, 1⟩, "Sine (radians)", fun _ => ofLibrary (Library.ofAngle Float.sin)⟩,
   ⟨"cos", ⟨1, 1⟩, "Cosine (radians)", fun _ => ofLibrary (Library.ofAngle Float.cos)⟩,
   ⟨"tan", ⟨1, 1⟩, "Tangent (radians)", fun _ => ofLibrary (Library.ofAngle Float.tan)⟩,
   ⟨"log", ⟨1, 1⟩, "Base-10 logarithm", fun _ => ofPositive (Library.ofPositive Float.log10)⟩,
   ⟨"ln", ⟨1, 1⟩, "Natural logarithm", fun _ => ofPositive (Library.ofPositive Float.log)⟩,
   ⟨"exp", ⟨1, 1⟩, "e raised to x", fun _ => ofLibrary Library.exp⟩,
   ⟨"sqrt", ⟨1, 1⟩, "Square root", fun _ => squareRoot⟩,
   ⟨"abs", ⟨1, 1⟩, "Absolute value", fun _ => ofLibrary Library.abs⟩,
   ⟨"pow", ⟨2, 2⟩, "x raised to y", raise⟩,
   ⟨"round", ⟨1, 2⟩, "Round x to n decimal places (default 0)", fun _ => round⟩]

end Builtin

/-- The built-in registry. -/
def Registry.builtin : Registry where
  constants := Builtin.constants
  functions := Builtin.functions
  disjoint := by
    intro name hname
    simp only [Builtin.constants, List.map_cons, List.map_nil, List.mem_cons, List.not_mem_nil,
      or_false] at hname
    rcases hname with rfl | rfl <;> simp [Builtin.functions]

end Calculator
