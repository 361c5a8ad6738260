import Calculator.Number.Power
import Calculator.Settings

/-!
# Hosts

What the program runs on: how far its stack reaches, the power function of the mathematical library,
and the texts of errors that are not its own. All that is known of the stack is that it holds the
highest limits of a configuration.
-/

set_option autoImplicit false

namespace Calculator

/-- What the program runs on. -/
structure Host where
  /-- How many levels of an expression can be open while it is read. -/
  levels : Int
  /-- How deep a tree can be followed. -/
  depth : Int
  /-- Whether the values of a document stand too deep inside each other to be read. -/
  overflows : List Char → Bool
  /-- How many values inside each other can be shown. -/
  shownLevels : Nat
  /-- The power function of the library. -/
  pow : Float → Float → Except MathFault Float
  /-- What is wrong with a text that is no document. -/
  syntaxText : String → String
  /-- What is wrong with bytes that are no text. -/
  decodingText : ByteArray → String
  /-- Why the file at a path cannot be read. -/
  readingText : String → String
  nestingCeiling_le : nestingCeiling ≤ levels
  depthCeiling_le : depthCeiling ≤ depth

namespace Host

/-- No host is without levels. -/
theorem levels_nonneg (host : Host) : 0 ≤ host.levels :=
  Int.le_trans (by decide) host.nestingCeiling_le

/-- `base` raised to `exponent`. -/
def power (host : Host) (base exponent : Float) : Float := powerBy host.pow base exponent

/-- A host as they usually are. -/
def standard : Host where
  levels := 1000
  depth := 500
  overflows := fun _ => false
  shownLevels := 900
  pow := checkedPower Float.pow
  syntaxText := fun _ => "not a document"
  decodingText := fun _ => "not a text"
  readingText := fun path => "[Errno 13] Permission denied: " ++ quoted path
  nestingCeiling_le := by decide
  depthCeiling_le := by decide

end Host

end Calculator
