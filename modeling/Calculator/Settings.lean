/-!
# Settings

The limits and the grammar under which an expression is read and evaluated. Any whole numbers can
stand here; a configuration file admits positive ones only, and those that limit nesting and depth
up to a ceiling.
-/

set_option autoImplicit false

namespace Calculator

/-- Limits and grammar. -/
structure Settings where
  /-- How many parentheses, signs and calls may be open at once. -/
  nestingLimit : Int := 100
  /-- How deep a tree may be to be evaluated; chains of operators are free. -/
  depthLimit : Int := 300
  /-- Names are cut to this length. -/
  nameLimit : Int := 31
  /-- `^` binds tighter than `*` and `/`, and to the right. -/
  conventionalPower : Bool := false
deriving DecidableEq, Repr

/-- The highest nesting limit of a configuration. -/
def nestingCeiling : Int := 150

/-- The highest depth limit of a configuration. -/
def depthCeiling : Int := 300

end Calculator
