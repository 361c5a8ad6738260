import Calculator.Registry.Session
import Calculator.Settings

/-!
# Configurations

A configuration holds the settings of a calculation, the number of digits with which results are
displayed, and constants beside the built-in ones.
-/

set_option autoImplicit false

namespace Calculator

/-- Settings, display and constants. -/
structure Config where
  settings : Settings := {}
  precision : Int := 10
  constants : List (String × Float) := []

namespace Config

/-- The configuration where no file says otherwise. -/
def standard : Config := {}

/-- The registry of a configuration. -/
def registry (c : Config) : Except NameClash Registry := Registry.configured c.constants

/-- Whether the registry is the built-in one. -/
def usesBuiltin (c : Config) : Bool := c.constants.isEmpty

/-- Where the value of a name comes from. -/
def origin (c : Config) (name : String) : String :=
  if (c.constants.map Prod.fst).contains name then "config" else "built-in"

end Config

end Calculator
