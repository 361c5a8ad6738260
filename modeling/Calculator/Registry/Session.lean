import Calculator.Registry.Builtin

/-!
# Sessions

A session keeps every registry that has been built, in the order of building; the built-in one
comes first. A step that fails adds nothing, and no step changes a registry.
-/

set_option autoImplicit false

namespace Calculator

/-- A way to build a registry. -/
inductive RegistryStep where
  /-- From tables of its own. -/
  | fresh (constants : List (String × Float)) (functions : List Function)
  /-- By further constants for the registry with this number. -/
  | extend (base : Nat) (extra : List (String × Float))
  /-- The built-in registry with the constants of a configuration. -/
  | configure (constants : List (String × Float))

/-- The built-in registry with the constants of a configuration; without any it is the built-in
registry itself. -/
def Registry.configured (constants : List (String × Float)) : Except NameClash Registry :=
  if constants.isEmpty then .ok .builtin else Registry.builtin.withConstants constants

/-- The registries built so far. -/
abbrev Session := List Registry

namespace Session

/-- The session at its beginning. -/
def start : Session := [.builtin]

/-- The registry with a number; a number not yet given stands for the built-in registry. -/
def get (s : Session) (number : Nat) : Registry :=
  s.getD number .builtin

/-- What a step builds. -/
def build (s : Session) : RegistryStep → Except NameClash Registry
  | .fresh constants functions => Registry.ofTables constants functions
  | .extend base extra => (s.get base).withConstants extra
  | .configure constants => Registry.configured constants

/-- The session after a step. -/
def advance (s : Session) (step : RegistryStep) : Session :=
  match s.build step with
  | .ok r => s ++ [r]
  | .error _ => s

/-- The session after several steps. -/
def run (s : Session) (steps : List RegistryStep) : Session :=
  steps.foldl advance s

end Session

end Calculator
