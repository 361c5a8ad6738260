/-!
# Command-line arguments

What the arguments of the program can say, and what is known of the library that reads them: a
variable of the environment stands in for the option that names a configuration file, and a
precision is at least one. How options are written is left to the library.
-/

set_option autoImplicit false

namespace Calculator.Console

/-- What to do. -/
inductive Command where
  | eval (expression : String) (precision : Option Int) (conventionalPower : Bool)
  | functions
  | constants
deriving DecidableEq, Repr

/-- What the arguments say. -/
inductive Invocation where
  | version
  | run (named : Option String) (command : Command)
  /-- The arguments cannot be understood. -/
  | misused
deriving DecidableEq, Repr

/-- The configuration file that is named: by the arguments, or else by a variable. An empty variable
names none. -/
def nameOf (given environment : Option String) : Option String :=
  given <|> environment.filter (· ≠ "")

/-- What the arguments say if a variable may name the configuration file. -/
def Invocation.withVariable (environment : Option String) : Invocation → Invocation
  | .run given command => .run (nameOf given environment) command
  | invocation => invocation

/-- A library that reads the arguments, and the variable that may name a configuration file. -/
structure ArgumentParser where
  read : List String → Option String → Invocation
  /-- The variable counts only where the arguments name no file. -/
  read_eq (arguments : List String) (environment : Option String) :
    read arguments environment = (read arguments none).withVariable environment
  /-- A precision of less than one digit is not understood. -/
  one_le {arguments : List String} {given : Option String} {expression : String} {digits : Int}
    {conventionalPower : Bool} :
    read arguments none = .run given (.eval expression (some digits) conventionalPower) → 1 ≤ digits

end Calculator.Console
