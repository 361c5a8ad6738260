import Calculator.Calculation
import Calculator.Config.Finder
import Calculator.Console.Arguments
import Calculator.Console.Output

/-!
# The console

What the program hands over to be printed and returns for its arguments, in given surroundings: the
files, the working directory and the variable that may name a configuration file. The arguments are
read and the output is printed by libraries.
-/

set_option autoImplicit false

namespace Calculator.Console

/-- What the program finds around it. -/
structure Surroundings where
  tree : FileTree
  directory : Location
  /-- The configuration file named by the environment. -/
  environment : Option String

/-- A failure that no stage reports, and that ends the program. -/
inductive Escape where
  | precision (e : PrecisionError)
  | raised (fault : Fault)
  | refused (cause : Refusal) (path : String)
  | clash (c : NameClash)

/-- The wording of such a failure. -/
def Escape.message : Escape → String
  | .precision e => e.message
  | .raised fault => fault.message
  | .refused cause path => cause.message path
  | .clash c => c.message

/-- What the program hands over to be printed, and returns. -/
structure Response where
  exitCode : Nat
  output : List Output
  escape : Option Escape

namespace Response

/-- Output and success. -/
def success (output : List Output) : Response := ⟨0, output, none⟩

/-- Output and failure. -/
def failure (output : List Output) : Response := ⟨1, output, none⟩

/-- An end without a word. -/
def escaped (e : Escape) : Response := ⟨1, [], some e⟩

/-- Arguments that cannot be understood. -/
def misuse : Response := ⟨2, [], none⟩

/-- What is printed; each output ends a line. -/
def lines (printer : Printer) (r : Response) : List String := r.output.map printer.print

end Response

/-- What the version option prints. -/
def versionLine : String := "scicalc 0.1.0"

/-- The configuration in force, or what is printed if there is none; `named` is the file that is
named, if one is. -/
def activeConfig (host : Host) (printer : Printer) (s : Surroundings) (named : Option String) :
    Except Response Config :=
  match configSource s.tree s.directory (named.map Path.ofString) with
  | .standard => .ok .standard
  | .missing path =>
      .error (.failure [.marked (red ("Config file not found: " ++ printer.escape path))])
  | .refused cause path => .error (.escaped (.refused cause path))
  | .file path content =>
      match Config.ofBytes? host path content with
      | .ok (config, _) => .ok config
      | .error (.error message) =>
          .error (.failure [.marked
            (red "Invalid configuration:" ++ " " ++ printer.escape message)])
      | .error (.raised fault) => .error (.escaped (.raised fault))

/-- The registry of a configuration. -/
def activeRegistry (config : Config) : Except Response Registry :=
  config.registry.mapError fun clash => .escaped (.clash clash)

/-- A number in as many digits as the configuration or the option says. -/
def displayed (precision : Int) (x : Float) : Except Response String :=
  (displayFloat precision x).mapError fun e => .escaped (.precision e)

/-- A diagnostic: the message, and the place below it. -/
def diagnosticOutput (printer : Printer) (d : Diagnostic) : List Output :=
  .marked (red (d.stage.heading ++ " error:") ++ " " ++ printer.escape d.message) ::
    (d.place.map fun p => Output.text p.format).toList

/-- The settings of a configuration, with the conventional grammar if it is asked for. -/
def settingsOf (config : Config) (conventionalPower : Bool) : Settings :=
  { config.settings with
    conventionalPower := conventionalPower || config.settings.conventionalPower }

/-- The precision that is asked for, if it is one, or else that of the configuration. -/
def digitsOf (config : Config) (precision : Option Int) : Int :=
  (precision.filter (· ≠ 0)).getD config.precision

/-- Evaluate an expression and print its value. -/
def runEval (host : Host) (printer : Printer) (config : Config) (expression : String)
    (precision : Option Int) (conventionalPower : Bool) : Except Response Response := do
  let registry ← activeRegistry config
  match (calculate host registry (settingsOf config conventionalPower) expression).1 with
  | .ok value =>
      return .success [.text ("= " ++ (← displayed (digitsOf config precision) value))]
  | .error failure =>
      match failure.diagnostic expression with
      | .ok d => return .failure (diagnosticOutput printer d)
      | .error fault => return .escaped (.raised fault)

/-- List the functions. -/
def runFunctions (config : Config) : Except Response Response := do
  let registry ← activeRegistry config
  let listed := registry.functionNames.filterMap registry.function?
  let rows ← listed.mapM fun f => do
    let signature ← f.arity.signature.mapError fun fault => Response.escaped (.raised fault)
    return [f.name, signature, f.summary]
  return .success [.table ⟨"Functions",
    [⟨"Name", false⟩, ⟨"Arguments", true⟩, ⟨"Description", false⟩], rows⟩]

/-- List the constants. -/
def runConstants (config : Config) : Except Response Response := do
  let registry ← activeRegistry config
  let rows ← registry.constantNames.mapM fun name => do
    let value := (registry.constant? name).getD Double.notANumber
    return [name, ← displayed config.precision value, config.origin name]
  return .success [.table ⟨"Constants",
    [⟨"Name", false⟩, ⟨"Value", true⟩, ⟨"Source", false⟩], rows⟩]

/-- A response that is given early, or at the end. -/
def settle (result : Except Response Response) : Response :=
  match result with
  | .ok r => r
  | .error r => r

/-- What a command does under a configuration. -/
def runCommand (host : Host) (printer : Printer) (config : Config) :
    Command → Except Response Response
  | .eval expression precision conventionalPower =>
      runEval host printer config expression precision conventionalPower
  | .functions => runFunctions config
  | .constants => runConstants config

/-- What the program hands over to be printed, and returns. -/
def respond (host : Host) (parser : ArgumentParser) (printer : Printer) (s : Surroundings)
    (arguments : List String) : Response :=
  match parser.read arguments s.environment with
  | .misused => .misuse
  | .version => .success [.line versionLine]
  | .run named command => settle do
      runCommand host printer (← activeConfig host printer s named) command

end Calculator.Console
