import Calculator.Console.Response
import Calculator.Terminal.Options
import Calculator.Terminal.Screen

/-!
# The program

Looks up the files that can matter, lets the console respond, and prints the response.
-/

set_option autoImplicit false

namespace Calculator

/-- What a file holds, if one is there; the content is missing if it may not be read. -/
def lookUp (path : String) : IO (Option (Option ByteArray)) := do
  try
    return some (some (← IO.FS.readBinFile path))
  catch e =>
    match e with
    | .permissionDenied .. => return some none
    | _ => return none

/-- A tree with those of several files that are there. -/
def collectFiles (locations : List Location) : IO FileTree :=
  locations.foldlM
    (fun tree l => do
      match ← lookUp (Location.toString l) with
      | some content => return tree.addFile l content
      | none => return tree)
    .empty

/-- The files that can be the configuration in force. -/
def candidates (directory : Location) (named : Option String) : List Location :=
  (named.map fun path => (Path.ofString path).resolve directory).toList ++
    (ancestors directory).map (· ++ [configFileName])

/-- The configuration file that the arguments name, or else the variable. -/
def fileNamed (arguments : List String) (environment : Option String) : Option String :=
  match Terminal.argumentParser.read arguments environment with
  | .run named _ => named
  | _ => none

end Calculator

open Calculator in
/-- Run the program on its arguments. -/
def main (arguments : List String) : IO UInt32 := do
  let directory := (Path.ofString (← IO.currentDir).toString).resolve []
  let environment ← IO.getEnv "SCICALC_CONFIG"
  let tree ← collectFiles (candidates directory (fileNamed arguments environment))
  let response := Console.respond .standard Terminal.argumentParser Terminal.printer
    ⟨tree.addDirectory directory, directory, environment⟩ arguments
  for line in response.lines Terminal.printer do
    IO.println line
  if let some escape := response.escape then
    IO.eprintln escape.message
  return response.exitCode.toUInt32
