import Calculator.Config.Basic
import Calculator.Log
import Calculator.Toml.Document

/-!
# Loading configurations

A configuration file has the tables `engine`, `display` and `constants`, all of them optional.
Unknown tables and keys are passed over. Limits must be whole numbers from one to a ceiling, and
constants must be numbers under names that an expression can use; a constant that has the name of
a built-in one is left out with a warning.
-/

set_option autoImplicit false

namespace Calculator

/-! ## Errors -/

/-- Why a document is no configuration. -/
inductive ConfigError where
  | notATable (table : String)
  | notABoolean (key : String) (found : Toml.Value)
  | notAPositiveInteger (key : String) (found : Toml.Value)
  | aboveCeiling (key : String) (ceiling found : Int)
  | notANumber (name : String) (found : Toml.Value)
  | badName (name : String) (limit : Int)

/-- The wording of a configuration error. It shows a value that is found, which can have too many
digits, or too many values inside each other. -/
def ConfigError.message (host : Host) : ConfigError → Except Fault String
  | .notATable table => .ok ("[" ++ table ++ "] must be a table")
  -- a flag is looked at by the loader itself, and other values by what it calls
  | .notABoolean key found => do
      return key ++ " must be true or false, got " ++ (← found.describe (host.shownLevels + 1))
  | .notAPositiveInteger key found => do
      return key ++ " must be a positive integer, got " ++ (← found.describe host.shownLevels)
  | .aboveCeiling key ceiling found => do
      return key ++ " must be at most " ++ (← writeInt ceiling) ++ ", got " ++ (← writeInt found)
  | .notANumber name found => do
      return "constants." ++ name ++ " must be a number, got " ++
        (← found.describe host.shownLevels)
  | .badName name limit => do
      return "constants." ++ name ++
        ": names must be letters followed by letters or digits, at most " ++ (← writeInt limit) ++
        " characters"

/-- Why a file is no document. -/
inductive FileError where
  | unreadable
  | undecodable (content : ByteArray)
  | malformed (text : String)

/-- The wording of what is wrong with the file at a path. -/
def FileError.message (host : Host) (path : String) : FileError → String
  | .unreadable => path ++ ": cannot read file: " ++ host.readingText path
  | .undecodable content => path ++ ": cannot read file: " ++ host.decodingText content
  | .malformed text => path ++ ": " ++ host.syntaxText text

/-- Why a file cannot be loaded: an error in it, which is told, or a fault of an operation, which is
not reported as an error in the file. -/
inductive LoadFailure where
  | error (message : String)
  | raised (fault : Fault)
deriving DecidableEq, Repr

/-- The failure that a configuration error is. An error that cannot be worded fails in the
wording. -/
def LoadFailure.ofError (host : Host) (cause : ConfigError) : LoadFailure :=
  match cause.message host with
  | .ok message => .error message
  | .error fault => .raised fault

/-- The failure of a text that is no document. -/
def LoadFailure.ofReadError (host : Host) (path text : String) : Toml.ReadError → LoadFailure
  | .malformed => .error ((FileError.malformed text).message host path)
  | .numeralTooLong digits => .raised (.unreadable digits)
  | .tooNested => .raised .stackOverflow

/-! ## Tables and keys -/

/-- One of the tables of a document; empty if it is absent. -/
def configTable (document : Toml.Table) (name : String) : Except ConfigError Toml.Table :=
  match document.lookup name with
  | none => .ok []
  | some (.table entries) => .ok entries
  | some _ => .error (.notATable name)

/-- A truth value. -/
def booleanKey (table : Toml.Table) (tableName key : String) (standard : Bool) :
    Except ConfigError Bool :=
  match table.lookup key with
  | none => .ok standard
  | some (.boolean b) => .ok b
  | some found => .error (.notABoolean (tableName ++ "." ++ key) found)

/-- A whole number from one to a ceiling, if there is one. -/
def positiveKey (table : Toml.Table) (tableName key : String) (standard : Int)
    (ceiling : Option Int) : Except ConfigError Int :=
  match table.lookup key with
  | none => .ok standard
  | some (.integer n) =>
      if n < 1 then .error (.notAPositiveInteger (tableName ++ "." ++ key) (.integer n))
      else match ceiling with
        | some most =>
            if most < n then .error (.aboveCeiling (tableName ++ "." ++ key) most n) else .ok n
        | none => .ok n
  | some found => .error (.notAPositiveInteger (tableName ++ "." ++ key) found)

/-! ## Constants -/

/-- A letter followed by letters and digits. -/
def isName : List Char → Bool
  | [] => false
  | c :: rest => c.isAlpha && rest.all Char.isAlphanum

/-- The double that a number in a document stands for; `none` for other values. -/
def constantNumber? : Toml.Value → Option (Except LoadFailure Float)
  | .float x => some (.ok x)
  | .integer n => some ((Double.ofInt? n).elim (.error (.raised .integerTooLarge)) .ok)
  | _ => none

/-- Constants taken over from a document, and warnings about those that were left out, both the
last one first. -/
structure Intake where
  constants : List (String × Float)
  warnings : List LogEntry

/-- The warning about a constant that has the name of a built-in one. -/
def shadowWarning (name : String) : LogEntry :=
  ⟨.warning, "Ignoring constant " ++ quoted name ++ ": it shadows a built-in name"⟩

/-- Take over one constant. Its value and its name are checked before it is left out. -/
def Intake.add (host : Host) (nameLimit : Int) (taken : Intake) (entry : String × Toml.Value) :
    Except LoadFailure Intake :=
  let (name, value) := entry
  match constantNumber? value with
  | none => .error (.ofError host (.notANumber name value))
  | some number =>
      if !isName name.toList || nameLimit < name.length then
        .error (.ofError host (.badName name nameLimit))
      -- a constant that is left out may have any value, also one that no double comes near
      else if Registry.builtin.isRegistered name then
        .ok { taken with warnings := shadowWarning name :: taken.warnings }
      else
        match number with
        | .ok x => .ok { taken with constants := (name, x) :: taken.constants }
        | .error e => .error e

/-! ## Files -/

/-- The configuration in a document, with warnings in the order of the document. -/
def Config.ofDocument (host : Host) (document : Toml.Table) :
    Except LoadFailure (Config × List LogEntry) := do
  let lift {α : Type} (r : Except ConfigError α) : Except LoadFailure α :=
    r.mapError (.ofError host)
  let engine ← lift (configTable document "engine")
  let display ← lift (configTable document "display")
  let constants ← lift (configTable document "constants")
  let standard : Config := .standard
  let conventionalPower ← lift
    (booleanKey engine "engine" "conventional_power" standard.settings.conventionalPower)
  let nestingLimit ← lift (positiveKey engine "engine" "max_nesting_depth"
    standard.settings.nestingLimit (some nestingCeiling))
  let depthLimit ← lift (positiveKey engine "engine" "max_tree_depth"
    standard.settings.depthLimit (some depthCeiling))
  let nameLimit ← lift
    (positiveKey engine "engine" "name_max_length" standard.settings.nameLimit none)
  let precision ← lift (positiveKey display "display" "precision" standard.precision none)
  let taken ← constants.foldlM (Intake.add host nameLimit) ⟨[], []⟩
  return (⟨⟨nestingLimit, depthLimit, nameLimit, conventionalPower⟩, precision,
    taken.constants.reverse⟩, taken.warnings.reverse)

/-- The configuration in the text of the file at a path. -/
def Config.ofText (host : Host) (path text : String) :
    Except LoadFailure (Config × List LogEntry) :=
  match Toml.read host text with
  | .ok document => Config.ofDocument host document
  | .error e => .error (.ofReadError host path text e)

/-- The configuration in the bytes of the file at a path; a file that cannot be read has none. -/
def Config.ofBytes? (host : Host) (path : String) (bytes : Option ByteArray) :
    Except LoadFailure (Config × List LogEntry) :=
  match bytes with
  | none => .error (.error (FileError.unreadable.message host path))
  | some content =>
      match String.fromUTF8? content with
      | none => .error (.error ((FileError.undecodable content).message host path))
      | some text => Config.ofText host path text

end Calculator
