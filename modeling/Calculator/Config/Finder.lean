import Calculator.Config.Loader
import Calculator.Files.Tree

/-!
# Finding configurations

The configuration in force is the file that is named, or else the nearest `scicalc.toml` in the
working directory or above it, or else the standard one.
-/

set_option autoImplicit false

namespace Calculator

/-- The name of a configuration file. -/
def configFileName : String := "scicalc.toml"

/-! ## Searching from a start -/

/-- Why no configuration can be looked for. -/
inductive SearchFault where
  /-- A path was given with a null character in it, which leads nowhere. -/
  | nullCharacter
  /-- The system refuses to follow the path of a file that is looked for. -/
  | refused (cause : Refusal) (path : String)
deriving DecidableEq, Repr

/-- The wording of such a fault. -/
def SearchFault.message : SearchFault → String
  | .nullCharacter => "embedded null byte"
  | .refused cause path => cause.message path

/-- Where a search begins: where the path leads from a directory, or in the directory itself. -/
def searchStart (directory : Location) : Option Path → Except SearchFault Location
  | none => .ok directory
  | some path => if path.holdsNull then .error .nullCharacter else .ok (path.resolve directory)

/-- The nearest configuration file at or above the place where a search begins. -/
def findConfig (tree : FileTree) (directory : Location) (start : Option Path) :
    Except SearchFault (Option Location) := do
  let beginning ← searchStart directory start
  (tree.findUp configFileName beginning).mapError fun (cause, l) => .refused cause l.toString

/-! ## The configuration in force -/

/-- The file of the configuration in force. -/
inductive ConfigSource where
  /-- There is no file. -/
  | standard
  /-- A file with its path and its content, if that may be read. -/
  | file (path : String) (content : Option ByteArray)
  /-- A path was named that leads to no file. -/
  | missing (path : String)
  /-- The system refuses to follow a path, the one that was named or one to look at. -/
  | refused (cause : Refusal) (path : String)

/-- The file of the configuration in force; `named` is the path that was named, if one was. A path
with a null character in it leads to no file, and the system is not asked. -/
def configSource (tree : FileTree) (directory : Location) (named : Option Path) : ConfigSource :=
  match named with
  | some path =>
      if path.holdsNull then .missing path.toString
      else
        match tree.refusal? directory path with
        | some cause => .refused cause path.toString
        | none =>
            match tree.fileAt? directory path with
            | some content => .file path.toString content
            | none => .missing path.toString
  | none =>
      match tree.findUp configFileName directory with
      | .error (cause, l) => .refused cause l.toString
      | .ok (some found) =>
          match tree.file? found with
          | some content => .file (Location.toString found) content
          | none => .standard
      | .ok none => .standard

end Calculator
