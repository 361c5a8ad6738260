import Calculator.Files.Path
import Calculator.Text.Quoted

/-!
# File trees

A file tree says of every location whether a file or a directory is there, and of both whether the
program may use them. Files are put into it together with the directories above them. Following a
path goes through directories one by one; a missing one leads nowhere, but one that may not be
searched, a name that is too long or a path that is too long is refused by the system.
-/

set_option autoImplicit false

namespace Calculator

/-- What is at a location. -/
inductive FileEntry where
  /-- A file, with its content if that may be read. -/
  | file (content : Option ByteArray)
  /-- A directory, which may be searched or not. -/
  | directory (isSearchable : Bool)

/-- A tree of files and directories; the root is always there. -/
structure FileTree where
  entries : List (Location × FileEntry)
  rootIsSearchable : Bool

/-- Why the system does not say what is at the end of a path. -/
inductive Refusal where
  /-- The path is too long, or a name in it. -/
  | tooLong
  /-- A directory on the way may not be searched. -/
  | denied
deriving DecidableEq, Repr

/-- The wording of a refusal. -/
def Refusal.message (path : String) : Refusal → String
  | .tooLong => "[Errno 36] File name too long: " ++ quoted path
  | .denied => "[Errno 13] Permission denied: " ++ quoted path

namespace FileTree

/-- The tree without files. -/
def empty : FileTree := ⟨[], true⟩

/-- What is at a location. -/
def lookup? (t : FileTree) (l : Location) : Option FileEntry :=
  if l.isEmpty then some (.directory t.rootIsSearchable) else t.entries.lookup l

/-- Add a directory and those above it. Directories that are there already stay as they are. -/
def addDirectory (t : FileTree) (l : Location) : FileTree :=
  { t with entries := t.entries ++ (ancestors l).map fun above => (above, .directory true) }

/-- Add a file and the directories above it. -/
def addFile (t : FileTree) (l : Location) (content : Option ByteArray) : FileTree :=
  { t with entries := (l, .file content) :: t.entries : FileTree }.addDirectory l.dropLast

/-- Whether a directory is at a location. -/
def isDirectory (t : FileTree) (l : Location) : Bool :=
  match t.lookup? l with
  | some (.directory _) => true
  | _ => false

/-- What the file at a location holds, if a file is there. -/
def file? (t : FileTree) (l : Location) : Option (Option ByteArray) :=
  match t.lookup? l with
  | some (.file content) => some content
  | _ => none

/-- Whether a file is at a location. -/
def isFile (t : FileTree) (l : Location) : Bool := (t.file? l).isSome

/-! ## Following paths -/

/-- The most bytes that a name may have. -/
def longestName : Nat := 255

/-- The most bytes that a path may have. -/
def longestPath : Nat := 4095

/-- Why the parts of a path are not followed to the end, if the system refuses that. A part that is
looked for in something else than a directory, or not found there, leads nowhere. -/
def refusalAlong (t : FileTree) (l : Location) : List String → Option Refusal
  | [] => none
  | part :: rest =>
      match t.lookup? l with
      | some (.directory false) => some .denied
      | some (.directory true) =>
          if longestName < part.utf8ByteSize then some .tooLong
          else t.refusalAlong (Path.advance l part) rest
      | _ => none

/-- Follow the parts of a path; every part but the last must lead from a directory. -/
def follow (t : FileTree) (l : Location) : List String → Option Location
  | [] => some l
  | part :: rest => if t.isDirectory l then t.follow (Path.advance l part) rest else none

/-- Where a path begins that is followed from a directory. -/
def origin (directory : Location) (p : Path) : Location := if p.isAbsolute then [] else directory

/-- The parts that are followed. A path without any, unless it is a root, is a single point. -/
def steps (p : Path) : List String :=
  if p.parts.isEmpty && !p.isAbsolute then ["."] else p.parts

/-- Why the system does not follow a path from a directory, if it refuses that. -/
def refusal? (t : FileTree) (directory : Location) (p : Path) : Option Refusal :=
  if longestPath < p.toString.utf8ByteSize then some .tooLong
  else t.refusalAlong (origin directory p) (steps p)

/-- What the file holds to which a path leads from a directory, if it leads to a file. -/
def fileAt? (t : FileTree) (directory : Location) (p : Path) : Option (Option ByteArray) :=
  (t.follow (origin directory p) p.parts).bind t.file?

/-! ## Looking for files -/

/-- Whether a file is at a location, unless the system refuses to follow its path. -/
def checkFile (t : FileTree) (l : Location) : Except (Refusal × Location) Bool :=
  match t.refusal? [] l.toPath with
  | some cause => .error (cause, l)
  | none => .ok (t.isFile l)

/-- The first of several locations where a file is. A refusal ends the search. -/
def findFile (t : FileTree) : List Location → Except (Refusal × Location) (Option Location)
  | [] => .ok none
  | l :: rest => do if ← t.checkFile l then return some l else t.findFile rest

/-- The nearest file of a given name in a directory or above it. -/
def findUp (t : FileTree) (name : String) (directory : Location) :
    Except (Refusal × Location) (Option Location) :=
  t.findFile ((ancestors directory).map (· ++ [name]))

end FileTree

end Calculator
