import Calculator.Text.Split

/-!
# Paths

A path as it is written, and the directory or file it leads to. Written paths lose empty parts and
single points, and keep double points; those are resolved against a directory, where each drops the
part before it.
-/

set_option autoImplicit false

namespace Calculator

/-- The parts of an absolute path; the root has none. -/
abbrev Location := List String

/-- A location as a written path. -/
def Location.toString (l : Location) : String := "/" ++ "/".intercalate l

/-- A written path. Two slashes at the start, and no third, are not the same root as one. -/
structure Path where
  root : String
  parts : List String
deriving DecidableEq, Repr

namespace Path

/-- The slashes with which a written path begins. -/
def rootOf : List Char → String
  | '/' :: '/' :: '/' :: _ => "/"
  | '/' :: '/' :: _ => "//"
  | '/' :: _ => "/"
  | _ => ""

/-- Read a written path. -/
def ofString (text : String) : Path :=
  ⟨rootOf text.toList,
    ((splitWhere (· = '/') text.toList).map String.ofList).filter fun part =>
      part ≠ "" && part ≠ "."⟩

/-- Write a path; one without parts is written as a single point. -/
def toString (p : Path) : String :=
  if p.root = "" && p.parts.isEmpty then "." else p.root ++ "/".intercalate p.parts

/-- Whether a path does not depend on the working directory. -/
def isAbsolute (p : Path) : Bool := p.root ≠ ""

/-- Whether a null character stands in a path. -/
def holdsNull (p : Path) : Bool := p.parts.any fun part => part.toList.contains '\x00'

/-- One part further. -/
def advance (l : Location) (part : String) : Location :=
  if part = ".." then l.dropLast else l ++ [part]

/-- Where a path leads from a directory, whether or not there is anything. -/
def resolve (directory : Location) (p : Path) : Location :=
  p.parts.foldl advance (if p.isAbsolute then [] else directory)

end Path

/-- The path of a location, which begins at the root. -/
def Location.toPath (l : Location) : Path := ⟨"/", l⟩

/-- A location and all directories above it, the nearest first. -/
def ancestors (l : Location) : List Location :=
  (List.range (l.length + 1)).reverse.map l.take

/-- A location is the first among its ancestors, and the others are those of its parent. -/
theorem ancestors_append_singleton (l : Location) (part : String) :
    ancestors (l ++ [part]) = (l ++ [part]) :: ancestors l := by
  have htake : ∀ n ∈ List.range (l.length + 1), (l ++ [part]).take n = l.take n := by
    intro n hn
    exact List.take_append_of_le_length (by have := List.mem_range.mp hn; omega)
  simp only [ancestors, List.length_append, List.length_singleton,
    List.range_succ (n := l.length + 1), List.reverse_append, List.reverse_singleton,
    List.singleton_append, List.map_cons]
  congr 1
  · exact List.take_of_length_le (by simp)
  · exact List.map_congr_left fun n hn => htake n (List.mem_reverse.mp hn)

end Calculator
