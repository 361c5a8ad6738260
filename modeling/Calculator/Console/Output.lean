/-!
# Output

What the program hands over to be printed: markup, plain text, tables, or lines that are printed as
they are. A library prints it, and makes texts into markup that shows them.
-/

set_option autoImplicit false

namespace Calculator.Console

/-! ## Tables -/

/-- A column and its heading. -/
structure Column where
  heading : String
  alignsRight : Bool
deriving DecidableEq, Repr

/-- A table with a title. -/
structure Table where
  title : String
  columns : List Column
  rows : List (List String)
deriving DecidableEq, Repr

/-! ## Outputs -/

/-- Something to be printed. -/
inductive Output where
  | marked (markup : String)
  | text (content : String)
  | table (content : Table)
  | line (content : String)
deriving DecidableEq, Repr

/-- A text in red. -/
def red (markup : String) : String := "[red]" ++ markup ++ "[/red]"

/-- A library that prints. -/
structure Printer where
  /-- A text as markup. -/
  escape : String → String
  /-- What is printed; it ends with a line. -/
  print : Output → String

end Calculator.Console
