import Calculator.Console.Output

/-!
# Printed tables

A table is printed with a title above it, a heavy line around its headings and a light one around
its rows. Columns are as wide as their widest cell, and the title stands in the middle.
-/

set_option autoImplicit false

namespace Calculator.Terminal.Box

open Console (Column Table)

/-- A text filled up with blanks to a width. -/
def fill (alignsRight : Bool) (width : Nat) (text : String) : String :=
  let blanks := String.ofList (List.replicate (width - text.length) ' ')
  if alignsRight then blanks ++ text else text ++ blanks

/-- The width of a column: that of its widest cell. -/
def width (t : Table) (index : Nat) (c : Column) : Nat :=
  t.rows.foldl (fun w row => max w (row.getD index "").length) c.heading.length

/-- The widths of all columns. -/
def widths (t : Table) : List Nat :=
  t.columns.zipIdx.map fun (c, index) => width t index c

/-- A line between rows or around them. -/
def rule (left fill between right : String) (widths : List Nat) : String :=
  let segments := widths.map fun w => String.join (List.replicate (w + 2) fill)
  left ++ between.intercalate segments ++ right

/-- A row of cells with lines between them. -/
def line (t : Table) (border : String) (cells : List String) : String :=
  let filled := ((t.columns.zip (widths t)).zip cells).map fun ((c, w), cell) =>
    " " ++ fill c.alignsRight w cell ++ " "
  border ++ border.intercalate filled ++ border

/-- The title in the middle above the table. -/
def titleLine (t : Table) : String :=
  let total := (widths t).foldr (fun width rest => width + 3 + rest) 1
  String.ofList (List.replicate ((total - t.title.length) / 2) ' ') ++ t.title

/-- The lines of a table. -/
def lines (t : Table) : List String :=
  [titleLine t, rule "┏" "━" "┳" "┓" (widths t), line t "┃" (t.columns.map Column.heading),
    rule "┡" "━" "╇" "┩" (widths t)] ++
  t.rows.map (line t "│") ++
  [rule "└" "─" "┴" "┘" (widths t)]

end Calculator.Terminal.Box
