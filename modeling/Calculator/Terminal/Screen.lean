import Calculator.Terminal.CellWidth
import Calculator.Terminal.Markup
import Calculator.Terminal.Table

/-!
# The screen

A printer for a terminal without colours. In markup and text short codes become emoji, control
characters that would move the cursor or ring the bell are left out, and tabs are filled up. Lines
are not broken, however long they are.
-/

set_option autoImplicit false

namespace Calculator.Terminal

/-- A text in which a tab moves on to the next column that is a multiple of eight. -/
def expandTabs (column : Nat) : List Char → List Char
  | [] => []
  | '\t' :: rest =>
      let blanks := 8 - column % 8
      List.replicate blanks ' ' ++ expandTabs (column + blanks) rest
  | '\n' :: rest => '\n' :: expandTabs 0 rest
  | c :: rest => c :: expandTabs (column + cellWidth c) rest

/-- The bell, the backspace, vertical tabs, form feeds and carriage returns are not printed. -/
def isUnprinted (c : Char) : Bool := [7, 8, 11, 12, 13].contains c.toNat

/-- A text as it reaches the screen. -/
def onScreen (text : List Char) : String :=
  String.ofList (expandTabs 0 (text.filter (!isUnprinted ·)))

/-- What is printed. -/
def printed : Console.Output → String
  | .marked markup => onScreen (Markup.shown markup)
  | .text content => onScreen (replaceCodes content.toList)
  | .table content => "\n".intercalate (Box.lines content)
  | .line content => content

/-- The printer for a terminal. -/
def printer : Console.Printer := ⟨Markup.escape, printed⟩

end Calculator.Terminal
