import Calculator.Text.Quoted

/-!
# Diagnostics

What a user is told when something fails: the stage that failed, a message and, if it is known, the
place in the source. A place is shown as two lines, the source and a caret below the character.
-/

set_option autoImplicit false

namespace Calculator

/-- The stages that can fail. -/
inductive Stage where
  | lexical
  | grammar
  | evaluation
  | configuration
deriving DecidableEq, Repr

/-- The word for a stage. -/
def Stage.word : Stage → String
  | .lexical => "lexical"
  | .grammar => "syntax"
  | .evaluation => "evaluation"
  | .configuration => "config"

/-- The word for a stage at the start of a sentence. -/
def Stage.heading : Stage → String
  | .lexical => "Lexical"
  | .grammar => "Syntax"
  | .evaluation => "Evaluation"
  | .configuration => "Config"

/-! ## Places -/

/-- A place in a source. -/
structure Place where
  source : String
  pos : Int
deriving DecidableEq, Repr

/-- Line feeds, carriage returns and tabs are shown as spaces, so that the source stays on one line
and keeps its columns. -/
def onOneLine (source : List Char) : List Char :=
  source.map fun c => if c = '\n' || c = '\r' || c = '\t' then ' ' else c

theorem length_onOneLine (source : List Char) : (onOneLine source).length = source.length :=
  List.length_map ..

/-- The column of the caret: never beyond the end of the source, nor before its start. -/
def Place.column (p : Place) : Nat := min p.pos.toNat p.source.toList.length

/-- The source, indented by two spaces. -/
def Place.sourceLine (p : Place) : List Char := ' ' :: ' ' :: onOneLine p.source.toList

/-- The caret, below the character at the place. -/
def Place.caretLine (p : Place) : List Char :=
  ' ' :: ' ' :: List.replicate p.column ' ' ++ ['^']

/-- The source with the caret below it. -/
def Place.format (p : Place) : String :=
  String.ofList (p.sourceLine ++ '\n' :: p.caretLine)

/-! ## Diagnostics -/

/-- A failure as it is told to a user. -/
structure Diagnostic where
  stage : Stage
  message : String
  place : Option Place
deriving DecidableEq, Repr

/-- The whole text of a diagnostic: the place, if there is one, above the message. -/
def Diagnostic.text (d : Diagnostic) : String :=
  match d.place with
  | some p => p.format ++ "\n" ++ d.message
  | none => d.message

end Calculator
