import Calculator.Token.Lexer

/-!
# Listed tokens

How tokens are shown when they are listed: the kind, the text, the position and, for a number, the
value. The end of the input is listed as an entry of its own, with an empty text.
-/

set_option autoImplicit false

namespace Calculator

/-- A line of a token list. -/
structure Entry where
  kind : String
  text : String
  pos : Nat
  number : Option Float

/-- The kind of a lexeme, as listed. -/
def Lexeme.kind : Lexeme → String
  | .number _ _ => "number"
  | .operator _ => "operator"
  | .function _ => "function"
  | .constant _ => "constant"
  | .leftParen => "lparen"
  | .rightParen => "rparen"
  | .comma => "comma"

/-- The value of a number. -/
def Lexeme.value? : Lexeme → Option Float
  | .number _ value => some value
  | _ => none

/-- The entry of a token. -/
def Token.entry (t : Token) : Entry :=
  ⟨t.lexeme.kind, t.lexeme.text, t.pos, t.lexeme.value?⟩

/-- The entry of the end of the input. -/
def Entry.endOfInput (pos : Nat) : Entry := ⟨"end", "", pos, none⟩

/-- An entry on one line. -/
def Entry.describe (e : Entry) : String :=
  "Token(" ++ e.kind ++ ", " ++ quoted e.text ++ ", pos=" ++ toString e.pos ++ ")"

/-- The entries of a source, with the end of the input last; or the first fault. -/
def Scan.entries (s : Scan) : Except LexicalFault (List Entry) :=
  match s.stop with
  | .endOfInput pos => .ok (s.tokens.map Token.entry ++ [Entry.endOfInput pos])
  | .fault f => .error f

/-- The entry of a reading, or its fault. -/
def Reading.entry : Reading → Except LexicalFault Entry
  | .token t => .ok t.entry
  | .endOfInput pos => .ok (Entry.endOfInput pos)
  | .fault f => .error f

end Calculator
