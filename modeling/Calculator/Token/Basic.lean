import Calculator.Registry.Basic

/-!
# Tokens

An expression is read as a list of tokens. A token is a lexeme with the position of its first
character, counted in characters from the start of the source.
-/

set_option autoImplicit false

namespace Calculator

/-- The five operator signs. -/
inductive Operator where
  | plus
  | minus
  | times
  | divide
  | power
deriving DecidableEq, Repr

/-- The character of an operator sign. -/
def Operator.symbol : Operator → Char
  | .plus => '+'
  | .minus => '-'
  | .times => '*'
  | .divide => '/'
  | .power => '^'

/-- The operator sign that a character is. -/
def Operator.ofChar? : Char → Option Operator
  | '+' => some .plus
  | '-' => some .minus
  | '*' => some .times
  | '/' => some .divide
  | '^' => some .power
  | _ => none

theorem Operator.ofChar?_symbol (op : Operator) : Operator.ofChar? op.symbol = some op := by
  cases op <;> rfl

/-- The smallest parts of an expression. -/
inductive Lexeme where
  | number (text : String) (value : Float)
  | operator (op : Operator)
  | function (name : String)
  | constant (name : String)
  | leftParen
  | rightParen
  | comma

/-- The text of a lexeme; a name that was cut is given as cut. -/
def Lexeme.text : Lexeme → String
  | .number text _ => text
  | .operator op => op.symbol.toString
  | .function name => name
  | .constant name => name
  | .leftParen => "("
  | .rightParen => ")"
  | .comma => ","

/-- The parenthesis or comma that a character is. -/
def Lexeme.ofPunctuation? : Char → Option Lexeme
  | '(' => some .leftParen
  | ')' => some .rightParen
  | ',' => some .comma
  | _ => none

/-- A lexeme at a position of the source. -/
structure Token where
  lexeme : Lexeme
  pos : Nat

/-- Why the text at a position is no token. -/
inductive LexicalError where
  | unknownCharacter (c : Char)
  | malformedNumber (text : String)
  | unknownName (name : String)
deriving DecidableEq, Repr

/-- The wording of a lexical error. -/
def LexicalError.message : LexicalError → String
  | .unknownCharacter c => "Unknown character: " ++ quoted c.toString
  | .malformedNumber text => "Malformed number: " ++ quoted text
  | .unknownName name => "Unknown identifier: " ++ quoted name

/-- A lexical error at a position of the source. -/
structure LexicalFault where
  cause : LexicalError
  pos : Nat
deriving DecidableEq, Repr

/-- The names that tokens may use, and the length to which names are cut. -/
structure Vocabulary where
  registry : Registry
  nameLimit : Int

/-- A name cut to its first `limit` characters; a negative limit cuts as many off its end. -/
def cutName (limit : Int) (name : List Char) : List Char :=
  match limit with
  | .ofNat n => name.take n
  | .negSucc n => name.take (name.length - (n + 1))

/-- The lexeme of a name, after cutting. -/
def Vocabulary.classify (v : Vocabulary) (name : List Char) : Except LexicalError Lexeme :=
  let cut := String.ofList (cutName v.nameLimit name)
  if v.registry.isConstant cut then .ok (.constant cut)
  else if v.registry.isFunction cut then .ok (.function cut)
  else .error (.unknownName cut)

/-- The lexeme of a run of digits and points. -/
def Lexeme.ofNumeral (text : List Char) : Except LexicalError Lexeme :=
  match Decimal.ofChars? text with
  | some d => .ok (.number (String.ofList text) (d.toFloat false))
  | none => .error (.malformedNumber (String.ofList text))

end Calculator
