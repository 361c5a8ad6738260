import Calculator.Expr.Basic

/-!
# Printed expressions

A binary operation is printed between parentheses with spaces around the operator, a sign directly
in front of its operand, and a call with its arguments between commas. Numbers are printed in full.
-/

set_option autoImplicit false

namespace Calculator.Expr

mutual

/-- The text of an expression. -/
def chars : Expr → List Char
  | .number value => floatChars value
  | .constant name => name.toList
  | .binary op left right =>
      '(' :: left.chars ++ ' ' :: op.symbol.toList ++ ' ' :: right.chars ++ [')']
  | .unary op operand => op.symbol.toList ++ operand.chars
  | .call name arguments => name.toList ++ '(' :: listChars arguments ++ [')']

/-- The texts of several expressions, with commas between them. -/
def listChars : List Expr → List Char
  | [] => []
  | e :: rest => e.chars ++ tailChars rest

/-- The texts of further expressions, each after a comma. -/
def tailChars : List Expr → List Char
  | [] => []
  | e :: rest => ',' :: ' ' :: e.chars ++ tailChars rest

end

/-- An expression as a string. -/
def print (e : Expr) : String := String.ofList e.chars

end Calculator.Expr
