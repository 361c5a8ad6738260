import Calculator.Number.Layout

/-!
# Expressions

An expression is a tree of numbers, constants, signs, binary operators and calls. Trees that are
read from a source use the two signs and the five binary operators; a tree made by hand may hold
any other operator, which has no value.
-/

set_option autoImplicit false

namespace Calculator

/-- A binary operator. -/
inductive BinaryOp where
  | add
  | sub
  | mul
  | div
  | pow
  | other (symbol : String)
deriving DecidableEq, Repr

/-- The text of a binary operator. -/
def BinaryOp.symbol : BinaryOp → String
  | .add => "+"
  | .sub => "-"
  | .mul => "*"
  | .div => "/"
  | .pow => "^"
  | .other symbol => symbol

/-- The binary operator with a text. -/
def BinaryOp.ofSymbol (symbol : String) : BinaryOp :=
  if symbol = "+" then .add
  else if symbol = "-" then .sub
  else if symbol = "*" then .mul
  else if symbol = "/" then .div
  else if symbol = "^" then .pow
  else .other symbol

/-- A sign in front of an operand. -/
inductive UnaryOp where
  | pos
  | neg
  | other (symbol : String)
deriving DecidableEq, Repr

/-- The text of a sign. -/
def UnaryOp.symbol : UnaryOp → String
  | .pos => "+"
  | .neg => "-"
  | .other symbol => symbol

/-- The sign with a text. -/
def UnaryOp.ofSymbol (symbol : String) : UnaryOp :=
  if symbol = "+" then .pos
  else if symbol = "-" then .neg
  else .other symbol

/-- An expression tree. -/
inductive Expr where
  | number (value : Float)
  | constant (name : String)
  | binary (op : BinaryOp) (left right : Expr)
  | unary (op : UnaryOp) (operand : Expr)
  | call (name : String) (arguments : List Expr)
deriving Inhabited

namespace Expr

/-! ## Sameness -/

mutual

/-- Whether two trees are the same; numbers are compared as doubles. -/
def same : Expr → Expr → Bool
  | .number v, .number w => v == w
  | .constant m, .constant n => m == n
  | .binary o l r, .binary p l' r' => o == p && same l l' && same r r'
  | .unary o x, .unary p y => o == p && same x y
  | .call m xs, .call n ys => m == n && sameList xs ys
  | _, _ => false

/-- Whether two lists of trees are the same. -/
def sameList : List Expr → List Expr → Bool
  | [], [] => true
  | x :: xs, y :: ys => same x y && sameList xs ys
  | _, _ => false

end

end Expr

end Calculator
