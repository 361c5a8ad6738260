import Calculator.Expr.Basic
import Calculator.Token.Basic

/-!
# Drafts

While an expression is read from left to right, what has been read is kept in a draft: the
operators that wait for the end of their right operand, the parentheses that are still open, each
with the operators that wait outside it, and what may come next.

An operator that waits is ended by the next operator that binds no tighter. Tiers say how tight:
`+` and `-` stand lowest, then `*` and `/`, then a power, then a sign. Where `^` has no tier of its
own, it stands in the tier of `*` and `/`.

A level is opened by every parenthesis, every sign and every power with a tier of its own, and
closed with it.
-/

set_option autoImplicit false

namespace Calculator

/-! ## Operators that wait -/

/-- How tightly an operator binds. -/
inductive Tier where
  | sum
  | product
  | power
  | sign
deriving DecidableEq, Repr

/-- The tiers in order. -/
def Tier.rank : Tier → Nat
  | .sum => 0
  | .product => 1
  | .power => 2
  | .sign => 3

/-- An operator whose right operand is being read. -/
inductive Pending where
  | sum (op : BinaryOp) (left : Expr)
  | product (op : BinaryOp) (left : Expr)
  | power (base : Expr)
  | sign (op : UnaryOp)

namespace Pending

/-- The tier of an operator. -/
def tier : Pending → Tier
  | .sum _ _ => .sum
  | .product _ _ => .product
  | .power _ => .power
  | .sign _ => .sign

/-- The operation, now that its right operand is known. -/
def apply : Pending → Expr → Expr
  | .sum op left, right => .binary op left right
  | .product op left, right => .binary op left right
  | .power base, exponent => .binary .pow base exponent
  | .sign op, operand => .unary op operand

/-- Whether the operator has opened a level. -/
def opensLevel : Pending → Bool
  | .power _ => true
  | .sign _ => true
  | _ => false

end Pending

/-- End the operators that bind at least as tightly as a tier, the innermost first. -/
def endOperators (tier : Tier) : Expr → List Pending → Expr × List Pending
  | value, [] => (value, [])
  | value, p :: rest =>
      if tier.rank ≤ p.tier.rank then endOperators tier (p.apply value) rest else (value, p :: rest)

/-- End all operators that wait. -/
def endAll (value : Expr) (pending : List Pending) : Expr :=
  pending.foldl (fun value p => p.apply value) value

/-- Every operator binds at least as tightly as a sum. -/
theorem endOperators_sum (value : Expr) (pending : List Pending) :
    endOperators .sum value pending = (endAll value pending, []) := by
  induction pending generalizing value with
  | nil => rfl
  | cons p rest ih => simp [endOperators, Tier.rank, ih, endAll]

/-! ## Open parentheses -/

/-- An open parenthesis. -/
inductive Bracket where
  /-- A parenthesis around an expression, with its position. -/
  | group (pos : Nat)
  /-- The parenthesis of a call, with the arguments already read, the last one first. -/
  | call (name : String) (arguments : List Expr)

/-- What may come next. -/
inductive Focus where
  /-- An operand must begin. -/
  | operand
  /-- A function name has been read, and its parenthesis must follow. -/
  | callee (name : String)
  /-- The parenthesis of a call has been read; its first argument or its end must follow. -/
  | arguments (name : String)
  /-- An operand has been read. -/
  | complete (value : Expr)

/-- A partly read expression. -/
structure Draft where
  /-- The operators that wait inside the innermost parenthesis, the innermost first. -/
  pending : List Pending
  /-- The open parentheses, the innermost first, each with the operators that wait outside it. -/
  enclosing : List (Bracket × List Pending)
  focus : Focus

namespace Draft

/-- Nothing has been read. -/
def start : Draft := ⟨[], [], .operand⟩

/-- The levels opened by operators that wait. -/
def operatorLevels (pending : List Pending) : Nat := pending.countP Pending.opensLevel

/-- The level of a call whose parenthesis has just been read. -/
def focusLevels : Focus → Nat
  | .arguments _ => 1
  | _ => 0

/-- The levels that are open. -/
def levels (s : Draft) : Nat :=
  focusLevels s.focus + operatorLevels s.pending +
    s.enclosing.foldr (fun e inner => operatorLevels e.2 + 1 + inner) 0

/-- More levels are open than the limit admits. Without an open level no limit is exceeded. -/
def tooNested (limit : Int) (s : Draft) : Bool :=
  0 < s.levels && limit < (s.levels : Int)

/-- An operand has been read; it ends the signs in front of it. -/
def operandRead (s : Draft) (value : Expr) : Draft :=
  let (value, pending) := endOperators .sign value s.pending
  { s with pending := pending, focus := .complete value }

/-- An operator has been read that now waits for its right operand. -/
def await (s : Draft) (p : Pending) (pending : List Pending) : Draft :=
  { s with pending := p :: pending, focus := .operand }

/-- A parenthesis has been opened, and an operand must begin inside it. -/
def openBracket (s : Draft) (bracket : Bracket) : Draft :=
  ⟨[], (bracket, s.pending) :: s.enclosing, .operand⟩

end Draft

end Calculator
