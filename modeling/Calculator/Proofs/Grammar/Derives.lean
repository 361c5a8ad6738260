import Calculator.Expr.Basic
import Calculator.Token.Basic

/-!
# The grammar as a relation

`Derives conventional phrase w e` says that the lexemes `w` form a phrase whose tree is `e`:

    expression := term | expression ('+' | '-') term
    term       := operand | term ('*' | '/' | '^') operand
    operand    := factor
    factor     := number | constant | ('+' | '-') factor | '(' expression ')'
                | function '(' (expression (',' expression)*)? ')'

With conventional power, `^` joins no operands of a term, and an operand is a power:

    operand    := power
    power      := factor | factor '^' power

Chains are written with recursion on the left where they associate to the left. The relation is
stated without a limit on nesting and without a reading order.
-/

set_option autoImplicit false

namespace Calculator

/-! ## Phrases and operators -/

/-- The kinds of phrases. -/
inductive Phrase where
  | expression
  | term
  | power
  | factor
deriving DecidableEq

/-- The operands of a term. -/
def Phrase.operand : Bool → Phrase
  | true => .power
  | false => .factor

/-- The operation of an operator that joins terms. -/
def Operator.sum? : Operator → Option BinaryOp
  | .plus => some .add
  | .minus => some .sub
  | _ => none

/-- The operation of an operator that joins the operands of a term. -/
def Operator.product? (conventional : Bool) : Operator → Option BinaryOp
  | .times => some .mul
  | .divide => some .div
  | .power => if conventional then none else some .pow
  | _ => none

/-- The sign that an operator is in front of an operand. -/
def Operator.sign? : Operator → Option UnaryOp
  | .plus => some .pos
  | .minus => some .neg
  | _ => none

/-! ## Derivations -/

/-- The lexemes form a phrase of this kind, with this tree. -/
inductive Derives (conventional : Bool) : Phrase → List Lexeme → Expr → Prop
  | number (text : String) (value : Float) :
      Derives conventional .factor [.number text value] (.number value)
  | constant (name : String) : Derives conventional .factor [.constant name] (.constant name)
  | sign {op : Operator} {sign : UnaryOp} {w : List Lexeme} {e : Expr} :
      op.sign? = some sign → Derives conventional .factor w e →
      Derives conventional .factor (.operator op :: w) (.unary sign e)
  | group {w : List Lexeme} {e : Expr} : Derives conventional .expression w e →
      Derives conventional .factor (.leftParen :: (w ++ [.rightParen])) e
  | call (name : String) (arguments : List (List Lexeme × Expr)) :
      (∀ a ∈ arguments, Derives conventional .expression a.1 a.2) →
      Derives conventional .factor
        (.function name :: .leftParen ::
          ([.comma].intercalate (arguments.map Prod.fst) ++ [.rightParen]))
        (.call name (arguments.map Prod.snd))
  | base {w : List Lexeme} {e : Expr} : Derives conventional .factor w e →
      Derives conventional .power w e
  | power {w v : List Lexeme} {base exponent : Expr} : Derives conventional .factor w base →
      Derives conventional .power v exponent →
      Derives conventional .power (w ++ .operator .power :: v) (.binary .pow base exponent)
  | operand {w : List Lexeme} {e : Expr} : Derives conventional (.operand conventional) w e →
      Derives conventional .term w e
  | product {op : Operator} {operation : BinaryOp} {w v : List Lexeme} {left right : Expr} :
      op.product? conventional = some operation → Derives conventional .term w left →
      Derives conventional (.operand conventional) v right →
      Derives conventional .term (w ++ .operator op :: v) (.binary operation left right)
  | term {w : List Lexeme} {e : Expr} : Derives conventional .term w e →
      Derives conventional .expression w e
  | sum {op : Operator} {operation : BinaryOp} {w v : List Lexeme} {left right : Expr} :
      op.sum? = some operation → Derives conventional .expression w left →
      Derives conventional .term v right →
      Derives conventional .expression (w ++ .operator op :: v) (.binary operation left right)

/-- The lexemes are the beginning of some expression. -/
def Viable (conventional : Bool) (w : List Lexeme) : Prop :=
  ∃ v e, Derives conventional .expression (w ++ v) e

namespace Derives

variable {conventional : Bool} {w : List Lexeme} {e : Expr}

/-! ## Short phrases as long ones -/

/-- A factor is an operand of a term. -/
theorem operand_of_factor (h : Derives conventional .factor w e) :
    Derives conventional (.operand conventional) w e := by
  cases conventional with
  | false => exact h
  | true => exact h.base

/-- A factor is an expression. -/
theorem expression_of_factor (h : Derives conventional .factor w e) :
    Derives conventional .expression w e :=
  h.operand_of_factor.operand.term

/-! ## First lexemes -/

/-- A phrase is not empty, and it does not begin with the end of an argument list. -/
theorem exists_cons {phrase : Phrase} (h : Derives conventional phrase w e) :
    ∃ first rest, w = first :: rest ∧ first ≠ .rightParen := by
  induction h with
  | number text value => exact ⟨_, _, rfl, by simp⟩
  | constant name => exact ⟨_, _, rfl, by simp⟩
  | sign _ _ _ => exact ⟨_, _, rfl, by simp⟩
  | group _ _ => exact ⟨_, _, rfl, by simp⟩
  | call name arguments _ _ => exact ⟨_, _, rfl, by simp⟩
  | base _ ih => exact ih
  | operand _ ih => exact ih
  | term _ ih => exact ih
  | power _ _ ih _ =>
      obtain ⟨first, rest, rfl, hfirst⟩ := ih
      exact ⟨first, _, rfl, hfirst⟩
  | product _ _ _ ih _ =>
      obtain ⟨first, rest, rfl, hfirst⟩ := ih
      exact ⟨first, _, rfl, hfirst⟩
  | sum _ _ _ ih _ =>
      obtain ⟨first, rest, rfl, hfirst⟩ := ih
      exact ⟨first, _, rfl, hfirst⟩

end Derives

end Calculator
