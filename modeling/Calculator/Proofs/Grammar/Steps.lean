import Calculator.Proofs.Grammar.Derives
import Calculator.Proofs.Grammar.Unlimited

/-!
# What one token does

One equation for each place in which a token is read without a limit: an operand begins, an operator
stands after an operand, a parenthesis is opened or closed, or an argument ends. Operators are
treated by what they are in the grammar, and not one by one.
-/

set_option autoImplicit false

namespace Calculator

/-- An operator after an operand joins terms or operands of a term, or it is a power with a tier of
its own. -/
theorem Operator.joins_cases (conventional : Bool) (op : Operator) :
    (∃ operation, op.sum? = some operation) ∨
      (∃ operation, op.product? conventional = some operation) ∨
      (conventional = true ∧ op = .power) := by
  cases op with
  | plus => exact Or.inl ⟨.add, rfl⟩
  | minus => exact Or.inl ⟨.sub, rfl⟩
  | times => exact Or.inr (Or.inl ⟨.mul, rfl⟩)
  | divide => exact Or.inr (Or.inl ⟨.div, rfl⟩)
  | power =>
      cases conventional with
      | false => exact Or.inr (Or.inl ⟨.pow, rfl⟩)
      | true => exact Or.inr (Or.inr ⟨rfl, rfl⟩)

namespace Draft

variable {conventional : Bool} {pending outside : List Pending}
  {enclosing : List (Bracket × List Pending)} {t : Token} {op : Operator} {operation : BinaryOp}
  {value : Expr} {name : String}

/-! ## Operators -/

/-- An operator that joins terms ends all operators that wait. -/
theorem afterOperand_sum (rules : Rules) (s : Draft) (value : Expr)
    (hop : op.sum? = some operation) :
    s.afterOperand rules value op =
      ⟨[.sum operation (endAll value s.pending)], s.enclosing, .operand⟩ := by
  cases op with
  | plus => cases hop; simp only [afterOperand, endOperators_sum, await]
  | minus => cases hop; simp only [afterOperand, endOperators_sum, await]
  | _ => cases hop

/-- An operator that joins operands of a term ends the operators that bind as tightly. -/
theorem afterOperand_product {rules : Rules} (s : Draft) (value : Expr)
    (hop : op.product? rules.conventionalPower = some operation) :
    s.afterOperand rules value op =
      ⟨.product operation (endOperators .product value s.pending).1 ::
        (endOperators .product value s.pending).2, s.enclosing, .operand⟩ := by
  cases op with
  | plus => cases hop
  | minus => cases hop
  | times => cases hop; rfl
  | divide => cases hop; rfl
  | power =>
      obtain ⟨conventional, limit⟩ := rules
      cases conventional with
      | true => cases hop
      | false => cases hop; rfl

theorem advance_sum (hop : op.sum? = some operation) (ht : t.lexeme = .operator op) :
    advance conventional ⟨pending, enclosing, .complete value⟩ t =
      .ok ⟨[.sum operation (endAll value pending)], enclosing, .operand⟩ := by
  simp only [advance, step, ht]
  rw [afterOperand_sum _ _ _ hop]

theorem advance_product (hop : op.product? conventional = some operation)
    (ht : t.lexeme = .operator op) :
    advance conventional ⟨pending, enclosing, .complete value⟩ t =
      .ok ⟨.product operation (endOperators .product value pending).1 ::
        (endOperators .product value pending).2, enclosing, .operand⟩ := by
  simp only [advance, step, ht]
  rw [afterOperand_product _ _ hop]

/-- A power with a tier of its own ends no operator. -/
theorem advance_power (ht : t.lexeme = .operator .power) :
    advance true ⟨pending, enclosing, .complete value⟩ t =
      .ok ⟨.power value :: pending, enclosing, .operand⟩ := by
  simp only [advance, step, ht]
  rfl

/-! ## Operands -/

theorem advance_number {text : String} {number : Float} (ht : t.lexeme = .number text number) :
    advance conventional ⟨pending, enclosing, .operand⟩ t =
      .ok (operandRead ⟨pending, enclosing, .operand⟩ (.number number)) := by
  simp only [advance_operand, beginOperand, ht]

theorem advance_constant (ht : t.lexeme = .constant name) :
    advance conventional ⟨pending, enclosing, .operand⟩ t =
      .ok (operandRead ⟨pending, enclosing, .operand⟩ (.constant name)) := by
  simp only [advance_operand, beginOperand, ht]

theorem advance_sign {sign : UnaryOp} (hop : op.sign? = some sign)
    (ht : t.lexeme = .operator op) :
    advance conventional ⟨pending, enclosing, .operand⟩ t =
      .ok ⟨.sign sign :: pending, enclosing, .operand⟩ := by
  simp only [advance_operand, beginOperand, ht]
  cases op with
  | plus => cases hop; rfl
  | minus => cases hop; rfl
  | _ => cases hop

theorem advance_leftParen (ht : t.lexeme = .leftParen) :
    advance conventional ⟨pending, enclosing, .operand⟩ t =
      .ok ⟨[], (.group t.pos, pending) :: enclosing, .operand⟩ := by
  simp only [advance_operand, beginOperand, ht, openBracket]

/-! ## Calls -/

theorem advance_function (ht : t.lexeme = .function name) :
    advance conventional ⟨pending, enclosing, .operand⟩ t =
      .ok ⟨pending, enclosing, .callee name⟩ := by
  simp only [advance_operand, beginOperand, ht]

theorem advance_callee_leftParen (ht : t.lexeme = .leftParen) :
    advance conventional ⟨pending, enclosing, .callee name⟩ t =
      .ok ⟨pending, enclosing, .arguments name⟩ := by
  simp only [advance_callee, ht]

/-- A call may end before its first argument. -/
theorem advance_arguments_rightParen (ht : t.lexeme = .rightParen) :
    advance conventional ⟨pending, enclosing, .arguments name⟩ t =
      .ok (operandRead ⟨pending, enclosing, .arguments name⟩ (.call name [])) := by
  simp only [advance_arguments, ht]

/-- A first argument begins as an operand inside the parenthesis of its call. -/
theorem advance_arguments_of_ne (ht : t.lexeme ≠ .rightParen) :
    advance conventional ⟨pending, enclosing, .arguments name⟩ t =
      advance conventional ⟨[], (.call name [], pending) :: enclosing, .operand⟩ t := by
  rw [advance_arguments, advance_operand]
  split
  · next hlexeme => exact absurd hlexeme ht
  · rfl

/-! ## Ends of expressions -/

theorem advance_endGroup {opened : Nat} (ht : t.lexeme = .rightParen) :
    advance conventional ⟨pending, (.group opened, outside) :: enclosing, .complete value⟩ t =
      .ok (operandRead ⟨outside, enclosing, .operand⟩ (endAll value pending)) := by
  simp only [advance, step, ht, endExpression]

theorem advance_endCall {arguments : List Expr} (ht : t.lexeme = .rightParen) :
    advance conventional ⟨pending, (.call name arguments, outside) :: enclosing, .complete value⟩
        t =
      .ok (operandRead ⟨outside, enclosing, .operand⟩
        (.call name (endAll value pending :: arguments).reverse)) := by
  simp only [advance, step, ht, endExpression]

theorem advance_comma {arguments : List Expr} (ht : t.lexeme = .comma) :
    advance conventional ⟨pending, (.call name arguments, outside) :: enclosing, .complete value⟩
        t =
      .ok ⟨[], (.call name (endAll value pending :: arguments), outside) :: enclosing,
        .operand⟩ := by
  simp only [advance, step, ht, endExpression]

end Draft

end Calculator
