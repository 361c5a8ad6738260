import Calculator.Proofs.Grammar.Steps

/-!
# Reading in outline

An outline is what is known of a partly read expression apart from its tree: the parts that were
read, in the order of the source, the levels that are open, and what may come next.
`Outline.advance` reads one token and `Outline.conclude` the end of the input, without a limit on
nesting. The grammar matters in a single place: only a power with a tier of its own opens a level.

The levels are a stack, the innermost first. A level is opened by a parenthesis around an
expression, by the parenthesis of a call, by a sign and by a power with a tier of its own, and it
is closed when the content of that construct has been read. So one token opens one level or none,
and tokens that open none only close levels (`Outline.levels_advance`).
-/

set_option autoImplicit false

namespace Calculator

/-! ## Parts of expressions -/

/-- A part of an expression. The end of every argument and of every call is marked. -/
inductive Part where
  | number (value : Float)
  | constant (name : String)
  | sign (op : UnaryOp)
  | operation (op : BinaryOp)
  | call (name : String)
  | argumentEnd
  | callEnd

mutual

/-- The parts of a tree, in the order of the source: operands, signs, calls and operations. -/
def Expr.parts : Expr → List Part
  | .number value => [.number value]
  | .constant name => [.constant name]
  | .binary op left right => left.parts ++ .operation op :: right.parts
  | .unary op operand => .sign op :: operand.parts
  | .call name arguments => .call name :: (Expr.argumentParts arguments ++ [.callEnd])

/-- The parts of the arguments of a call. -/
def Expr.argumentParts : List Expr → List Part
  | [] => []
  | e :: rest => e.parts ++ .argumentEnd :: Expr.argumentParts rest

end

theorem Expr.argumentParts_append (es fs : List Expr) :
    Expr.argumentParts (es ++ fs) = Expr.argumentParts es ++ Expr.argumentParts fs := by
  induction es with
  | nil => rfl
  | cons e rest ih => simp [Expr.argumentParts, ih]

/-- The operation of an operator between operands. -/
def Operator.operation : Operator → BinaryOp
  | .plus => .add
  | .minus => .sub
  | .times => .mul
  | .divide => .div
  | .power => .pow

theorem Operator.operation_of_sum? {op : Operator} {operation : BinaryOp}
    (h : op.sum? = some operation) : op.operation = operation := by
  cases op <;> cases h <;> rfl

theorem Operator.operation_of_product? {conventional : Bool} {op : Operator} {operation : BinaryOp}
    (h : op.product? conventional = some operation) : op.operation = operation := by
  cases op <;> cases conventional <;> cases h <;> rfl

/-! ## Outlines -/

/-- A construct whose content is being read. -/
inductive Level where
  /-- A parenthesis around an expression, with its position. -/
  | group (pos : Nat)
  /-- The parenthesis of a call. -/
  | call (name : String)
  | sign
  /-- A power with a tier of its own. -/
  | power
deriving DecidableEq

def Level.isSign : Level → Bool
  | .sign => true
  | _ => false

def Level.isPower : Level → Bool
  | .power => true
  | _ => false

/-- What may come next. -/
inductive Expected where
  | operand
  | callee (name : String)
  /-- The parenthesis of a call has been read. -/
  | arguments
  /-- An operand has been read. -/
  | more
deriving DecidableEq

/-- A draft without trees. -/
structure Outline where
  /-- The levels that are open, the innermost first. -/
  levels : List Level
  expected : Expected
  /-- What has been read. -/
  parts : List Part

namespace Outline

/-- Nothing has been read. -/
def start : Outline := ⟨[], .operand, []⟩

/-- An operand has been read; it closes the signs in front of it. -/
def operandRead (levels : List Level) (parts : List Part) : Outline :=
  ⟨levels.dropWhile Level.isSign, .more, parts⟩

/-- The first token of an operand. -/
def beginOperand (o : Outline) (t : Token) : Except GrammarFault Outline :=
  match t.lexeme with
  | .number _ value => .ok (operandRead o.levels (o.parts ++ [.number value]))
  | .constant name => .ok (operandRead o.levels (o.parts ++ [.constant name]))
  | .function name => .ok ⟨o.levels, .callee name, o.parts ++ [.call name]⟩
  | .operator .plus => .ok ⟨.sign :: o.levels, .operand, o.parts ++ [.sign .pos]⟩
  | .operator .minus => .ok ⟨.sign :: o.levels, .operand, o.parts ++ [.sign .neg]⟩
  | .leftParen => .ok ⟨.group t.pos :: o.levels, .operand, o.parts⟩
  | lexeme => .error ⟨.unexpectedToken lexeme.text, t.pos⟩

/-- The levels after an operator: a power with a tier of its own opens one, and every other operator
closes the powers whose exponent it follows. -/
def levelsAfter (conventional : Bool) (levels : List Level) (op : Operator) : List Level :=
  if conventional && op = .power then .power :: levels else levels.dropWhile Level.isPower

/-- Another token after an operand: it closes powers, and then the innermost parenthesis decides. -/
def endExpression (o : Outline) (t : Token) : Except GrammarFault Outline :=
  match o.levels.dropWhile Level.isPower, t.lexeme with
  | .group _ :: outer, .rightParen => .ok (operandRead outer o.parts)
  | .group opened :: _, _ => .error ⟨.unclosedGroup opened, t.pos⟩
  | .call _ :: outer, .rightParen =>
      .ok (operandRead outer (o.parts ++ [.argumentEnd, .callEnd]))
  | .call name :: outer, .comma =>
      .ok ⟨.call name :: outer, .operand, o.parts ++ [.argumentEnd]⟩
  | .call name :: _, _ => .error ⟨.unclosedArguments name, t.pos⟩
  | _, lexeme => .error ⟨.trailing lexeme.text, t.pos⟩

/-- Read one token. -/
def advance (conventional : Bool) (o : Outline) (t : Token) : Except GrammarFault Outline :=
  match o.expected with
  | .operand => o.beginOperand t
  | .arguments =>
      match t.lexeme with
      | .rightParen => .ok (operandRead o.levels.tail (o.parts ++ [.callEnd]))
      | _ => o.beginOperand t
  | .callee name =>
      match t.lexeme with
      | .leftParen => .ok ⟨.call name :: o.levels, .arguments, o.parts⟩
      | _ => .error ⟨.missingArguments name, t.pos⟩
  | .more =>
      match t.lexeme with
      | .operator op =>
          .ok ⟨levelsAfter conventional o.levels op, .operand, o.parts ++ [.operation op.operation]⟩
      | _ => o.endExpression t

/-- Reach the end of the input, with the parts of what was read. -/
def conclude (o : Outline) (pos : Nat) : Except GrammarFault (List Part) :=
  match o.expected with
  | .operand => .error ⟨.unexpectedEnd, pos⟩
  | .arguments => .error ⟨.unexpectedEnd, pos⟩
  | .callee name => .error ⟨.missingArguments name, pos⟩
  | .more =>
      match o.levels.dropWhile Level.isPower with
      | .group opened :: _ => .error ⟨.unclosedGroup opened, pos⟩
      | .call name :: _ => .error ⟨.unclosedArguments name, pos⟩
      | _ => .ok o.parts

/-! ## Opening and closing -/

/-- One level is opened, and then an operand or an argument must follow, or some of the innermost
are closed, or none. -/
def OpensOrCloses (o after : Outline) : Prop :=
  (∃ level, after.levels = level :: o.levels ∧
      (after.expected = .operand ∨ after.expected = .arguments)) ∨
    after.levels <:+ o.levels

theorem opensOrCloses_beginOperand {o after : Outline} {t : Token}
    (h : o.beginOperand t = .ok after) : o.OpensOrCloses after := by
  unfold beginOperand at h
  split at h
  · cases h
    exact Or.inr (List.dropWhile_suffix _)
  · cases h
    exact Or.inr (List.dropWhile_suffix _)
  · cases h
    exact Or.inr (List.suffix_refl _)
  · cases h
    exact Or.inl ⟨_, rfl, Or.inl rfl⟩
  · cases h
    exact Or.inl ⟨_, rfl, Or.inl rfl⟩
  · cases h
    exact Or.inl ⟨_, rfl, Or.inl rfl⟩
  · cases h

/-- A token that ends an expression closes powers, and perhaps the parenthesis around them. -/
theorem opensOrCloses_endExpression {o after : Outline} {t : Token}
    (h : o.endExpression t = .ok after) : o.OpensOrCloses after := by
  right
  have hpowers := List.dropWhile_suffix Level.isPower (l := o.levels)
  unfold endExpression at h
  split at h
  · next hlevels _ =>
      cases h
      rw [hlevels] at hpowers
      exact (List.dropWhile_suffix _).trans ((List.suffix_cons _ _).trans hpowers)
  · cases h
  · next hlevels _ =>
      cases h
      rw [hlevels] at hpowers
      exact (List.dropWhile_suffix _).trans ((List.suffix_cons _ _).trans hpowers)
  · next hlevels _ =>
      cases h
      rw [hlevels] at hpowers
      exact hpowers
  · cases h
  · cases h

/-- What one token does to the levels. -/
theorem levels_advance {conventional : Bool} {o after : Outline} {t : Token}
    (h : o.advance conventional t = .ok after) : o.OpensOrCloses after := by
  unfold advance at h
  split at h
  · exact opensOrCloses_beginOperand h
  · split at h
    · cases h
      exact Or.inr ((List.dropWhile_suffix _).trans (List.tail_suffix _))
    · exact opensOrCloses_beginOperand h
  · split at h
    · cases h
      exact Or.inl ⟨_, rfl, Or.inr rfl⟩
    · cases h
  · split at h
    · next op _ =>
        cases h
        cases hpower : conventional && op = .power with
        | true => exact Or.inl ⟨.power, by simp only [levelsAfter, hpower, if_true], Or.inl rfl⟩
        | false =>
            right
            simp only [levelsAfter, hpower, Bool.false_eq_true, if_false]
            exact List.dropWhile_suffix _
    · exact opensOrCloses_endExpression h

end Outline

end Calculator
