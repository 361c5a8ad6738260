import Calculator.Diagnostic
import Calculator.Expr.Draft
import Calculator.Host
import Calculator.Token.Lexer

/-!
# Reading expressions

The grammar, with the lowest tier first:

    expression := term (('+' | '-') term)*
    term       := factor (('*' | '/' | '^') factor)*
    factor     := number | constant | ('+' | '-') factor | '(' expression ')'
                | function '(' (expression (',' expression)*)? ')'

With conventional power, `^` has a tier of its own and associates to the right:

    term       := power (('*' | '/') power)*
    power      := factor ('^' power)?

`Draft.step` reads one token and `Draft.finish` the end of the input, so that reading a source
is a fold of `step` over its tokens. A token is refused as soon as no continuation could be
accepted; a lexical fault is reported when the tokens before it have been accepted.
-/

set_option autoImplicit false

namespace Calculator

/-! ## Errors -/

/-- Why a token cannot stand where it stands. -/
inductive GrammarError where
  | unexpectedEnd
  | unexpectedToken (text : String)
  | missingArguments (function : String)
  | unclosedGroup (opened : Nat)
  | unclosedArguments (function : String)
  | trailing (text : String)
  | tooNested (limit : Int)
deriving DecidableEq, Repr

/-- The wording of a grammar error. A limit can have too many digits to be written. -/
def GrammarError.message : GrammarError → Except Fault String
  | .unexpectedEnd => .ok "Unexpected end of expression"
  | .unexpectedToken text => .ok ("Unexpected token: " ++ quoted text)
  | .missingArguments function => .ok ("Expected '(' after function " ++ quoted function)
  | .unclosedGroup opened => .ok ("Expected ')' to close '(' at position " ++ toString opened)
  | .unclosedArguments function => .ok ("Expected ')' to close arguments of " ++ quoted function)
  | .trailing text => .ok ("Unexpected token after expression: " ++ quoted text)
  | .tooNested limit => do
      return "Expression nested too deeply (limit " ++ (← writeInt limit) ++ ")"

/-- A grammar error at a position of the source. -/
structure GrammarFault where
  cause : GrammarError
  pos : Nat
deriving DecidableEq, Repr

/-! ## One token -/

/-- The grammar and the nesting limit. -/
structure Rules where
  conventionalPower : Bool
  nestingLimit : Int
deriving DecidableEq, Repr

namespace Draft

/-- The first token of an operand. -/
def beginOperand (s : Draft) (t : Token) : Except GrammarFault Draft :=
  match t.lexeme with
  | .number _ value => .ok (s.operandRead (.number value))
  | .constant name => .ok (s.operandRead (.constant name))
  | .function name => .ok { s with focus := .callee name }
  | .operator .plus => .ok (s.await (.sign .pos) s.pending)
  | .operator .minus => .ok (s.await (.sign .neg) s.pending)
  | .leftParen => .ok (s.openBracket (.group t.pos))
  | lexeme => .error ⟨.unexpectedToken lexeme.text, t.pos⟩

/-- An operator after an operand. It ends the operators that bind at least as tightly, except that
a power with a tier of its own ends none. -/
def afterOperand (rules : Rules) (s : Draft) (value : Expr) (op : Operator) : Draft :=
  let sum := fun op =>
    let (left, pending) := endOperators .sum value s.pending
    s.await (.sum op left) pending
  let product := fun op =>
    let (left, pending) := endOperators .product value s.pending
    s.await (.product op left) pending
  match op with
  | .plus => sum .add
  | .minus => sum .sub
  | .times => product .mul
  | .divide => product .div
  | .power => if rules.conventionalPower then s.await (.power value) s.pending else product .pow

/-- Another token after an operand: the expression ends here, and the innermost parenthesis decides
what may follow. -/
def endExpression (s : Draft) (value : Expr) (t : Token) : Except GrammarFault Draft :=
  let value := endAll value s.pending
  match s.enclosing with
  | [] => .error ⟨.trailing t.lexeme.text, t.pos⟩
  | (.group opened, pending) :: enclosing =>
      match t.lexeme with
      | .rightParen => .ok (operandRead ⟨pending, enclosing, .operand⟩ value)
      | _ => .error ⟨.unclosedGroup opened, t.pos⟩
  | (.call name arguments, pending) :: enclosing =>
      match t.lexeme with
      | .rightParen =>
          .ok (operandRead ⟨pending, enclosing, .operand⟩
            (.call name (value :: arguments).reverse))
      | .comma => .ok ⟨[], (.call name (value :: arguments), pending) :: enclosing, .operand⟩
      | _ => .error ⟨.unclosedArguments name, t.pos⟩

/-- Read one token. -/
def step (rules : Rules) (s : Draft) (t : Token) : Except GrammarFault Draft :=
  match s.focus with
  | .operand =>
      if s.tooNested rules.nestingLimit then .error ⟨.tooNested rules.nestingLimit, t.pos⟩
      else s.beginOperand t
  | .arguments name =>
      if s.tooNested rules.nestingLimit then .error ⟨.tooNested rules.nestingLimit, t.pos⟩
      else match t.lexeme with
        | .rightParen => .ok (s.operandRead (.call name []))
        | _ => (s.openBracket (.call name [])).beginOperand t
  | .callee name =>
      match t.lexeme with
      | .leftParen => .ok { s with focus := .arguments name }
      | _ => .error ⟨.missingArguments name, t.pos⟩
  | .complete value =>
      match t.lexeme with
      | .operator op => .ok (s.afterOperand rules value op)
      | _ => s.endExpression value t

/-- Reach the end of the input. -/
def finish (rules : Rules) (s : Draft) (pos : Nat) : Except GrammarFault Expr :=
  match s.focus with
  | .operand | .arguments _ =>
      if s.tooNested rules.nestingLimit then .error ⟨.tooNested rules.nestingLimit, pos⟩
      else .error ⟨.unexpectedEnd, pos⟩
  | .callee name => .error ⟨.missingArguments name, pos⟩
  | .complete value =>
      match s.enclosing with
      | [] => .ok (endAll value s.pending)
      | (.group opened, _) :: _ => .error ⟨.unclosedGroup opened, pos⟩
      | (.call name _, _) :: _ => .error ⟨.unclosedArguments name, pos⟩

end Draft

/-! ## A whole source -/

/-- Why a source is no expression. -/
inductive ParseError where
  | lexical (fault : LexicalFault)
  | grammar (fault : GrammarFault)
  /-- More levels are open than can be kept, under a limit that admits them. -/
  | tooDeep (limit : Int)
deriving DecidableEq, Repr

/-- Read the tokens of a scan. -/
def Scan.parse (rules : Rules) (s : Scan) : Except ParseError Expr :=
  match s.tokens.foldlM (Draft.step rules) Draft.start with
  | .error fault => .error (.grammar fault)
  | .ok state =>
      match s.stop with
      | .fault fault => .error (.lexical fault)
      | .endOfInput pos => (state.finish rules pos).mapError .grammar

/-- A nesting error under the levels that the host can keep, which stand in for a limit beyond
them. -/
def ParseError.beyondCapacity (limit : Int) : ParseError → ParseError
  | .grammar ⟨.tooNested _, _⟩ => .tooDeep limit
  | e => e

/-- Read a source under given settings. -/
def parse (host : Host) (registry : Registry) (settings : Settings) (source : String) :
    Except ParseError Expr :=
  let scan := Scan.ofSource ⟨registry, settings.nameLimit⟩ source
  if settings.nestingLimit ≤ host.levels then
    scan.parse ⟨settings.conventionalPower, settings.nestingLimit⟩
  else
    (scan.parse ⟨settings.conventionalPower, host.levels⟩).mapError
      (ParseError.beyondCapacity settings.nestingLimit)

section Capacity

variable {host : Host} {settings : Settings} (registry : Registry) (source : String)

/-- A limit that the host can keep is the one under which a source is read. -/
theorem parse_eq_of_le_levels (h : settings.nestingLimit ≤ host.levels) :
    parse host registry settings source =
      (Scan.ofSource ⟨registry, settings.nameLimit⟩ source).parse
        ⟨settings.conventionalPower, settings.nestingLimit⟩ :=
  if_pos h

/-- Beyond that, a source is read under the levels of the host, and told what is beyond them. -/
theorem parse_eq_of_levels_lt (h : host.levels < settings.nestingLimit) :
    parse host registry settings source =
      ((Scan.ofSource ⟨registry, settings.nameLimit⟩ source).parse
        ⟨settings.conventionalPower, host.levels⟩).mapError
          (ParseError.beyondCapacity settings.nestingLimit) :=
  if_neg (Int.not_le.mpr h)

end Capacity

end Calculator
