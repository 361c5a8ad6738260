import Calculator.Proofs.Grammar.Steps

/-!
# What a draft has read and what it awaits

`Awaits conventional phrase w pending enclosing` says that after the lexemes `w` the operators
`pending` and the parentheses `enclosing` are open and a phrase of this kind must follow. It has
one rule for each place of the grammar in which a phrase stands, and it is the invariant of reading:
`Draft.Accounts` holds of the draft after any tokens that were read (`Draft.Accounts.foldlM`).

Ending operators is a walk from an awaited phrase to the larger phrase around it
(`Awaits.closeSigns`, `Awaits.closeProducts`, `Awaits.closeAll`). Every draft that accounts for
what was read can still become an expression (`Draft.Accounts.viable`), and a draft that is
complete at the end of the input is one (`Draft.Accounts.derives_of_conclude`).
-/

set_option autoImplicit false

namespace Calculator

/-! ## Awaited phrases -/

/-- The lexemes of arguments that have been read, each with the comma after it. -/
def argumentLexemes (arguments : List (List Lexeme × Expr)) : List Lexeme :=
  arguments.flatMap fun a => a.1 ++ [.comma]

/-- The lexemes of a list of arguments are those of the arguments before the last, with their
commas, and those of the last one. -/
theorem intercalate_concat (arguments : List (List Lexeme × Expr)) (w : List Lexeme) :
    [.comma].intercalate (arguments.map Prod.fst ++ [w]) = argumentLexemes arguments ++ w := by
  induction arguments with
  | nil => simp [argumentLexemes, List.intercalate]
  | cons a rest ih =>
      cases rest with
      | nil => simp [argumentLexemes, List.intercalate]
      | cons b rest =>
          simp only [List.map_cons, List.cons_append] at ih ⊢
          rw [List.intercalate_cons_cons, ih]
          simp [argumentLexemes]

/-- One more argument after others. -/
theorem Derives.concat {conventional : Bool} {arguments : List (List Lexeme × Expr)}
    {w : List Lexeme} {e : Expr}
    (hall : ∀ a ∈ arguments, Derives conventional .expression a.1 a.2)
    (he : Derives conventional .expression w e) :
    ∀ a ∈ arguments ++ [(w, e)], Derives conventional .expression a.1 a.2 := by
  intro a ha
  rcases List.mem_append.mp ha with ha | ha
  · exact hall a ha
  · rw [List.mem_singleton.mp ha]
    exact he

/-- A call, with its last argument apart from the others. -/
theorem Derives.call_concat {conventional : Bool} (name : String)
    {arguments : List (List Lexeme × Expr)} {w : List Lexeme} {e : Expr}
    (hall : ∀ a ∈ arguments, Derives conventional .expression a.1 a.2)
    (he : Derives conventional .expression w e) :
    Derives conventional .factor
      (.function name :: .leftParen :: (argumentLexemes arguments ++ w ++ [.rightParen]))
      (.call name (arguments.map Prod.snd ++ [e])) := by
  have hcall := Derives.call name _ (Derives.concat hall he)
  rw [List.map_append, List.map_append, List.map_singleton, List.map_singleton,
    intercalate_concat] at hcall
  exact hcall

/-- After these lexemes, with these operators and parentheses open, a phrase must follow. -/
inductive Awaits (conventional : Bool) :
    Phrase → List Lexeme → List Pending → List (Bracket × List Pending) → Prop
  | start : Awaits conventional .expression [] [] []
  | term {w : List Lexeme} {pending : List Pending} {enclosing : List (Bracket × List Pending)} :
      Awaits conventional .expression w pending enclosing →
      Awaits conventional .term w pending enclosing
  | operand {w : List Lexeme} {pending : List Pending}
      {enclosing : List (Bracket × List Pending)} :
      Awaits conventional .term w pending enclosing →
      Awaits conventional (.operand conventional) w pending enclosing
  | base {w : List Lexeme} {pending : List Pending} {enclosing : List (Bracket × List Pending)} :
      Awaits conventional .power w pending enclosing →
      Awaits conventional .factor w pending enclosing
  | sum {w v : List Lexeme} {pending : List Pending} {enclosing : List (Bracket × List Pending)}
      {op : Operator} {operation : BinaryOp} {left : Expr} :
      Awaits conventional .expression w pending enclosing → op.sum? = some operation →
      Derives conventional .expression v left →
      Awaits conventional .term (w ++ (v ++ [.operator op])) (.sum operation left :: pending)
        enclosing
  | product {w v : List Lexeme} {pending : List Pending}
      {enclosing : List (Bracket × List Pending)} {op : Operator} {operation : BinaryOp}
      {left : Expr} :
      Awaits conventional .term w pending enclosing → op.product? conventional = some operation →
      Derives conventional .term v left →
      Awaits conventional (.operand conventional) (w ++ (v ++ [.operator op]))
        (.product operation left :: pending) enclosing
  | power {w v : List Lexeme} {pending : List Pending} {enclosing : List (Bracket × List Pending)}
      {base : Expr} :
      Awaits conventional .power w pending enclosing → Derives conventional .factor v base →
      Awaits conventional .power (w ++ (v ++ [.operator .power])) (.power base :: pending) enclosing
  | sign {w : List Lexeme} {pending : List Pending} {enclosing : List (Bracket × List Pending)}
      {op : Operator} {sign : UnaryOp} :
      Awaits conventional .factor w pending enclosing → op.sign? = some sign →
      Awaits conventional .factor (w ++ [.operator op]) (.sign sign :: pending) enclosing
  | group {w : List Lexeme} {pending : List Pending} {enclosing : List (Bracket × List Pending)}
      (pos : Nat) :
      Awaits conventional .factor w pending enclosing →
      Awaits conventional .expression (w ++ [.leftParen]) [] ((.group pos, pending) :: enclosing)
  | argument {w : List Lexeme} {pending : List Pending}
      {enclosing : List (Bracket × List Pending)} (name : String)
      (arguments : List (List Lexeme × Expr)) :
      Awaits conventional .factor w pending enclosing →
      (∀ a ∈ arguments, Derives conventional .expression a.1 a.2) →
      Awaits conventional .expression
        (w ++ .function name :: .leftParen :: argumentLexemes arguments) []
        ((.call name (arguments.map Prod.snd).reverse, pending) :: enclosing)

namespace Awaits

variable {conventional : Bool} {phrase : Phrase} {w v : List Lexeme} {pending : List Pending}
  {enclosing : List (Bracket × List Pending)} {e : Expr}

/-- Where an operand of a term can stand, a factor can. -/
theorem factor_of_operand (h : Awaits conventional (.operand conventional) w pending enclosing) :
    Awaits conventional .factor w pending enclosing := by
  cases conventional with
  | false => exact h
  | true => exact h.base

/-- Where an expression can stand, a factor can. -/
theorem factor_of_expression (h : Awaits conventional .expression w pending enclosing) :
    Awaits conventional .factor w pending enclosing :=
  h.term.operand.factor_of_operand

/-- Powers are awaited only where they have a tier of their own. -/
theorem conventional_of_power (h : Awaits conventional phrase w pending enclosing)
    (hphrase : phrase = .power) : conventional = true := by
  induction h with
  | operand _ _ =>
      cases conventional with
      | false => cases hphrase
      | true => rfl
  | product _ _ _ _ =>
      cases conventional with
      | false => cases hphrase
      | true => rfl
  | power _ _ ih => exact ih rfl
  | _ => cases hphrase

/-- Operators wait for parts of expressions, never for a whole one. -/
theorem pending_eq_nil (h : Awaits conventional phrase w pending enclosing)
    (hphrase : phrase = .expression) : pending = [] := by
  induction h with
  | start => rfl
  | group _ _ _ => rfl
  | argument _ _ _ _ _ => rfl
  | operand _ _ => cases conventional <;> cases hphrase
  | product _ _ _ _ => cases conventional <;> cases hphrase
  | _ => cases hphrase

/-- Signs wait for factors only. -/
theorem endOperators_sign (h : Awaits conventional phrase w pending enclosing)
    (hphrase : phrase ≠ .factor) (e : Expr) : endOperators .sign e pending = (e, pending) := by
  induction h with
  | start => rfl
  | term _ ih => exact ih (by simp)
  | operand _ ih => exact ih (by simp)
  | base _ _ => exact absurd rfl hphrase
  | sum _ _ _ _ => rfl
  | product _ _ _ _ => rfl
  | power _ _ _ => rfl
  | sign _ _ _ => exact absurd rfl hphrase
  | group _ _ _ => rfl
  | argument _ _ _ _ _ => rfl

/-! ## Ending operators -/

/-- A factor ends the signs in front of it, and then is an operand of the term around it. -/
theorem closeSigns (h : Awaits conventional phrase w pending enclosing)
    (hphrase : phrase = .factor) (he : Derives conventional .factor v e) :
    ∃ w' v', w ++ v = w' ++ v' ∧
      Awaits conventional (.operand conventional) w' (endOperators .sign e pending).2 enclosing ∧
      Derives conventional .factor v' (endOperators .sign e pending).1 := by
  -- the induction goes outwards: an operator that is ended joins the phrase, and its lexemes go over
  -- from what was read before the phrase to the phrase
  induction h generalizing v e with
  | start => cases hphrase
  | term _ _ => cases hphrase
  | @operand w pending enclosing hterm _ =>
      rw [endOperators_sign hterm (by simp)]
      exact ⟨w, v, rfl, hterm.operand, he⟩
  | @base w pending enclosing hpower _ =>
      rw [endOperators_sign hpower (by simp)]
      obtain rfl := conventional_of_power hpower rfl
      exact ⟨w, v, rfl, hpower, he⟩
  | sum _ _ _ _ => cases hphrase
  | @product w u pending enclosing op operation left hterm hop hleft _ =>
      exact ⟨w ++ (u ++ [.operator op]), v, rfl, hterm.product hop hleft, he⟩
  | power _ _ _ => cases hphrase
  | @sign w pending enclosing op sign hfactor hop ih =>
      obtain ⟨w', v', hw, hawaits, hderives⟩ := ih rfl (Derives.sign hop he)
      exact ⟨w', v', by rw [← hw]; simp, hawaits, hderives⟩
  | group _ _ _ => cases hphrase
  | argument _ _ _ _ _ => cases hphrase

/-- An operand ends what binds at least as tightly as a product, and then is a term. -/
theorem closeProducts (h : Awaits conventional phrase w pending enclosing)
    (hphrase : phrase ≠ .expression) (he : Derives conventional phrase v e) :
    ∃ w' v', w ++ v = w' ++ v' ∧
      Awaits conventional .term w' (endOperators .product e pending).2 enclosing ∧
      Derives conventional .term v' (endOperators .product e pending).1 := by
  induction h generalizing v e with
  | start => exact absurd rfl hphrase
  | @term w pending enclosing hexpression _ =>
      obtain rfl := pending_eq_nil hexpression rfl
      exact ⟨w, v, rfl, hexpression.term, he⟩
  | operand hterm ih => exact ih (by simp) he.operand
  | base _ ih => exact ih (by simp) he.base
  | @sum w u pending enclosing op operation left hexpression hop hleft _ =>
      exact ⟨w ++ (u ++ [.operator op]), v, rfl, hexpression.sum hop hleft, he⟩
  | product hterm hop hleft ih =>
      obtain ⟨w', v', hw, hawaits, hderives⟩ := ih (by simp) (Derives.product hop hleft he)
      exact ⟨w', v', by rw [← hw]; simp, hawaits, hderives⟩
  | power _ hbase ih =>
      obtain ⟨w', v', hw, hawaits, hderives⟩ := ih (by simp) (Derives.power hbase he)
      exact ⟨w', v', by rw [← hw]; simp, hawaits, hderives⟩
  | sign _ hop ih =>
      obtain ⟨w', v', hw, hawaits, hderives⟩ := ih (by simp) (Derives.sign hop he)
      exact ⟨w', v', by rw [← hw]; simp, hawaits, hderives⟩
  | group _ _ _ => exact absurd rfl hphrase
  | argument _ _ _ _ _ => exact absurd rfl hphrase

/-- A phrase ends all operators that wait, and then is an expression. -/
theorem closeAll (h : Awaits conventional phrase w pending enclosing)
    (he : Derives conventional phrase v e) :
    ∃ w' v', w ++ v = w' ++ v' ∧ Awaits conventional .expression w' [] enclosing ∧
      Derives conventional .expression v' (endAll e pending) := by
  induction h generalizing v e with
  | start => exact ⟨[], v, rfl, .start, he⟩
  | term _ ih => exact ih he.term
  | operand _ ih => exact ih he.operand
  | base _ ih => exact ih he.base
  | sum _ hop hleft ih =>
      obtain ⟨w', v', hw, hawaits, hderives⟩ := ih (Derives.sum hop hleft he)
      exact ⟨w', v', by rw [← hw]; simp, hawaits, hderives⟩
  | product hterm hop hleft ih =>
      obtain ⟨w', v', hw, hawaits, hderives⟩ := ih (Derives.product hop hleft he)
      exact ⟨w', v', by rw [← hw]; simp, hawaits, hderives⟩
  | power _ hbase ih =>
      obtain ⟨w', v', hw, hawaits, hderives⟩ := ih (Derives.power hbase he)
      exact ⟨w', v', by rw [← hw]; simp, hawaits, hderives⟩
  | sign _ hop ih =>
      obtain ⟨w', v', hw, hawaits, hderives⟩ := ih (Derives.sign hop he)
      exact ⟨w', v', by rw [← hw]; simp, hawaits, hderives⟩
  | @group w pending enclosing pos hfactor _ => exact ⟨_, v, rfl, hfactor.group pos, he⟩
  | @argument w pending enclosing name arguments hfactor hall _ =>
      exact ⟨_, v, rfl, hfactor.argument name arguments hall, he⟩

/-- What was read before an expression that stands in parentheses, or in none. -/
theorem enclosing_cases (h : Awaits conventional phrase w pending enclosing)
    (hphrase : phrase = .expression) :
    (w = [] ∧ enclosing = []) ∨
      (∃ u pos outside outer, w = u ++ [.leftParen] ∧
        enclosing = (.group pos, outside) :: outer ∧
        Awaits conventional .factor u outside outer) ∨
      (∃ u name arguments outside outer,
        w = u ++ .function name :: .leftParen :: argumentLexemes arguments ∧
        enclosing = (.call name (arguments.map Prod.snd).reverse, outside) :: outer ∧
        Awaits conventional .factor u outside outer ∧
        ∀ a ∈ arguments, Derives conventional .expression a.1 a.2) := by
  induction h with
  | start => exact Or.inl ⟨rfl, rfl⟩
  | group pos hfactor _ => exact Or.inr (Or.inl ⟨_, pos, _, _, rfl, rfl, hfactor⟩)
  | argument name arguments hfactor hall _ =>
      exact Or.inr (Or.inr ⟨_, name, arguments, _, _, rfl, rfl, hfactor, hall⟩)
  | operand _ _ => cases conventional <;> cases hphrase
  | product _ _ _ _ => cases conventional <;> cases hphrase
  | _ => cases hphrase

end Awaits

namespace Draft

variable {conventional : Bool} {w v : List Lexeme} {pending : List Pending}
  {enclosing : List (Bracket × List Pending)} {focus : Focus} {e : Expr}

/-! ## The invariant of reading -/

/-- The draft is what these lexemes lead to: its operators and parentheses are open after them, and
an operand that is complete is derived by the last of them. -/
def Accounts (conventional : Bool) (w : List Lexeme) (s : Draft) : Prop :=
  match s.focus with
  | .operand => Awaits conventional .factor w s.pending s.enclosing
  | .callee name => ∃ u, w = u ++ [.function name] ∧
      Awaits conventional .factor u s.pending s.enclosing
  | .arguments name => ∃ u, w = u ++ [.function name, .leftParen] ∧
      Awaits conventional .factor u s.pending s.enclosing
  | .complete value => ∃ u v, w = u ++ v ∧
      Awaits conventional (.operand conventional) u s.pending s.enclosing ∧
      Derives conventional .factor v value

theorem accounts_start : Accounts conventional [] start :=
  Awaits.start.factor_of_expression

theorem accounts_operandRead (h : Awaits conventional .factor w pending enclosing)
    (he : Derives conventional .factor v e) :
    Accounts conventional (w ++ v) (operandRead ⟨pending, enclosing, focus⟩ e) :=
  h.closeSigns rfl he

theorem accounts_beginOperand (h : Awaits conventional .factor w pending enclosing) {t : Token}
    {after : Draft} (ht : beginOperand ⟨pending, enclosing, focus⟩ t = .ok after) :
    Accounts conventional (w ++ [t.lexeme]) after := by
  unfold beginOperand at ht
  split at ht
  · next text value hlexeme =>
      cases ht
      rw [hlexeme]
      exact accounts_operandRead h (.number text value)
  · next name hlexeme =>
      cases ht
      rw [hlexeme]
      exact accounts_operandRead h (.constant name)
  · next name hlexeme =>
      cases ht
      rw [hlexeme]
      exact ⟨w, rfl, h⟩
  · next hlexeme =>
      cases ht
      rw [hlexeme]
      exact h.sign rfl
  · next hlexeme =>
      cases ht
      rw [hlexeme]
      exact h.sign rfl
  · next hlexeme =>
      cases ht
      rw [hlexeme]
      exact (h.group t.pos).factor_of_expression
  · cases ht

/-- An operator that joins terms ends all operators that wait. -/
theorem accounts_sum (h : Awaits conventional (.operand conventional) w pending enclosing)
    (he : Derives conventional .factor v e) {op : Operator} {operation : BinaryOp}
    (hop : op.sum? = some operation) :
    Accounts conventional (w ++ v ++ [.operator op])
      ⟨[.sum operation (endAll e pending)], enclosing, .operand⟩ := by
  obtain ⟨w', v', hw, hawaits, hderives⟩ := h.closeAll he.operand_of_factor
  rw [hw, List.append_assoc]
  exact (hawaits.sum hop hderives).operand.factor_of_operand

/-- An operator that joins operands of a term ends those that bind as tightly. -/
theorem accounts_product (h : Awaits conventional (.operand conventional) w pending enclosing)
    (he : Derives conventional .factor v e) {op : Operator} {operation : BinaryOp}
    (hop : op.product? conventional = some operation) :
    Accounts conventional (w ++ v ++ [.operator op])
      ⟨.product operation (endOperators .product e pending).1 ::
        (endOperators .product e pending).2, enclosing, .operand⟩ := by
  have hphrase : Phrase.operand conventional ≠ .expression := by
    cases conventional <;> simp [Phrase.operand]
  obtain ⟨w', v', hw, hawaits, hderives⟩ := h.closeProducts hphrase he.operand_of_factor
  rw [hw, List.append_assoc]
  exact (hawaits.product hop hderives).factor_of_operand

theorem accounts_afterOperand
    (h : Awaits conventional (.operand conventional) w pending enclosing)
    (he : Derives conventional .factor v e) (limit : Int) (op : Operator) :
    Accounts conventional (w ++ v ++ [.operator op])
      (afterOperand ⟨conventional, limit⟩ ⟨pending, enclosing, focus⟩ e op) := by
  rcases op.joins_cases conventional with ⟨operation, hop⟩ | ⟨operation, hop⟩ | ⟨rfl, rfl⟩
  · rw [afterOperand_sum _ _ _ hop]
    exact accounts_sum h he hop
  · rw [afterOperand_product _ _ hop]
    exact accounts_product h he hop
  · rw [List.append_assoc]
    exact (Awaits.power h he).base

theorem accounts_endExpression
    (h : Awaits conventional (.operand conventional) w pending enclosing)
    (he : Derives conventional .factor v e) {t : Token} {after : Draft}
    (ht : endExpression ⟨pending, enclosing, focus⟩ e t = .ok after) :
    Accounts conventional (w ++ v ++ [t.lexeme]) after := by
  obtain ⟨w', v', hw, hawaits, hderives⟩ := h.closeAll he.operand_of_factor
  rw [hw]
  unfold endExpression at ht
  rcases hawaits.enclosing_cases rfl with ⟨-, rfl⟩ | ⟨u, pos, outside, outer, rfl, rfl, houter⟩ |
    ⟨u, name, arguments, outside, outer, rfl, rfl, houter, hall⟩
  · cases ht
  · dsimp only at ht
    split at ht
    · next hlexeme =>
        cases ht
        rw [hlexeme]
        simpa using accounts_operandRead houter hderives.group
    · cases ht
  · dsimp only at ht
    split at ht
    · next hlexeme =>
        cases ht
        rw [hlexeme]
        simpa using accounts_operandRead houter (Derives.call_concat name hall hderives)
    · next hlexeme =>
        cases ht
        rw [hlexeme]
        have hargument := houter.argument name _ (Derives.concat hall hderives)
        simpa [Accounts, argumentLexemes] using hargument.factor_of_expression
    · cases ht

/-- A token that is read is accounted for. -/
theorem Accounts.advance {s after : Draft} {t : Token} (h : s.Accounts conventional w)
    (ht : s.advance conventional t = .ok after) :
    after.Accounts conventional (w ++ [t.lexeme]) := by
  obtain ⟨pending, enclosing, focus⟩ := s
  cases focus with
  | operand =>
      rw [advance_operand] at ht
      exact accounts_beginOperand h ht
  | callee name =>
      obtain ⟨u, rfl, h⟩ := h
      rw [advance_callee] at ht
      split at ht
      · next hlexeme =>
          cases ht
          rw [hlexeme]
          exact ⟨u, by simp, h⟩
      · cases ht
  | arguments name =>
      obtain ⟨u, rfl, h⟩ := h
      rw [advance_arguments] at ht
      split at ht
      · next hlexeme =>
          cases ht
          rw [hlexeme]
          simpa using accounts_operandRead h (.call name [] (by simp))
      · have hargument := (h.argument name [] (by simp)).factor_of_expression
        exact accounts_beginOperand hargument ht
  | complete value =>
      obtain ⟨u, v, rfl, h, he⟩ := h
      simp only [Draft.advance, step] at ht
      split at ht
      · next op hlexeme =>
          cases ht
          rw [hlexeme]
          exact accounts_afterOperand h he _ op
      · exact accounts_endExpression h he ht

/-- All tokens that are read are accounted for. -/
theorem Accounts.foldlM {s after : Draft} {ts : List Token} (h : s.Accounts conventional w)
    (hts : ts.foldlM (Draft.advance conventional) s = .ok after) :
    after.Accounts conventional (w ++ ts.map Token.lexeme) := by
  refine foldlM_advance_induction
    (P := fun us s => s.Accounts conventional (w ++ us.map Token.lexeme)) (fun hs ht => ?_) []
    (by simpa using h) hts
  simpa using hs.advance ht

/-- What is complete at the end of the input is an expression, and its tree is the result. -/
theorem Accounts.derives_of_conclude {s : Draft} {pos : Nat} (h : s.Accounts conventional w)
    (hend : s.conclude conventional pos = .ok e) : Derives conventional .expression w e := by
  obtain ⟨pending, enclosing, focus⟩ := s
  cases focus with
  | operand =>
      simp only [conclude, finish, tooNested_eq, exceeds_self] at hend
      cases hend
  | callee name => cases hend
  | arguments name =>
      simp only [conclude, finish, tooNested_eq, exceeds_self] at hend
      cases hend
  | complete value =>
      obtain ⟨u, v, rfl, h, he⟩ := h
      obtain ⟨w', v', hw, hawaits, hderives⟩ := h.closeAll he.operand_of_factor
      rw [hw]
      rcases hawaits.enclosing_cases rfl with ⟨rfl, rfl⟩ | ⟨_, _, _, _, rfl, rfl, -⟩ |
        ⟨_, _, _, _, _, rfl, rfl, -⟩
      · cases hend
        exact hderives
      · cases hend
      · cases hend

end Draft

/-! ## Every draft can be completed -/

/-- Where a phrase is awaited, every phrase of that kind can be continued to an expression. -/
theorem Awaits.viable {conventional : Bool} {phrase : Phrase} {w v : List Lexeme}
    {pending : List Pending} {enclosing : List (Bracket × List Pending)} {e : Expr}
    (h : Awaits conventional phrase w pending enclosing) (he : Derives conventional phrase v e) :
    Viable conventional (w ++ v) := by
  -- each parenthesis that is open is closed in turn, the innermost first
  induction enclosing generalizing phrase w v pending e with
  | nil =>
      obtain ⟨w', v', hw, hawaits, hderives⟩ := h.closeAll he
      rw [hw]
      rcases hawaits.enclosing_cases rfl with ⟨rfl, -⟩ | ⟨_, _, _, _, _, hnil, -⟩ |
        ⟨_, _, _, _, _, _, hnil, -⟩
      · exact ⟨[], _, by simpa using hderives⟩
      · cases hnil
      · cases hnil
  | cons outer enclosing ih =>
      obtain ⟨w', v', hw, hawaits, hderives⟩ := h.closeAll he
      rw [hw]
      rcases hawaits.enclosing_cases rfl with ⟨-, hnil⟩ | ⟨u, pos, outside, _, rfl, hcons, houter⟩ |
        ⟨u, name, arguments, outside, _, rfl, hcons, houter, hall⟩
      · cases hnil
      · cases hcons
        obtain ⟨rest, result, hresult⟩ := ih houter hderives.group
        exact ⟨.rightParen :: rest, result, by simpa using hresult⟩
      · cases hcons
        obtain ⟨rest, result, hresult⟩ := ih houter (Derives.call_concat name hall hderives)
        exact ⟨.rightParen :: rest, result, by simpa using hresult⟩

/-- What was read can be continued to an expression. -/
theorem Draft.Accounts.viable {conventional : Bool} {w : List Lexeme} {s : Draft}
    (h : s.Accounts conventional w) : Viable conventional w := by
  obtain ⟨pending, enclosing, focus⟩ := s
  cases focus with
  | operand =>
      obtain ⟨rest, e, he⟩ := Awaits.viable h (.number "0" 0.0)
      exact ⟨_, e, by simpa using he⟩
  | callee name =>
      obtain ⟨u, rfl, h⟩ := h
      obtain ⟨rest, e, he⟩ := h.viable (.call name [] (by simp))
      exact ⟨_, e, by simpa using he⟩
  | arguments name =>
      obtain ⟨u, rfl, h⟩ := h
      obtain ⟨rest, e, he⟩ := h.viable (.call name [] (by simp))
      exact ⟨.rightParen :: rest, e, by simpa using he⟩
  | complete value =>
      obtain ⟨u, v, rfl, h, he⟩ := h
      exact h.viable he.operand_of_factor

end Calculator
