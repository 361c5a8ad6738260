import Calculator.Proofs.Evaluation.Depth
import Calculator.Proofs.Evaluation.Stages
import Calculator.Proofs.Grammar.Outline
import Calculator.Proofs.Token.Rendering

/-!
# Flat chains

A flat chain is a source of numbers with operators between them, and nothing else but blanks. What
it is worth can be said without its tree (`FlatChain.value`): it is cut at every `+` and `-`, each
piece is folded from the left with `*`, `/` and `^`, and the values of the pieces with `+` and `-`.

A chain of any length opens no level, and its tree has depth three at most. So no limit on nesting
refuses it, and no limit on depth from three on: it has its value, unless a number that is zero
stands behind a `/` (`calculate_flat_chain`).
-/

set_option autoImplicit false

namespace Calculator

variable {host : Host}

/-! ## Chains -/

namespace FlatChain

/-- A number with the blanks in front of it. -/
structure Operand where
  blanks : List Char
  text : List Char
  isBlank_of_mem : ∀ ch ∈ blanks, isBlank ch = true
  isNumeral : IsNumeral text

/-- An operator with the blanks in front of it, and the number behind it. -/
structure Step where
  blanks : List Char
  operator : Operator
  operand : Operand
  isBlank_of_mem : ∀ ch ∈ blanks, isBlank ch = true

end FlatChain

/-- Numbers with operators between them, and blanks anywhere. -/
structure FlatChain where
  first : FlatChain.Operand
  steps : List FlatChain.Step
  trailing : List Char
  isBlank_of_mem : ∀ ch ∈ trailing, isBlank ch = true

namespace FlatChain

theorem Operand.isSome_ofChars? (x : Operand) : (Decimal.ofChars? x.text).isSome = true :=
  (Decimal.isSome_ofChars?_iff (Word.isNumeralChar_of_isNumeral x.isNumeral)).mpr x.isNumeral

/-- The double nearest to a number. -/
def Operand.value (x : Operand) : Float :=
  ((Decimal.ofChars? x.text).get x.isSome_ofChars?).toFloat false

def Operand.piece (x : Operand) : Piece := ⟨x.blanks, .number x.text x.isNumeral, x.isBlank_of_mem⟩

def Step.pieces (s : Step) : List Piece :=
  [⟨s.blanks, .operator s.operator, s.isBlank_of_mem⟩, s.operand.piece]

def pieces (c : FlatChain) : List Piece := c.first.piece :: c.steps.flatMap Step.pieces

/-- The text of a chain. -/
def source (c : FlatChain) : String := String.ofList (piecesText c.pieces ++ c.trailing)

end FlatChain

/-! ## Values -/

namespace Operator

/-- The operators at which a chain is cut. -/
def isSum : Operator → Bool
  | .plus => true
  | .minus => true
  | _ => false

/-- What an operator does with doubles. -/
def arith (host : Host) : Operator → Float → Float → Float
  | .plus => (· + ·)
  | .minus => (· - ·)
  | .times => (· * ·)
  | .divide => (· / ·)
  | .power => host.power

theorem ne_divide_of_isSum {op : Operator} (h : op.isSum = true) : op ≠ .divide := by
  rintro rfl
  cases h

theorem sum?_of_isSum {op : Operator} (h : op.isSum = true) : op.sum? = some op.operation := by
  cases op with
  | plus | minus => rfl
  | _ => cases h

theorem product?_of_not_isSum {op : Operator} (h : op.isSum = false) :
    op.product? false = some op.operation := by
  cases op with
  | plus | minus => cases h
  | _ => rfl

end Operator

namespace FlatChain

/-- The division is one by zero. -/
def Step.dividesByZero (s : Step) : Bool := s.operator = .divide && Double.isZero s.operand.value

/-- The steps before the first `+` or `-`, and then each `+` and `-` with the steps up to the
next one. -/
def cut : List Step → List Step × List (Step × List Step)
  | [] => ([], [])
  | s :: rest =>
      if s.operator.isSum then ([], (s, (cut rest).1) :: (cut rest).2)
      else (s :: (cut rest).1, (cut rest).2)

/-- Steps folded from the left. -/
def foldSteps (host : Host) (value : Float) (steps : List Step) : Float :=
  steps.foldl (fun left s => s.operator.arith host left s.operand.value) value

/-- Pieces of a chain folded from the left, each of them folded by itself. -/
def foldPieces (host : Host) (value : Float) (later : List (Step × List Step)) : Float :=
  later.foldl (fun left piece =>
    piece.1.operator.arith host left (foldSteps host piece.1.operand.value piece.2)) value

/-- The value of a chain, if no number is divided by zero. -/
def value (host : Host) (c : FlatChain) : Float :=
  foldPieces host (foldSteps host c.first.value (cut c.steps).1) (cut c.steps).2

/-- A number that is zero stands behind a `/`. -/
def dividesByZero (c : FlatChain) : Bool := c.steps.any Step.dividesByZero

/-- The steps of a list that has been cut, in their order. -/
theorem cut_append (steps : List Step) :
    (cut steps).1 ++ (cut steps).2.flatMap (fun piece => piece.1 :: piece.2) = steps := by
  induction steps with
  | nil => rfl
  | cons s rest ih =>
      rw [cut]
      split
      · rw [List.flatMap_cons, List.nil_append, List.cons_append, ih]
      · rw [List.cons_append, ih]

/-- Inside a piece there is no `+` or `-`, and a later piece begins with one. -/
theorem isSum_of_cut (steps : List Step) :
    (∀ s ∈ (cut steps).1, s.operator.isSum = false) ∧
      ∀ piece ∈ (cut steps).2, piece.1.operator.isSum = true ∧
        ∀ s ∈ piece.2, s.operator.isSum = false := by
  induction steps with
  | nil => exact ⟨by simp [cut], by simp [cut]⟩
  | cons s rest ih =>
      obtain ⟨hfirst, hlater⟩ := ih
      rw [cut]
      split
      · next hsum => exact ⟨by simp, List.forall_mem_cons.mpr ⟨⟨hsum, hfirst⟩, hlater⟩⟩
      · next hsum => exact ⟨List.forall_mem_cons.mpr ⟨by simpa using hsum, hfirst⟩, hlater⟩

/-- A `+` or `-` is no division. -/
theorem Step.dividesByZero_of_isSum {s : Step} (h : s.operator.isSum = true) :
    s.dividesByZero = false := by
  rw [dividesByZero, decide_eq_false (Operator.ne_divide_of_isSum h), Bool.false_and]

/-- A number that is divided by stands inside a piece. -/
theorem any_dividesByZero (steps : List Step) :
    ((cut steps).1.any Step.dividesByZero ||
        (cut steps).2.any fun piece => piece.2.any Step.dividesByZero) =
      steps.any Step.dividesByZero := by
  induction steps with
  | nil => rfl
  | cons s rest ih =>
      rw [cut, List.any_cons, ← ih]
      split
      · next hsum =>
          rw [Step.dividesByZero_of_isSum hsum, List.any_nil, List.any_cons, Bool.false_or]
      · rw [List.any_cons, Bool.or_assoc]

/-! ## Lexemes -/

def Operand.lexeme (x : Operand) : Lexeme := .number (String.ofList x.text) x.value

def Step.lexemes (s : Step) : List Lexeme := [.operator s.operator, s.operand.lexeme]

def lexemes (c : FlatChain) : List Lexeme := c.first.lexeme :: c.steps.flatMap Step.lexemes

theorem Operand.ofNumeral_eq (x : Operand) : Lexeme.ofNumeral x.text = .ok x.lexeme := by
  obtain ⟨d, hd⟩ := Option.isSome_iff_exists.mp x.isSome_ofChars?
  simp only [Lexeme.ofNumeral, hd, lexeme, value, Option.get_some]

/-- Numbers and operators take turns, so that none of them runs into the next. -/
theorem isChain_pieces (x : Operand) (steps : List Step) :
    (x.piece :: steps.flatMap Step.pieces).IsChain Piece.Apart := by
  induction steps generalizing x with
  | nil => exact List.isChain_singleton _
  | cons s rest ih =>
      have hbefore : Piece.Apart x.piece ⟨s.blanks, .operator s.operator, s.isBlank_of_mem⟩ :=
        fun hruns => False.elim hruns
      have hbehind : Piece.Apart ⟨s.blanks, .operator s.operator, s.isBlank_of_mem⟩
          s.operand.piece := fun hruns => False.elim hruns
      rw [List.flatMap_cons]
      exact List.isChain_cons_cons.mpr
        ⟨hbefore, List.isChain_cons_cons.mpr ⟨hbehind, ih s.operand⟩⟩

theorem map_lexeme_pieces (v : Vocabulary) (c : FlatChain) :
    c.pieces.map (fun p => p.word.lexeme v) = c.lexemes.map Except.ok := by
  have hoperand : ∀ x : Operand, x.piece.word.lexeme v = .ok x.lexeme := Operand.ofNumeral_eq
  have hsteps : ∀ steps : List Step,
      (steps.flatMap Step.pieces).map (fun p => p.word.lexeme v) =
        (steps.flatMap Step.lexemes).map Except.ok := by
    intro steps
    induction steps with
    | nil => rfl
    | cons s rest ih =>
        simp only [List.flatMap_cons, List.map_append, ih, Step.pieces, Step.lexemes,
          List.map_cons, List.map_nil, hoperand]
        rfl
  rw [pieces, lexemes, List.map_cons, List.map_cons, hsteps, hoperand]

/-- A chain is read to its end, whatever names are registered. -/
theorem lexemes_source (v : Vocabulary) (c : FlatChain) :
    (Scan.ofSource v c.source).IsWhole ∧ (Scan.ofSource v c.source).lexemes = c.lexemes := by
  have hrendering : IsRendering c.source.toList c.pieces c.trailing :=
    ⟨String.toList_ofList, c.isBlank_of_mem, isChain_pieces c.first c.steps⟩
  exact Scan.lexemes_of_rendering hrendering (map_lexeme_pieces v c)

/-! ## Trees -/

/-- The tree of steps of one piece, to the right of another tree. -/
def stepsTree (e : Expr) (steps : List Step) : Expr :=
  steps.foldl (fun left s => .binary s.operator.operation left (.number s.operand.value)) e

/-- The tree of later pieces, to the right of another tree. -/
def piecesTree (e : Expr) (later : List (Step × List Step)) : Expr :=
  later.foldl (fun left piece => .binary piece.1.operator.operation left
    (stepsTree (.number piece.1.operand.value) piece.2)) e

def tree (c : FlatChain) : Expr :=
  piecesTree (stepsTree (.number c.first.value) (cut c.steps).1) (cut c.steps).2

theorem nests_operand (x : Operand) : Nests false 0 .factor [x.lexeme] (.number x.value) :=
  .number (String.ofList x.text) x.value

theorem nests_stepsTree {w : List Lexeme} {e : Expr} {steps : List Step}
    (h : Nests false 0 .term w e) (hsteps : ∀ s ∈ steps, s.operator.isSum = false) :
    Nests false 0 .term (w ++ steps.flatMap Step.lexemes) (stepsTree e steps) := by
  induction steps generalizing w e with
  | nil => simpa [stepsTree] using h
  | cons s rest ih =>
      obtain ⟨hs, hrest⟩ := List.forall_mem_cons.mp hsteps
      have hfirst : Nests false 0 .term (w ++ s.lexemes)
          (.binary s.operator.operation e (.number s.operand.value)) :=
        .product (Operator.product?_of_not_isSum hs) h (nests_operand s.operand)
      rw [List.flatMap_cons, ← List.append_assoc]
      exact ih hfirst hrest

theorem nests_piecesTree {w : List Lexeme} {e : Expr} {later : List (Step × List Step)}
    (h : Nests false 0 .expression w e)
    (hlater : ∀ piece ∈ later, piece.1.operator.isSum = true ∧
      ∀ s ∈ piece.2, s.operator.isSum = false) :
    Nests false 0 .expression
      (w ++ (later.flatMap fun piece => piece.1 :: piece.2).flatMap Step.lexemes)
      (piecesTree e later) := by
  induction later generalizing w e with
  | nil => simpa [piecesTree] using h
  | cons piece rest ih =>
      obtain ⟨⟨hbegin, hsteps⟩, hrest⟩ := List.forall_mem_cons.mp hlater
      have hterm : Nests false 0 .term
          ([piece.1.operand.lexeme] ++ piece.2.flatMap Step.lexemes)
          (stepsTree (.number piece.1.operand.value) piece.2) :=
        nests_stepsTree (nests_operand piece.1.operand).operand hsteps
      have hfirst : Nests false 0 .expression
          (w ++ (piece.1 :: piece.2).flatMap Step.lexemes)
          (.binary piece.1.operator.operation e
            (stepsTree (.number piece.1.operand.value) piece.2)) :=
        .sum (Operator.sum?_of_isSum hbegin) h hterm
      rw [List.flatMap_cons, List.flatMap_append, ← List.append_assoc]
      exact ih hfirst hrest

/-- The tree of a chain, which opens no level. -/
theorem nests_tree (c : FlatChain) : Nests false 0 .expression c.lexemes c.tree := by
  obtain ⟨hfirst, hlater⟩ := isSum_of_cut c.steps
  have hterm := nests_stepsTree (nests_operand c.first).operand hfirst
  have hwhole := nests_piecesTree hterm.term hlater
  rwa [List.append_assoc, ← List.flatMap_append, cut_append] at hwhole

/-! ## Evaluation -/

end FlatChain

/-- Unless a node is too deep for the limit, the evaluation of the tree ends so, without a call. -/
def Yields (host : Host) (registry : Registry) (e : Expr)
    (result : Except EvalFailure Float) : Prop :=
  ∀ limit depth, (evaluatePlainly host registry limit depth e).WentTooDeep ∨
    evaluatePlainly host registry limit depth e = ⟨result, []⟩

/-- A value, or a division by zero. -/
def valueUnless (divided : Bool) (value : Float) : Except EvalFailure Float :=
  if divided then .error (.error .divisionByZero) else .ok value

theorem applyBinary_operation (op : Operator) (left right : Float) :
    applyBinary host op.operation left right =
      valueUnless (op = .divide && Double.isZero right) (op.arith host left right) := by
  cases op with
  | divide => exact applyBinary_div host left right
  | _ => rfl

/-- A node that may be entered is evaluated as if there were no limit. -/
theorem checkDepth_bind_wentTooDeep_or_eq {run : Run Float} (limit depth : Int) :
    ((checkDepth limit depth).bind fun _ => run).WentTooDeep ∨
      ((checkDepth limit depth).bind fun _ => run) = run := by
  by_cases hdepth : depth ≤ limit
  · right
    rw [checkDepth_of_le hdepth, Run.pure_bind]
  · left
    rw [checkDepth_of_lt (Int.not_le.mp hdepth)]
    exact ⟨limit, rfl⟩

namespace Yields

variable {registry : Registry} {e left right : Expr} {result : Except EvalFailure Float}

theorem number (host : Host) (registry : Registry) (value : Float) :
    Yields host registry (.number value) (valueUnless false value) := by
  intro limit depth
  rw [evaluatePlainly]
  exact checkDepth_bind_wentTooDeep_or_eq limit depth

/-- Both operands are evaluated, and a division by zero in either of them, or of the two, is one of
the whole. -/
theorem binary {b c : Bool} {x y : Float} (op : Operator)
    (hleft : Yields host registry left (valueUnless b x))
    (hright : Yields host registry right (valueUnless c y)) :
    Yields host registry (.binary op.operation left right)
      (valueUnless (b || c || (op = .divide && Double.isZero y)) (op.arith host x y)) := by
  intro limit depth
  rw [evaluatePlainly]
  have hoperands := Run.bind_wentTooDeep_or_eq (hleft limit (left.leftDepth depth)) fun l =>
    Run.bind_wentTooDeep_or_eq (hright limit (depth + 1)) fun r =>
      Or.inr (Eq.refl (⟨applyBinary host op.operation l r, []⟩ : Run Float))
  rcases checkDepth_bind_wentTooDeep_or_eq limit depth with hdeep | hentered
  · exact Or.inl hdeep
  · rw [hentered]
    refine hoperands.imp_right fun heq => heq.trans ?_
    -- the operator is applied only where neither operand has divided by zero
    cases b with
    | true => rfl
    | false =>
        cases c with
        | true => rfl
        | false =>
            show (Run.mk (applyBinary host op.operation x y) [] : Run Float) = _
            rw [applyBinary_operation, Bool.false_or, Bool.false_or]

/-- The evaluator gives this result under every limit that admits the tree. -/
theorem evaluate_eq {bound limit : Int} (h : Yields host registry e result)
    (hdepths : ∀ d ∈ e.depths 1, d ≤ bound) (hlimit : bound ≤ limit)
    (hcapacity : bound ≤ host.depth) : evaluate host registry limit e = ⟨result, []⟩ := by
  have hwithin : ∀ other, bound ≤ other → ¬ (evaluatePlainly host registry other 1 e).WentTooDeep :=
    fun other hle => not_wentTooDeep_of_depths host registry e 1 fun d hd =>
      Int.le_trans (hdepths d hd) hle
  -- a limit beyond the capacity is cut to it, and the capacity admits the tree as well
  rw [evaluate_eq_ite]
  split
  · exact (h limit 1).resolve_left (hwithin limit hlimit)
  · rw [Run.mapFailure_beyondCapacity (hwithin host.depth hcapacity)]
    exact (h host.depth 1).resolve_left (hwithin host.depth hcapacity)

end Yields

namespace FlatChain

variable {registry : Registry} {e : Expr} {b : Bool} {x : Float}

theorem yields_stepsTree (h : Yields host registry e (valueUnless b x)) (steps : List Step) :
    Yields host registry (stepsTree e steps)
      (valueUnless (b || steps.any Step.dividesByZero) (foldSteps host x steps)) := by
  induction steps generalizing e b x with
  | nil => simpa [stepsTree, foldSteps] using h
  | cons s rest ih =>
      have hfirst := h.binary s.operator (.number host registry s.operand.value)
      rw [Bool.or_false] at hfirst
      have hrest := ih hfirst
      rwa [Bool.or_assoc] at hrest

theorem yields_piecesTree (h : Yields host registry e (valueUnless b x))
    {later : List (Step × List Step)} (hlater : ∀ piece ∈ later, piece.1.operator.isSum = true) :
    Yields host registry (piecesTree e later)
      (valueUnless (b || later.any fun piece => piece.2.any Step.dividesByZero)
        (foldPieces host x later)) := by
  induction later generalizing e b x with
  | nil => simpa [piecesTree, foldPieces] using h
  | cons piece rest ih =>
      obtain ⟨hbegin, hrest⟩ := List.forall_mem_cons.mp hlater
      have hpiece := yields_stepsTree (.number host registry piece.1.operand.value) piece.2
      have hfirst := h.binary piece.1.operator hpiece
      -- a piece that is worth zero may stand behind its `+` or `-`
      have hnone : (piece.1.operator = .divide && Double.isZero
          (foldSteps host piece.1.operand.value piece.2)) = false := by
        rw [decide_eq_false (Operator.ne_divide_of_isSum hbegin), Bool.false_and]
      rw [hnone, Bool.or_false, Bool.false_or] at hfirst
      have hwhole := ih hfirst hrest
      rwa [Bool.or_assoc] at hwhole

/-- The tree of a chain has the value of the chain, unless a number is divided by zero. -/
theorem yields_tree (registry : Registry) (c : FlatChain) :
    Yields host registry c.tree (valueUnless c.dividesByZero (c.value host)) := by
  have hfirst := yields_stepsTree (.number host registry c.first.value) (cut c.steps).1
  have hwhole := yields_piecesTree hfirst fun piece hpiece =>
    ((isSum_of_cut c.steps).2 piece hpiece).1
  rwa [Bool.false_or, any_dividesByZero] at hwhole

/-- No node of a chain is deeper than three. -/
theorem depths_tree_le (c : FlatChain) : ∀ d ∈ c.tree.depths 1, d ≤ 3 := by
  intro d hd
  have hfits : c.tree.FitsDepth 3 := Expr.FitsOnLeft.alone (c.nests_tree.fits (by simp))
  have hlt := hfits 1 d hd
  omega

end FlatChain

/-- Under every limit on nesting, and every limit on depth from three on, a chain of any length has
its value, unless a number that is zero stands behind a `/`. -/
theorem calculate_flat_chain (host : Host) (chain : FlatChain) (registry : Registry)
    (settings : Settings)
    (hgrammar : settings.conventionalPower = false) (hdepth : 3 ≤ settings.depthLimit) :
    calculate host registry settings chain.source =
      (if chain.dividesByZero then .error (.evaluation .divisionByZero)
        else .ok (chain.value host), []) := by
  obtain ⟨hwhole, hlexemes⟩ := chain.lexemes_source ⟨registry, settings.nameLimit⟩
  have hnests : Nests settings.conventionalPower 0 .expression
      (Scan.ofSource ⟨registry, settings.nameLimit⟩ chain.source).lexemes chain.tree := by
    rw [hgrammar, hlexemes]
    exact chain.nests_tree
  have hparse : parse host registry settings chain.source = .ok chain.tree :=
    parse_eq_ok_of_nests hnests hwhole (exceeds_zero _) (exceeds_zero _)
  have hevaluate := (chain.yields_tree registry).evaluate_eq chain.depths_tree_le hdepth
    (Int.le_trans (by decide) host.depthCeiling_le)
  rw [calculate_of_ok hparse, hevaluate]
  cases chain.dividesByZero <;> rfl

/-- A power takes all of its piece that stands in front of it. -/
example (a b c d : FlatChain.Operand) :
    FlatChain.value host ⟨a, [⟨[], .plus, b, by simp⟩, ⟨[], .times, c, by simp⟩,
      ⟨[], .power, d, by simp⟩], [], by simp⟩ =
        a.value + host.power (b.value * c.value) d.value := rfl

/-- The chain `1 - 8/.0`. -/
def FlatChain.oneMinusEightByZero : FlatChain where
  first := ⟨[], ['1'], by simp, by decide⟩
  steps :=
    [⟨[' '], .minus, ⟨[' '], ['8'], by simp [isBlank], by decide⟩, by simp [isBlank]⟩,
      ⟨[], .divide, ⟨[], ['.', '0'], by simp, by decide⟩, by simp⟩]
  trailing := []
  isBlank_of_mem := by simp

/-- A division by zero is found under the smallest limit on depth, and a limit on nesting below zero
refuses nothing, as no level is opened. -/
theorem calculate_one_minus_eight_by_zero :
    calculate .standard Registry.builtin { nestingLimit := -5, depthLimit := 3 } "1 - 8/.0" =
      (.error (.evaluation .divisionByZero), []) := by
  have hsource : FlatChain.oneMinusEightByZero.source = "1 - 8/.0" := by decide
  have hdivides : FlatChain.oneMinusEightByZero.dividesByZero = true := by decide +kernel
  rw [← hsource,
    calculate_flat_chain .standard FlatChain.oneMinusEightByZero _ _ rfl (by decide), hdivides]
  rfl

end Calculator
