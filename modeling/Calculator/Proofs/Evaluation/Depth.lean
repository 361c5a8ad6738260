import Calculator.Proofs.Evaluation.Recursive
import Calculator.Proofs.Expr.Lexemes
import Calculator.Proofs.Grammar.Nested

/-!
# Nesting bounds depth

The limit on nesting counts levels of the source, and the limit on depth nodes of the tree. A level
can hold a chain of sums, in it a chain of products, in it a power where powers have a tier of their
own, and in it the call that opens the next level: three nodes for each level, or four, and three
for what is outside of all levels (`Nests.fits`). So a tree that is read under a nesting limit is
never too deep for a depth limit that is so large.

The bound is met by sums of products of calls inside each other (`deepestSource`): every smaller
limit refuses them.
-/

set_option autoImplicit false

namespace Calculator

variable {host : Host}

/-! ## Depth of trees -/

namespace Expr

/-- All nodes are at most so deep when the root has depth one. -/
def FitsDepth (bound : Nat) (e : Expr) : Prop :=
  ∀ depth : Int, ∀ d ∈ e.depths depth, d < depth + bound

/-- The same for a tree that is the left operand of a node of depth one. -/
def FitsOnLeft (bound : Nat) (e : Expr) : Prop :=
  ∀ depth : Int, ∀ d ∈ e.depths (e.leftDepth depth), d < depth + bound

variable {bound other : Nat} {e left right operand : Expr}

theorem FitsDepth.of_le (h : e.FitsDepth bound) (hle : bound ≤ other) : e.FitsDepth other := by
  intro depth d hd
  have := h depth d hd
  omega

theorem FitsOnLeft.of_le (h : e.FitsOnLeft bound) (hle : bound ≤ other) : e.FitsOnLeft other := by
  intro depth d hd
  have := h depth d hd
  omega

/-- On the left of an operator a tree is at most one deeper than alone. -/
theorem FitsDepth.onLeft (h : e.FitsDepth bound) : e.FitsOnLeft (bound + 1) := by
  intro depth d hd
  have hat := h (e.leftDepth depth) d hd
  have hleft : e.leftDepth depth ≤ depth + 1 := by
    cases e <;> simp only [leftDepth] <;> omega
  omega

/-- Alone a tree is no deeper than on the left of an operator. -/
theorem FitsOnLeft.alone (h : e.FitsOnLeft bound) : e.FitsDepth bound := by
  intro depth d hd
  cases e with
  | binary op left right => exact h depth d hd
  | _ =>
      have hshift : depth - 1 + 1 = depth := by omega
      have := h (depth - 1) d (by simpa only [leftDepth, hshift] using hd)
      omega

theorem fitsDepth_number (value : Float) : (number value).FitsDepth 1 := by
  intro depth d hd
  rw [depths, List.mem_singleton] at hd
  omega

theorem fitsDepth_constant (name : String) : (constant name).FitsDepth 1 := by
  intro depth d hd
  rw [depths, List.mem_singleton] at hd
  omega

theorem fitsDepth_unary (op : UnaryOp) (h : operand.FitsDepth bound) :
    (unary op operand).FitsDepth (bound + 1) := by
  intro depth d hd
  rw [depths, List.mem_cons] at hd
  rcases hd with rfl | hd
  · omega
  · have := h (depth + 1) d hd
    omega

theorem fitsDepth_call (name : String) {arguments : List Expr}
    (h : ∀ a ∈ arguments, a.FitsDepth bound) : (call name arguments).FitsDepth (bound + 1) := by
  intro depth d hd
  rw [depths, List.mem_cons] at hd
  rcases hd with rfl | hd
  · omega
  · obtain ⟨a, ha, hd⟩ := mem_listDepths.mp hd
    have := h a ha (depth + 1) d hd
    omega

/-- A binary operator is as deep as its left operand, or one deeper than its right one. -/
theorem fitsOnLeft_binary (op : BinaryOp) (hleft : left.FitsOnLeft (bound + 1))
    (hright : right.FitsDepth bound) : (binary op left right).FitsOnLeft (bound + 1) := by
  intro depth d hd
  rw [leftDepth, depths, List.mem_cons, List.mem_append] at hd
  rcases hd with rfl | hd | hd
  · omega
  · exact hleft depth d hd
  · have := hright (depth + 1) d hd
    omega

end Expr

/-! ## Depth of phrases -/

/-- How deep the tree of a phrase can be, by the number of its levels. -/
def Phrase.depthBound (conventional : Bool) (n : Nat) : Phrase → Nat
  | .factor => if conventional then max 1 (4 * n) else 3 * n + 1
  | .power => 4 * n + 1
  | .term => if conventional then 4 * n + 2 else 3 * n + 2
  | .expression => if conventional then 4 * n + 3 else 3 * n + 3

/-- The tree of a phrase is at most so deep. Terms and expressions can be the left operands of
longer ones. -/
def Phrase.Fits (conventional : Bool) (n : Nat) (phrase : Phrase) (e : Expr) : Prop :=
  match phrase with
  | .factor | .power => e.FitsDepth (phrase.depthBound conventional n)
  | .term | .expression => e.FitsOnLeft (phrase.depthBound conventional n)

section Phrases

variable {conventional : Bool} {m n : Nat} {w : List Lexeme} {e left right : Expr}

/-- More levels admit deeper trees. -/
theorem Phrase.depthBound_mono (phrase : Phrase) (hle : m ≤ n) :
    phrase.depthBound conventional m ≤ phrase.depthBound conventional n := by
  cases phrase <;> cases conventional <;> simp only [depthBound, Bool.false_eq_true, if_false,
    if_true] <;> omega

theorem Phrase.Fits.of_le {phrase : Phrase} (h : phrase.Fits conventional m e) (hle : m ≤ n) :
    phrase.Fits conventional n e := by
  have hbound : phrase.depthBound conventional m ≤ phrase.depthBound conventional n :=
    phrase.depthBound_mono hle
  cases phrase with
  | factor | power => exact Expr.FitsDepth.of_le h hbound
  | term | expression => exact Expr.FitsOnLeft.of_le h hbound

theorem Phrase.fits_operand_iff :
    (operand conventional).Fits conventional n e ↔
      e.FitsDepth ((operand conventional).depthBound conventional n) := by
  cases conventional <;> exact Iff.rfl

/-- A term can be one node deeper than its operands. -/
theorem Phrase.depthBound_term :
    depthBound conventional n .term = (operand conventional).depthBound conventional n + 1 := by
  cases conventional <;> rfl

/-- An expression can be one node deeper than its terms. -/
theorem Phrase.depthBound_expression :
    depthBound conventional n .expression = depthBound conventional n .term + 1 := by
  cases conventional <;> rfl

/-- A parenthesis with its level is no deeper than what it may hold, and one node less than a call
may have with the same level. -/
theorem Phrase.depthBound_level :
    depthBound conventional n .expression + 1 ≤ depthBound conventional (n + 1) .factor := by
  cases conventional <;> simp only [depthBound, Bool.false_eq_true, if_false, if_true] <;> omega

/-- The operands of a product, where more levels than each of them has may be open. -/
theorem fits_product (op : BinaryOp) (hleft : Phrase.term.Fits conventional m left)
    (hright : (Phrase.operand conventional).Fits conventional n right) :
    Phrase.term.Fits conventional (max m n) (.binary op left right) := by
  have hleft := hleft.of_le (Nat.le_max_left m n)
  have hright := Phrase.fits_operand_iff.mp (hright.of_le (Nat.le_max_right m n))
  unfold Phrase.Fits at hleft ⊢
  rw [Phrase.depthBound_term] at hleft ⊢
  exact Expr.fitsOnLeft_binary op hleft hright

/-- The terms of a sum. -/
theorem fits_sum (op : BinaryOp) (hleft : Phrase.expression.Fits conventional m left)
    (hright : Phrase.term.Fits conventional n right) :
    Phrase.expression.Fits conventional (max m n) (.binary op left right) := by
  have hleft := hleft.of_le (Nat.le_max_left m n)
  have hright := (hright.of_le (Nat.le_max_right m n)).alone
  unfold Phrase.Fits at hleft ⊢
  rw [Phrase.depthBound_expression] at hleft ⊢
  exact Expr.fitsOnLeft_binary op hleft hright

/-- The exponent of a power has a level of its own, so that its base may be one node below it. -/
theorem fits_power (hbase : Phrase.factor.Fits true m left)
    (hexponent : Phrase.power.Fits true n right) :
    Phrase.power.Fits true (max m (n + 1)) (.binary .pow left right) := by
  have hleft : left.FitsOnLeft (4 * max m (n + 1) + 1) := by
    refine Expr.FitsOnLeft.of_le (Expr.FitsDepth.onLeft hbase) ?_
    simp only [Phrase.depthBound, if_true]
    omega
  have hright : right.FitsDepth (4 * max m (n + 1)) := by
    refine Expr.FitsDepth.of_le hexponent ?_
    simp only [Phrase.depthBound]
    omega
  exact (Expr.fitsOnLeft_binary .pow hleft hright).alone

/-- The tree of a phrase is as deep as its levels allow. -/
theorem Nests.fits {phrase : Phrase} (h : Nests conventional n phrase w e)
    (hpower : phrase = .power → conventional = true) : phrase.Fits conventional n e := by
  induction h with
  | number text value =>
      refine Expr.FitsDepth.of_le (Expr.fitsDepth_number value) ?_
      cases conventional <;> decide
  | constant name =>
      refine Expr.FitsDepth.of_le (Expr.fitsDepth_constant name) ?_
      cases conventional <;> decide
  | sign _ _ ih =>
      refine Expr.FitsDepth.of_le (Expr.fitsDepth_unary _ (ih (by simp))) ?_
      cases conventional <;>
        simp only [Phrase.depthBound, Bool.false_eq_true, if_false, if_true] <;> omega
  | group _ ih =>
      refine Expr.FitsDepth.of_le (Expr.FitsOnLeft.alone (ih (by simp))) ?_
      exact Nat.le_of_succ_le Phrase.depthBound_level
  | call name arguments _ ih =>
      refine Expr.FitsDepth.of_le (Expr.fitsDepth_call name fun e he => ?_)
        Phrase.depthBound_level
      obtain ⟨b, hb, rfl⟩ := List.mem_map.mp he
      obtain ⟨a, ha, rfl⟩ := List.mem_map.mp hb
      have hmost : a.1 ≤ mostOf (arguments.map Prod.fst) :=
        mostOf_le_iff.mp (Nat.le_refl _) _ (List.mem_map_of_mem ha)
      exact Expr.FitsOnLeft.alone ((ih a ha (by simp)).of_le hmost)
  | base _ ih =>
      obtain rfl := hpower rfl
      refine Expr.FitsDepth.of_le (ih (by simp)) ?_
      simp only [Phrase.depthBound, if_true]
      omega
  | power _ _ ihbase ihexponent =>
      obtain rfl := hpower rfl
      exact fits_power (ihbase (by simp)) (ihexponent fun _ => rfl)
  | operand _ ih =>
      have hoperand : Phrase.operand conventional = .power → conventional = true := by
        cases conventional <;> simp [Phrase.operand]
      have hdepth := (Phrase.fits_operand_iff.mp (ih hoperand)).onLeft
      rw [← Phrase.depthBound_term] at hdepth
      exact hdepth
  | product _ _ _ ihleft ihright =>
      have hoperand : Phrase.operand conventional = .power → conventional = true := by
        cases conventional <;> simp [Phrase.operand]
      exact fits_product _ (ihleft (by simp)) (ihright hoperand)
  | term _ ih =>
      refine Expr.FitsOnLeft.of_le (ih (by simp)) ?_
      rw [Phrase.depthBound_expression]
      exact Nat.le_succ _
  | sum _ _ _ ihleft ihright => exact fits_sum _ (ihleft (by simp)) (ihright (by simp))

end Phrases

/-! ## Trees that are refused for their depth -/

namespace Run

variable {α β : Type} {limit : Int}

/-- The run stopped at a node below this limit. -/
def RefusedBy (limit : Int) (r : Run α) : Prop := r.result = .error (.error (.tooDeep limit))

theorem RefusedBy.bind {r : Run α} (h : r.RefusedBy limit) (f : α → Run β) :
    (r.bind f).RefusedBy limit := by
  obtain ⟨result, calls⟩ := r
  cases h
  rfl

/-- A node that may be entered is refused for what is below it. -/
theorem refusedBy_checkDepth_bind {depth : Int} {f : Unit → Run α} (h : (f ()).RefusedBy limit) :
    ((checkDepth limit depth).bind f).RefusedBy limit := by
  by_cases hdepth : depth ≤ limit
  · rw [checkDepth_of_le hdepth, pure_bind]
    exact h
  · rw [checkDepth_of_lt (Int.not_le.mp hdepth)]
    rfl

end Run

section Refusals

variable {registry : Registry} {limit depth : Int} {e right : Expr}

theorem refusedBy_number (value : Float) (h : limit < depth) :
    (evaluatePlainly host registry limit depth (.number value)).RefusedBy limit := by
  rw [evaluatePlainly, checkDepth_of_lt h]
  rfl

/-- After a number, the right operand is entered. -/
theorem refusedBy_right (op : BinaryOp) (value : Float)
    (h : (evaluatePlainly host registry limit (depth + 1) right).RefusedBy limit) :
    (evaluatePlainly host registry limit depth (.binary op (.number value) right)).RefusedBy
      limit := by
  rw [evaluatePlainly]
  refine Run.refusedBy_checkDepth_bind ?_
  rw [evaluatePlainly, Run.bind_assoc]
  refine Run.refusedBy_checkDepth_bind ?_
  rw [Run.pure_bind]
  exact h.bind _

/-- A call on the left of an operator is entered first, one node below it. -/
theorem refusedBy_left (op : BinaryOp) {name : String} {arguments : List Expr}
    (h : (evaluatePlainly host registry limit (depth + 1) (.call name arguments)).RefusedBy limit) :
    (evaluatePlainly host registry limit depth
      (.binary op (.call name arguments) right)).RefusedBy limit := by
  rw [evaluatePlainly]
  exact Run.refusedBy_checkDepth_bind (h.bind _)

theorem refusedBy_argument (name : String)
    (h : (evaluatePlainly host registry limit (depth + 1) e).RefusedBy limit) :
    (evaluatePlainly host registry limit depth (.call name [e])).RefusedBy limit := by
  rw [evaluatePlainly, evaluatePlainlyList]
  exact Run.refusedBy_checkDepth_bind ((h.bind _).bind _)

end Refusals

/-! ## The deepest trees -/

/-- The number one as it is read. -/
def one : Float := Decimal.toFloat false ⟨1, 0⟩

/-- A sum whose second term is a product that ends with this operand. -/
def chainText (operand : List Char) : List Char := '1' :: '+' :: '1' :: '*' :: operand

/-- The lexemes of such a sum. -/
def chainLexemes (operand : List Lexeme) : List Lexeme :=
  .number "1" one :: .operator .plus :: .number "1" one :: .operator .times :: operand

/-- The tree of such a sum. -/
def chainTree (operand : Expr) : Expr :=
  .binary .add (.number one) (.binary .mul (.number one) operand)

/-- An operand as deep as its levels allow: calls inside each other, with a chain in each, and raised
to a power where that is a node of its own. -/
def deepestOperand (conventional : Bool) : Nat → List Char
  | 0 => ['1']
  | n + 1 =>
      "abs".toList ++ '(' :: (chainText (deepestOperand conventional n) ++
        ')' :: if conventional then ['^', '1'] else [])

/-- A source whose tree is as deep as its levels allow. -/
def deepestSource (conventional : Bool) (n : Nat) : String :=
  String.ofList (chainText (deepestOperand conventional n))

section Deepest

variable {v : Vocabulary} {conventional : Bool} {n : Nat} {text rest : List Char}
  {w : List Lexeme} {e : Expr}

theorem lexes_one (hrest : IsBoundary rest) : Lexes v ('1' :: rest) [.number "1" one] rest := by
  have hlexeme : Lexeme.ofNumeral ['1'] = .ok (.number "1" one) := rfl
  have hnumeral : ∀ ch ∈ ['1'], isNumeralChar ch = true := by simp [isNumeralChar]
  exact Lexes.numeral hnumeral (by simp) hlexeme hrest

theorem isBoundary_operator (op : Operator) (rest : List Char) :
    IsBoundary (op.symbol :: rest) :=
  isBoundary_cons _ rest (by cases op <;> decide)

theorem lexes_chain (h : Lexes v (text ++ rest) w rest) :
    Lexes v (chainText text ++ rest) (chainLexemes w) rest :=
  (lexes_one (isBoundary_operator .plus _)).trans ((Lexes.operator .plus _).trans
    ((lexes_one (isBoundary_operator .times _)).trans ((Lexes.operator .times _).trans h)))

/-- A chain has the levels of the operand at its end. -/
theorem nests_chain (h : Nests conventional n (.operand conventional) w e) :
    Nests conventional n .expression (chainLexemes w) (chainTree e) := by
  have hone : Nests conventional 0 .factor [.number "1" one] (.number one) := .number "1" one
  have hproduct : Nests conventional (max 0 n) .term
      ([.number "1" one] ++ .operator .times :: w) (.binary .mul (.number one) e) :=
    .product rfl hone.operand_of_factor.operand h
  have hsum : Nests conventional (max 0 (max 0 n)) .expression
      (chainLexemes w) (chainTree e) :=
    .sum rfl hone.expression_of_factor hproduct
  simpa using hsum

/-- The operand at the end of a chain is two nodes below it. -/
theorem refusedBy_chain {registry : Registry} {limit depth : Int}
    (h : (evaluatePlainly host registry limit (depth + 2) e).RefusedBy limit) :
    (evaluatePlainly host registry limit depth (chainTree e)).RefusedBy limit := by
  refine refusedBy_right .add one (refusedBy_right .mul one ?_)
  rwa [Int.add_assoc]

/-- A call of a chain, with the level of its parenthesis. -/
theorem nests_call (h : Nests conventional n .expression w e) :
    Nests conventional (n + 1) .factor
      (.function "abs" :: .leftParen :: (w ++ [.rightParen])) (.call "abs" [e]) := by
  have hall : ∀ a ∈ [(n, w, e)], Nests conventional a.1 .expression a.2.1 a.2.2 := by
    intro a ha
    rw [List.mem_singleton.mp ha]
    exact h
  simpa [mostOf] using Nests.call "abs" _ hall

theorem lexes_call (hregistry : v.registry = Registry.builtin) (hlimit : 3 ≤ v.nameLimit)
    (h : Lexes v (text ++ ')' :: rest) w (')' :: rest)) :
    Lexes v ("abs".toList ++ '(' :: (text ++ ')' :: rest))
      (.function "abs" :: .leftParen :: (w ++ [.rightParen])) rest := by
  have hfunction : v.registry.isFunction "abs" = true := by
    rw [hregistry]
    decide +kernel
  have hlexeme : v.classify "abs".toList = .ok (.function "abs") :=
    Expr.classify_function hlimit hfunction
  have hname : isName "abs".toList = true := by decide
  exact (Lexes.name hname hlexeme (isBoundary_cons '(' _ (by decide))).trans
    ((Lexes.leftParen _).trans (h.trans (Lexes.rightParen rest)))

/-- An operand with so many levels is read, and refused by every limit on depth below its bound. -/
theorem exists_deepestOperand (hregistry : v.registry = Registry.builtin)
    (hlimit : 3 ≤ v.nameLimit) (conventional : Bool) (n : Nat) :
    ∃ w e,
      (∀ rest, IsBoundary rest → Lexes v (deepestOperand conventional n ++ rest) w rest) ∧
      Nests conventional n (.operand conventional) w e ∧
      ∀ registry limit depth,
        limit + 1 < depth + ((Phrase.operand conventional).depthBound conventional n : Int) →
        (evaluatePlainly host registry limit depth e).RefusedBy limit := by
  -- one level more is a call of a chain: the call is a node, the operand is two nodes below its
  -- argument, and a power around the call is one node more
  induction n with
  | zero =>
      refine ⟨_, _, fun rest hrest => lexes_one hrest,
        Nests.operand_of_factor (.number "1" one), fun registry limit depth hdepth => ?_⟩
      refine refusedBy_number one ?_
      cases conventional <;>
        simp only [Phrase.operand, Phrase.depthBound, Bool.false_eq_true, if_false] at hdepth <;>
        omega
  | succ n ih =>
      obtain ⟨w, e, hlexes, hnests, hrefused⟩ := ih
      have hcall := nests_call (nests_chain hnests)
      have hread : ∀ rest, Lexes v
          ("abs".toList ++ '(' :: (chainText (deepestOperand conventional n) ++ ')' :: rest))
          _ rest := fun rest =>
        lexes_call hregistry hlimit (lexes_chain (hlexes _ (isBoundary_cons ')' rest (by decide))))
      cases conventional with
      | false =>
          refine ⟨_, _, fun rest _ => ?_, hcall, fun registry limit depth hdepth => ?_⟩
          · simpa [deepestOperand] using hread rest
          · refine refusedBy_argument "abs" (refusedBy_chain (hrefused registry limit _ ?_))
            simp only [Phrase.operand, Phrase.depthBound, Bool.false_eq_true, if_false] at hdepth ⊢
            omega
      | true =>
          have hone : Nests true 0 .power [.number "1" one] (.number one) :=
            .base (.number "1" one)
          have hlevels : max (n + 1) (0 + 1) = n + 1 := by omega
          have hpower := Nests.power hcall hone
          rw [hlevels] at hpower
          refine ⟨_, _, fun rest hrest => ?_, hpower, fun registry limit depth hdepth => ?_⟩
          · have hexponent : Lexes v ('^' :: '1' :: rest)
                [.operator .power, .number "1" one] rest :=
              (Lexes.operator .power _).trans (lexes_one hrest)
            simpa [deepestOperand] using (hread _).trans hexponent
          · refine refusedBy_left .pow
              (refusedBy_argument "abs" (refusedBy_chain (hrefused registry limit _ ?_)))
            simp only [Phrase.operand, Phrase.depthBound] at hdepth ⊢
            omega

/-- The source whose tree is deepest is read as a tree with so many levels, and this tree is refused
by every limit on depth below the bound. -/
theorem exists_deepest (hregistry : v.registry = Registry.builtin) (hlimit : 3 ≤ v.nameLimit)
    (conventional : Bool) (n : Nat) :
    ∃ e, (Scan.ofSource v (deepestSource conventional n)).IsWhole ∧
      Nests conventional n .expression
        (Scan.ofSource v (deepestSource conventional n)).lexemes e ∧
      ∀ registry limit, limit < (Phrase.expression.depthBound conventional n : Int) →
        (evaluatePlainly host registry limit 1 e).RefusedBy limit := by
  obtain ⟨w, e, hlexes, hnests, hrefused⟩ :=
    exists_deepestOperand hregistry hlimit conventional n
  have hsource : (deepestSource conventional n).toList =
      chainText (deepestOperand conventional n) := String.toList_ofList
  have hchain := lexes_chain (hlexes [] isBoundary_nil)
  rw [List.append_nil, ← hsource] at hchain
  obtain ⟨ts, pos, hscan, hts⟩ := hchain.ofSource
  have hwhole : (Scan.ofSource v (deepestSource conventional n)).IsWhole :=
    Scan.isWhole_iff.mpr ⟨pos, by rw [hscan]⟩
  have hexpression := nests_chain hnests
  rw [← hts] at hexpression
  refine ⟨chainTree e, hwhole, ?_, fun registry limit hdepth => ?_⟩
  · rw [hscan]
    exact hexpression
  · refine refusedBy_chain (hrefused registry limit _ ?_)
    rw [Phrase.depthBound_expression, Phrase.depthBound_term] at hdepth
    omega

end Deepest

/-! ## Nesting limits against depth limits -/

theorem not_wentTooDeep_evaluate {registry : Registry} {limit : Int} {e : Expr}
    (h : ¬ (evaluateAt host registry limit 1 [] e).WentTooDeep) :
    ¬ (evaluate host registry limit e).WentTooDeep := by
  unfold evaluate
  split
  · exact h
  · -- beyond the capacity, no failure keeps the words of one for depth
    rintro ⟨n, hn⟩
    simp only [Run.mapFailure] at hn
    cases hresult : (evaluateAt host registry host.depth 1 [] e).result with
    | ok value =>
        rw [hresult] at hn
        cases hn
    | error failure =>
        rw [hresult] at hn
        have hfailure : failure.beyondCapacity limit = .error (.tooDeep n) := Except.error.inj hn
        unfold EvalFailure.beyondCapacity at hfailure
        split at hfailure
        · cases hfailure
        · next hother => exact hother n hfailure

/-- The depth that trees need which are read under a nesting limit. -/
def neededDepth (conventional : Bool) (nestingLimit : Int) : Int :=
  if conventional then 4 * nestingLimit + 3 else 3 * nestingLimit + 3

theorem neededDepth_eq (conventional : Bool) (n : Nat) :
    neededDepth conventional n = (Phrase.expression.depthBound conventional n : Int) := by
  cases conventional <;> rfl

/-- With the built-in names the source is read as a tree that every limit below this depth refuses.
The capacities, which stand in for limits beyond them, are left aside. -/
def NeedsDepth (host : Host) (settings : Settings) (source : String) (bound : Int) : Prop :=
  ∃ e, (Scan.ofSource ⟨Registry.builtin, settings.nameLimit⟩ source).parse
      ⟨settings.conventionalPower, settings.nestingLimit⟩ = .ok e ∧
    (settings.nestingLimit ≤ host.levels → parse host Registry.builtin settings source = .ok e) ∧
    ∀ limit, limit < bound →
      (evaluateAt host Registry.builtin limit 1 [] e).RefusedBy limit ∧
        (limit ≤ host.depth → (evaluate host Registry.builtin limit e).RefusedBy limit)

/-- The source whose tree is deepest needs all the depth that its nesting limit allows. -/
theorem needsDepth_deepestSource {settings : Settings} {n : Nat}
    (hlimit : settings.nestingLimit = n) (hname : 3 ≤ settings.nameLimit) :
    NeedsDepth host settings (deepestSource settings.conventionalPower n)
      (neededDepth settings.conventionalPower n) := by
  let v : Vocabulary := ⟨Registry.builtin, settings.nameLimit⟩
  obtain ⟨e, hwhole, hnests, hrefused⟩ :=
    exists_deepest (show v.registry = Registry.builtin from rfl) hname settings.conventionalPower n
  have hparse := hnests.parse_eq hwhole n
  rw [exceeds_self] at hparse
  refine ⟨e, hlimit ▸ hparse, fun hcapacity => ?_, fun limit hdepth => ?_⟩
  · rw [parse_eq_of_le_levels _ _ hcapacity, hlimit]
    exact hparse
  · have hat : (evaluateAt host Registry.builtin limit 1 [] e).RefusedBy limit := by
      rw [(agreesPlainly Registry.builtin limit e).1 1]
      rw [neededDepth_eq] at hdepth
      exact hrefused Registry.builtin limit hdepth
    refine ⟨hat, fun hcapacity => ?_⟩
    unfold evaluate
    rw [if_pos hcapacity]
    exact hat

/-- What is read under a nesting limit fits the depth it allows. -/
theorem not_wentTooDeep_of_parse {registry : Registry} {settings : Settings} {source : String}
    {e : Expr} {limit : Int} (hlimit : 0 ≤ settings.nestingLimit)
    (hparse : parse host registry settings source = .ok e)
    (hneeded : neededDepth settings.conventionalPower settings.nestingLimit ≤ limit) :
    ¬ (evaluateAt host registry limit 1 [] e).WentTooDeep := by
  obtain ⟨n, hnests, hn⟩ := exists_nests_of_parse hparse
  have hdepth : e.FitsDepth (Phrase.expression.depthBound settings.conventionalPower
      settings.nestingLimit.toNat) :=
    Expr.FitsOnLeft.alone ((hnests.fits (by simp)).of_le hn)
  have hall : ∀ d ∈ e.depths 1, d ≤ limit := by
    intro d hd
    have hd := hdepth 1 d hd
    rw [← neededDepth_eq, Int.toNat_of_nonneg hlimit] at hd
    omega
  rw [(agreesPlainly registry limit e).1 1]
  exact not_wentTooDeep_of_depths host registry e 1 hall

/-- The nesting limit bounds the depth of evaluation. A tree that is read under it is never refused
for its depth by a limit that is three times as large and three more, or four times where powers
have a tier of their own. No smaller limit would do: under every nesting limit there is a source
that is read, and whose tree every smaller limit on depth refuses. So the default limits do not fit
together. -/
theorem nestingLimit_bounds_depth (host : Host) :
    (∀ (registry : Registry) (settings : Settings) (source : String) (e : Expr) (limit : Int),
      0 ≤ settings.nestingLimit → parse host registry settings source = .ok e →
      neededDepth settings.conventionalPower settings.nestingLimit ≤ limit →
        ¬ (evaluateAt host registry limit 1 [] e).WentTooDeep ∧
          ¬ (evaluate host registry limit e).WentTooDeep) ∧
    (∀ (conventional : Bool) (n : Nat), ∃ source, ∀ settings : Settings,
      settings.nestingLimit = n → settings.conventionalPower = conventional →
      3 ≤ settings.nameLimit → NeedsDepth host settings source (neededDepth conventional n)) ∧
    ∀ conventional : Bool, ∃ source e,
      parse host Registry.builtin { conventionalPower := conventional } source = .ok e ∧
        (evaluate host Registry.builtin ({} : Settings).depthLimit e).RefusedBy
          ({} : Settings).depthLimit := by
  refine ⟨fun registry settings source e limit hlimit hparse hneeded => ?_,
    fun conventional n => ⟨deepestSource conventional n, ?_⟩, fun conventional => ?_⟩
  · have hat := not_wentTooDeep_of_parse hlimit hparse hneeded
    exact ⟨hat, not_wentTooDeep_evaluate hat⟩
  · rintro settings hlimit rfl hname
    exact needsDepth_deepestSource hlimit hname
  · -- a hundred levels allow a depth of 303 and more, beyond the default of 300
    have hname : (3 : Int) ≤ 31 := by decide
    have hlevels : (100 : Int) ≤ host.levels := Int.le_trans (by decide) host.nestingCeiling_le
    have hdepth : (300 : Int) ≤ host.depth := host.depthCeiling_le
    let settings : Settings := { conventionalPower := conventional }
    obtain ⟨e, -, hparse, hrefused⟩ :=
      needsDepth_deepestSource (show settings.nestingLimit = (100 : Nat) from rfl) hname
    refine ⟨_, e, hparse hlevels, (hrefused 300 ?_).2 hdepth⟩
    cases conventional <;> decide

/-- One level allows a depth of six: a product with a call fits, and some source needs all of it. -/
theorem depth_one_level :
    (∃ e, parse .standard Registry.builtin ⟨1, 300, 31, false⟩ "2*abs(pi)" = .ok e ∧
      ¬ (evaluate .standard Registry.builtin 6 e).WentTooDeep) ∧
    ∃ source, NeedsDepth .standard ⟨1, 300, 31, false⟩ source 6 := by
  obtain ⟨hfits, htight, -⟩ := nestingLimit_bounds_depth .standard
  have hread : (parse .standard Registry.builtin ⟨1, 300, 31, false⟩
      "2*abs(pi)").toOption.isSome = true := by decide +kernel
  refine ⟨?_, ?_⟩
  · cases hparse : parse .standard Registry.builtin ⟨1, 300, 31, false⟩ "2*abs(pi)" with
    | error cause => rw [hparse] at hread; cases hread
    | ok e =>
        have hone : (0 : Int) ≤ 1 := by decide
        have hsix : neededDepth false 1 ≤ 6 := by decide
        exact ⟨e, rfl, (hfits Registry.builtin ⟨1, 300, 31, false⟩ _ e 6 hone hparse hsix).2⟩
  · obtain ⟨source, hsource⟩ := htight false 1
    have hname : (3 : Int) ≤ 31 := by decide
    exact ⟨source, hsource ⟨1, 300, 31, false⟩ rfl rfl hname⟩

end Calculator
