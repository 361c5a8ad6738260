import Calculator.Proofs.Evaluation.Recursive
import Calculator.Proofs.Number.Powers
import Calculator.Proofs.Results
import Calculator.Registry.Builtin

/-!
# Powers in expressions

Powers are those of C, whatever their operands, and the operator for powers and the function `pow`
are two ways to write them (`powers_agree`). The operands of the two stand at different depths, as a
left operand that is itself an operation is on the level of its node; apart from refusals for depth
that makes no difference.
-/

set_option autoImplicit false

namespace Calculator

variable {host : Host}

/-! ## Refusals for depth -/

/-- The tree is too deep, for the limit or to be followed at all. -/
def EvalFailure.isDepth : EvalFailure → Bool
  | .error (.tooDeep _) => true
  | .error (.beyondCapacity _) => true
  | _ => false

namespace Run

variable {α β : Type}

/-- The run ended with a refusal for depth. -/
def IsTooDeep (r : Run α) : Prop := ∃ failure, r.result = .error failure ∧ failure.isDepth = true

theorem result_bind (r : Run α) (f : α → Run β) :
    (r.bind f).result = r.result >>= fun a => (f a).result := by
  obtain ⟨result, calls⟩ := r
  cases result <;> rfl

theorem WentTooDeep.bind {r : Run α} (h : r.WentTooDeep) (f : α → Run β) :
    (r.bind f).WentTooDeep := by
  obtain ⟨limit, hlimit⟩ := h
  exact ⟨limit, by rw [result_bind, hlimit]; rfl⟩

end Run

/-! ## The operator and the function -/

theorem result_callFunction_pow (x y : Float) :
    (callFunction host Registry.builtin "pow" [x, y]).result = .ok (host.power x y) := rfl

/-- Without a refusal for depth, operator and function have the same result. -/
theorem evaluatePlainly_pow (limit depth : Int) (a b : Expr) :
    (evaluatePlainly host Registry.builtin limit depth (.call "pow" [a, b])).WentTooDeep ∨
      (evaluatePlainly host Registry.builtin limit depth (.binary .pow a b)).result =
        (evaluatePlainly host Registry.builtin limit depth (.call "pow" [a, b])).result := by
  -- under the operator the left operand stands as deep as an argument, or one level higher
  have hroom : limit - (depth + 1) ≤ limit - a.leftDepth depth := by
    have hleft : a.leftDepth depth ≤ depth + 1 := by cases a <;> simp [Expr.leftDepth]
    omega
  rcases evaluatePlainly_of_room Registry.builtin a hroom with hdeep | heq
  · left
    by_cases hdepth : depth ≤ limit
    · rw [evaluatePlainly, checkDepth_of_le hdepth, Run.pure_bind]
      exact (hdeep.bind _).bind _
    · rw [evaluatePlainly, checkDepth_of_lt (Int.not_le.mp hdepth)]
      exact ⟨limit, rfl⟩
  · right
    simp only [evaluatePlainly, evaluatePlainlyList, Run.bind_assoc, Run.pure_bind,
      Run.result_bind, heq, result_callFunction_pow]
    rfl

/-- Operands with values have a power, unless one of them is refused for the depth at which it
stands. -/
theorem evaluatePlainly_pow_of_ok {limit depth : Int} {a b : Expr} {x y : Float}
    (ha : (evaluatePlainly host Registry.builtin limit depth a).result = .ok x)
    (hb : (evaluatePlainly host Registry.builtin limit depth b).result = .ok y) :
    (evaluatePlainly host Registry.builtin limit depth (.binary .pow a b)).WentTooDeep ∨
      (evaluatePlainly host Registry.builtin limit depth (.binary .pow a b)).result =
        .ok (host.power x y) := by
  have hleft : depth ≤ a.leftDepth depth := by cases a <;> simp [Expr.leftDepth]
  by_cases hdepth : depth ≤ limit
  · rw [evaluatePlainly, checkDepth_of_le hdepth, Run.pure_bind]
    rcases evaluatePlainly_of_room Registry.builtin a
        (show limit - a.leftDepth depth ≤ limit - depth by omega) with hdeep | heqa
    · exact Or.inl (hdeep.bind _)
    · rcases evaluatePlainly_of_room Registry.builtin b
          (show limit - (depth + 1) ≤ limit - depth by omega) with hdeep | heqb
      · obtain ⟨n, hn⟩ := hdeep.bind fun r => (⟨applyBinary host .pow x r, []⟩ : Run Float)
        refine Or.inl ⟨n, ?_⟩
        rw [Run.result_bind, heqa, ha]
        exact hn
      · right
        rw [Run.result_bind, heqa, ha]
        show (Run.bind _ _).result = _
        rw [Run.result_bind, heqb, hb]
        rfl
  · rw [evaluatePlainly, checkDepth_of_lt (Int.not_le.mp hdepth)]
    exact Or.inl ⟨limit, rfl⟩

/-- A run that went too deep is refused, in words that depend on the limit. -/
theorem isTooDeep_evaluate {limit : Int} {e : Expr}
    (h : (evaluatePlainly host Registry.builtin (min limit host.depth) 1 e).WentTooDeep) :
    (evaluate host Registry.builtin limit e).IsTooDeep := by
  obtain ⟨n, hn⟩ := h
  rw [evaluate_eq_ite]
  split
  · next hlimit =>
      rw [Int.min_eq_left hlimit] at hn
      exact ⟨_, hn, rfl⟩
  · next hlimit =>
      rw [Int.min_eq_right (by omega)] at hn
      refine ⟨.error (.beyondCapacity limit), ?_, rfl⟩
      rw [Run.mapFailure, hn]
      rfl

/-- Under every limit, operator and function have the same result, unless a call is refused for its
depth. -/
theorem evaluate_pow (limit : Int) (a b : Expr) :
    (evaluate host Registry.builtin limit (.call "pow" [a, b])).IsTooDeep ∨
      (evaluate host Registry.builtin limit (.binary .pow a b)).result =
        (evaluate host Registry.builtin limit (.call "pow" [a, b])).result := by
  rcases evaluatePlainly_pow (min limit host.depth) 1 a b with hdeep | heq
  · exact Or.inl (isTooDeep_evaluate hdeep)
  · right
    rw [evaluate_eq_ite, evaluate_eq_ite]
    split
    · next hlimit =>
        rw [Int.min_eq_left hlimit] at heq
        exact heq
    · next hlimit =>
        rw [Int.min_eq_right (by omega)] at heq
        rw [Run.mapFailure, Run.mapFailure, heq]

/-- The words for a depth that cannot be followed leave values as they are. -/
theorem result_evaluate_eq_ok_iff {registry : Registry} {limit : Int} {e : Expr} {value : Float} :
    (evaluate host registry limit e).result = .ok value ↔
      (evaluatePlainly host registry (min limit host.depth) 1 e).result = .ok value := by
  rw [evaluate_eq_ite]
  split
  · next hlimit => rw [Int.min_eq_left hlimit]
  · next hlimit =>
      rw [Int.min_eq_right (by omega), Run.mapFailure]
      exact mapError_eq_ok_iff

/-- Under every limit, operands with values have a power, unless that is refused for its depth. -/
theorem evaluate_pow_of_ok {limit : Int} {a b : Expr} {x y : Float}
    (ha : (evaluate host Registry.builtin limit a).result = .ok x)
    (hb : (evaluate host Registry.builtin limit b).result = .ok y) :
    (evaluate host Registry.builtin limit (.binary .pow a b)).IsTooDeep ∨
      (evaluate host Registry.builtin limit (.binary .pow a b)).result = .ok (host.power x y) := by
  have hplain := evaluatePlainly_pow_of_ok (result_evaluate_eq_ok_iff.mp ha)
    (result_evaluate_eq_ok_iff.mp hb)
  exact hplain.imp isTooDeep_evaluate result_evaluate_eq_ok_iff.mpr

/-! ## Powers are those of C -/

open Double

/-- Powers are defined for all doubles, and are those of C however the library of the host refuses
operands: an overflow is negative exactly for a negative base and an odd exponent, a negative power
of zero takes the sign of the zero exactly for an odd exponent, and a negative number has none with a
fractional exponent. Odd exponents are the finite doubles of value `2 * k + 1`. Operator and function
share the power: of all trees they give the same value or the same error, unless one is refused for
its depth, and of trees with values they give the power of C of the values. -/
theorem powers_agree {host : Host} {pow : Float → Float → Float} (hpow : IsCPower pow)
    (hchecked : IsCheckOf pow host.pow) :
    (∀ x y, host.power x y = pow x y) ∧
      (∀ x y a b, value? x = some a → a ≠ 0 → value? y = some b → isInfinite (pow x y) = true →
        host.power x y = signedInfinity (isBelowZero x && isOddInteger y)) ∧
      (∀ x y, isZero x = true → isBelowZero y = true →
        host.power x y = signedInfinity (isOddInteger y && isNegative x)) ∧
      (∀ x y a b, value? x = some a → a < 0 → value? y = some b → (∀ n : ℤ, b ≠ n) →
        host.power x y = notANumber) ∧
      (∀ x, isOddInteger x = true ↔ ∃ k : ℤ, value? x = some (2 * (k : ℚ) + 1)) ∧
      ∀ limit a b, ¬ (evaluate host Registry.builtin limit (.binary .pow a b)).IsTooDeep →
        ¬ (evaluate host Registry.builtin limit (.call "pow" [a, b])).IsTooDeep →
        (evaluate host Registry.builtin limit (.binary .pow a b)).result =
            (evaluate host Registry.builtin limit (.call "pow" [a, b])).result ∧
          ∀ x y, (evaluate host Registry.builtin limit a).result = .ok x →
            (evaluate host Registry.builtin limit b).result = .ok y →
            (evaluate host Registry.builtin limit (.binary .pow a b)).result = .ok (pow x y) := by
  have hagree : ∀ x y, host.power x y = pow x y := Host.power_eq_pow hpow hchecked
  refine ⟨hagree, fun x y a b hx ha hy hinfinite => ?_, fun x y hx hy => ?_,
    fun x y a b hx ha hy hb => ?_, fun x => isOddInteger_iff, fun limit a b hoperator hcall =>
      ⟨(evaluate_pow limit a b).resolve_left hcall, fun x y ha hb => ?_⟩⟩
  · rw [hagree]
    exact hpow.overflow_eq hx ha hy hinfinite
  · rw [hagree]
    exact hpow.zero_eq (isZero_iff.mp hx) hy
  · rw [hagree]
    exact hpow.fractional x y a b hx ha hy hb
  · rw [← hagree]
    exact (evaluate_pow_of_ok ha hb).resolve_left hoperator

/-- Powers as they are for operands so large that every power is an overflow. -/
def boundlessPower (x y : Float) : Float :=
  if isPole x y then signedInfinity (isOddInteger y && isNegative x)
  else if isUndefinedPower x y then notANumber
  else signedInfinity (isBelowZero x && isOddInteger y)

theorem isCPower_boundlessPower : IsCPower boundlessPower where
  zero_odd x y hx hy hodd := by
    rw [boundlessPower, if_pos (isPole_iff.mpr ⟨hx, hy⟩), isOddInteger_iff.mpr hodd, Bool.true_and]
  zero_other x y hx hy hodd := by
    have heven : isOddInteger y = false := Bool.eq_false_iff.mpr (mt isOddInteger_iff.mp hodd)
    rw [boundlessPower, if_pos (isPole_iff.mpr ⟨hx, hy⟩), heven, Bool.false_and]
    rfl
  fractional x y a b hx ha hy hb := by
    have hpole : ¬ isPole x y = true := by
      rw [isPole_iff, hx, Option.some_inj]
      exact fun h => ha.ne h.1
    rw [boundlessPower, if_neg hpole, if_pos (isUndefinedPower_iff.mpr ⟨a, b, hx, ha, hy, hb⟩)]
  overflow x y a b hx ha hy hinfinite := by
    have hpole : ¬ isPole x y = true := by
      rw [isPole_iff, hx, Option.some_inj]
      exact fun h => ha h.1
    rw [boundlessPower, if_neg hpole] at hinfinite ⊢
    split at hinfinite
    · exact absurd hinfinite (by decide)
    · next hdefined =>
        have hwhole : a < 0 → ∃ n : ℤ, b = n := by
          intro hneg
          by_contra hnone
          exact hdefined (isUndefinedPower_iff.mpr ⟨a, b, hx, hneg, hy, not_exists.mp hnone⟩)
        rw [if_neg hdefined, isNegative_signedInfinity, rpow_neg_iff ha hwhole, Bool.and_eq_true,
          isBelowZero_iff hx, isOddInteger_iff, exists_odd_iff hy]

/-- A host whose library computes these. -/
def boundlessHost : Host := { Host.standard with pow := checkedPower boundlessPower }

/-- The power of `-10` by `309` is negative infinity, with the operator and with the function. -/
theorem powers_agree_at_overflow :
    (evaluate boundlessHost Registry.builtin 2 (.binary .pow
        (.number (Decimal.toFloat true ⟨10, 0⟩)) (.number (Decimal.toFloat false ⟨309, 0⟩)))).result =
          .ok negInfinity ∧
      (evaluate boundlessHost Registry.builtin 2 (.call "pow"
        [.number (Decimal.toFloat true ⟨10, 0⟩), .number (Decimal.toFloat false ⟨309, 0⟩)])).result =
          .ok negInfinity := by
  obtain ⟨hagree, hoverflow, -, -, -, hshared⟩ :=
    @powers_agree boundlessHost boundlessPower isCPower_boundlessPower
      (isCheckOf_checkedPower boundlessPower)
  have hbase : value? (Decimal.toFloat true ⟨10, 0⟩) = some ((-10 : ℤ) : ℚ) :=
    toInt?_eq_some_iff.mp (by decide +kernel)
  have hexponent : value? (Decimal.toFloat false ⟨309, 0⟩) = some ((309 : ℤ) : ℚ) :=
    toInt?_eq_some_iff.mp (by decide +kernel)
  have hinfinite : isInfinite (boundlessPower (Decimal.toFloat true ⟨10, 0⟩)
      (Decimal.toFloat false ⟨309, 0⟩)) = true := by decide +kernel
  have hsign : (isBelowZero (Decimal.toFloat true ⟨10, 0⟩) &&
      isOddInteger (Decimal.toFloat false ⟨309, 0⟩)) = true := by decide +kernel
  have hvalue : boundlessPower (Decimal.toFloat true ⟨10, 0⟩) (Decimal.toFloat false ⟨309, 0⟩) =
      negInfinity := by
    rw [← hagree, hoverflow _ _ _ _ hbase (by norm_num) hexponent hinfinite, hsign]
    rfl
  obtain ⟨hequal, hpower⟩ := hshared 2 (.number (Decimal.toFloat true ⟨10, 0⟩))
    (.number (Decimal.toFloat false ⟨309, 0⟩))
    (by rintro ⟨failure, hfailure, -⟩; cases hfailure)
    (by rintro ⟨failure, hfailure, -⟩; cases hfailure)
  have hoperator := hpower _ _ rfl rfl
  rw [hvalue] at hoperator
  exact ⟨hoperator, hequal ▸ hoperator⟩

end Calculator
