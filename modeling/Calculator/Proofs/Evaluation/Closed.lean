import Calculator.Proofs.Evaluation.Calls
import Calculator.Proofs.Expr.Closed

/-!
# Evaluation without unknown names

A tree over a registry is evaluated without meeting a name or an operator that is unknown, under
every limit (`isResolved_evaluate`). The evaluation looks up names of the tree only, and no part of it
makes up another failure of this kind (`Run.IsResolved.bind`).

A tree that was read is over its registry, and so over every registry with further constants: the
checks for unknown names in the evaluation are never the ones that fail (`isResolved_of_parse`).
-/

set_option autoImplicit false

namespace Calculator

variable {host : Host}

/-! ## Runs that know all names -/

/-- The error is about a name or an operator that is not known. -/
def EvalError.isUnknown : EvalError → Bool
  | .unknownConstant _ | .unknownFunction _ | .unknownBinary _ | .unknownUnary _ => true
  | _ => false

namespace Run

variable {α β : Type}

/-- The run did not fail for a name or an operator that is not known. -/
def IsResolved (r : Run α) : Prop :=
  ∀ cause, r.result = .error (.error cause) → cause.isUnknown = false

theorem isResolved_of_ok {a : α} {calls : List Call} : (⟨.ok a, calls⟩ : Run α).IsResolved := by
  rintro cause ⟨⟩

theorem isResolved_pure (a : α) : (Run.pure a).IsResolved := isResolved_of_ok

theorem isResolved_error {cause : EvalError} (h : cause.isUnknown = false) :
    (Run.error cause : Run α).IsResolved := by
  rintro other ⟨⟩
  exact h

theorem IsResolved.bind {r : Run α} {f : α → Run β} (hr : r.IsResolved)
    (hf : ∀ a, (f a).IsResolved) : (r.bind f).IsResolved := by
  obtain ⟨result, calls⟩ := r
  cases result with
  | error failure => exact fun cause h => hr cause (by cases h; rfl)
  | ok a => exact hf a

/-- Other words for a depth beyond the capacity are not about a name. -/
theorem IsResolved.beyondCapacity {r : Run α} (h : r.IsResolved) (limit : Int) :
    (r.mapFailure (EvalFailure.beyondCapacity limit)).IsResolved := by
  obtain ⟨result, calls⟩ := r
  cases result with
  | ok a => exact isResolved_of_ok
  | error failure =>
      intro cause hcause
      have hfailure : failure.beyondCapacity limit = .error cause := Except.error.inj hcause
      unfold EvalFailure.beyondCapacity at hfailure
      split at hfailure
      · cases hfailure
        rfl
      · exact h cause (congrArg Except.error hfailure)

/-- A call that was made has a function. -/
theorem IsAnswered.isFunction {r : Run α} {registry : Registry} (h : r.IsAnswered host registry) :
    ∀ call ∈ r.calls, registry.isFunction call.name = true := by
  intro call hcall
  obtain ⟨answer, hanswer⟩ := h.exists_answer hcall
  obtain ⟨f, hf, -⟩ := Call.answer?_eq_some_iff.mp hanswer
  rw [← Registry.isSome_function?, hf, Option.isSome_some]

end Run

/-! ## The parts of an evaluation -/

section Parts

variable {registry : Registry} {limit : Int}

theorem isResolved_checkDepth (limit depth : Int) : (checkDepth limit depth).IsResolved := by
  unfold checkDepth
  split
  · exact Run.isResolved_error rfl
  · exact Run.isResolved_pure ()

theorem isResolved_constantValue {name : String} (h : registry.isConstant name = true) :
    (⟨constantValue registry name, []⟩ : Run Float).IsResolved := by
  rw [← Registry.isSome_constant?, Option.isSome_iff_exists] at h
  obtain ⟨value, hvalue⟩ := h
  simp only [constantValue_eq, hvalue]
  exact Run.isResolved_of_ok

theorem isResolved_applyUnary {op : UnaryOp} (h : op ∈ [UnaryOp.pos, .neg]) (value : Float) :
    (⟨applyUnary op value, []⟩ : Run Float).IsResolved := by
  cases op with
  | other symbol => simp at h
  | _ => exact Run.isResolved_of_ok

theorem isResolved_applyBinary {op : BinaryOp} (h : op ∈ [BinaryOp.add, .sub, .mul, .div, .pow])
    (left right : Float) : (⟨applyBinary host op left right, []⟩ : Run Float).IsResolved := by
  cases op with
  | other symbol => simp at h
  | div =>
      rw [applyBinary_div]
      split
      · exact Run.isResolved_error rfl
      · exact Run.isResolved_of_ok
  | _ => exact Run.isResolved_of_ok

/-- A function fails with an argument outside its domain, or with a fault. -/
theorem isResolved_value (f : Function) (arguments : List Float) (calls : List Call) :
    (⟨f.value host arguments, calls⟩ : Run Float).IsResolved := by
  unfold Function.value
  split
  · exact Run.isResolved_of_ok
  · rintro cause ⟨⟩
    rfl
  · rintro cause ⟨⟩

theorem isResolved_callFunction {name : String} (h : registry.isFunction name = true)
    (arguments : List Float) : (callFunction host registry name arguments).IsResolved := by
  rw [← Registry.isSome_function?, Option.isSome_iff_exists] at h
  obtain ⟨f, hf⟩ := h
  simp only [callFunction_eq, hf]
  split
  · exact isResolved_value f arguments _
  · exact Run.isResolved_error rfl

/-! ## Trees -/

theorem isResolved_evaluatePlainlyList {depth : Int} {arguments : List Expr}
    (h : ∀ a ∈ arguments, (evaluatePlainly host registry limit depth a).IsResolved) :
    (evaluatePlainlyList host registry limit depth arguments).IsResolved :=
  evaluatePlainlyList_of_forall (fun _ r => r.IsResolved) (Run.isResolved_pure [])
    (fun _ _ hr hs => hr.bind fun _ => hs.bind fun _ => Run.isResolved_pure _) h

theorem isResolved_evaluatePlainly {e : Expr} (h : e.IsOver registry) (depth : Int) :
    (evaluatePlainly host registry limit depth e).IsResolved := by
  have hcheck := isResolved_checkDepth limit
  induction h generalizing depth with
  | number _ =>
      rw [evaluatePlainly]
      exact (hcheck depth).bind fun _ => Run.isResolved_pure _
  | constant hname =>
      rw [evaluatePlainly]
      exact (hcheck depth).bind fun _ => isResolved_constantValue hname
  | unary hop _ ih =>
      rw [evaluatePlainly]
      exact (hcheck depth).bind fun _ => (ih _).bind fun value => isResolved_applyUnary hop value
  | binary hop _ _ ihl ihr =>
      rw [evaluatePlainly]
      exact (hcheck depth).bind fun _ => (ihl _).bind fun l => (ihr _).bind fun r =>
        isResolved_applyBinary hop l r
  | call hname _ ih =>
      have hlist := isResolved_evaluatePlainlyList fun a ha => ih a ha (depth + 1)
      rw [evaluatePlainly]
      exact (hcheck depth).bind fun _ => hlist.bind fun values =>
        isResolved_callFunction hname values

end Parts

/-- A tree over a registry is evaluated without meeting anything unknown. -/
theorem isResolved_evaluate {registry : Registry} {e : Expr} (h : e.IsOver registry) (limit : Int) :
    (evaluate host registry limit e).IsResolved := by
  rw [evaluate_eq_ite]
  split
  · exact isResolved_evaluatePlainly h 1
  · exact (isResolved_evaluatePlainly h 1).beyondCapacity limit

/-! ## Trees that were read -/

/-- The registry itself, or one with further constants. -/
def Registry.IsOrExtends (larger r : Registry) : Prop :=
  larger = r ∨ ∃ extra, r.withConstants extra = .ok larger

theorem Registry.IsOrExtends.extends {larger r : Registry} (h : larger.IsOrExtends r) :
    larger.Extends r := by
  rcases h with rfl | ⟨extra, hlarger⟩
  · exact .refl larger
  · exact extends_withConstants hlarger

/-- A tree that is read uses the names of its registry and the known operators, and its numbers are
neither negative nor missing. So its registry does not evaluate it to an error about an unknown name
or operator, whatever the limit, nor does one with further constants, and every call finds its
function. -/
theorem isResolved_of_parse {registry : Registry} {settings : Settings} {source : String} {e : Expr}
    (h : parse host registry settings source = .ok e) :
    e.IsOver registry ∧
      ∀ larger : Registry, larger.IsOrExtends registry →
        e.IsOver larger ∧ ∀ limit,
          (evaluate host larger limit e).IsResolved ∧
            ∀ call ∈ (evaluate host larger limit e).calls, larger.isFunction call.name = true := by
  have hover := isOver_of_parse h
  refine ⟨hover, fun larger hlarger => ?_⟩
  have hover' := hover.extend hlarger.extends
  refine ⟨hover', fun limit => ⟨isResolved_evaluate hover' limit, ?_⟩⟩
  exact (isAnswered_evaluate host larger limit e).isFunction

/-- A quotient with a sign, a constant and a call in it, evaluated with a further constant that it
does not use, under a limit that is too small for it. -/
theorem isResolved_quotient :
    ∃ e larger, parse .standard Registry.builtin {} "-pi / pow(2, .5)" = .ok e ∧
      Registry.builtin.withConstants [("tau", Float.ofBits 0x401921fb54442d18)] = .ok larger ∧
      e.IsOver Registry.builtin ∧ e.IsOver larger ∧ (evaluate .standard larger 2 e).IsResolved ∧
      ∀ call ∈ (evaluate .standard larger 2 e).calls, larger.isFunction call.name = true := by
  have hsome : (parse .standard Registry.builtin {} "-pi / pow(2, .5)").toOption.isSome = true := by
    decide +kernel
  have hadmits : Registry.builtin.Admits [("tau", Float.ofBits 0x401921fb54442d18)] := by
    unfold Registry.Admits
    decide
  obtain ⟨larger, hlarger⟩ := Registry.exists_withConstants hadmits
  cases hparse : parse .standard Registry.builtin {} "-pi / pow(2, .5)" with
  | error cause => rw [hparse] at hsome; cases hsome
  | ok e =>
      obtain ⟨hover, hextended⟩ := isResolved_of_parse hparse
      obtain ⟨hover', hevaluate⟩ := hextended larger (Or.inr ⟨_, hlarger⟩)
      exact ⟨e, larger, rfl, hlarger, hover, hover', hevaluate 2⟩

end Calculator
