import Calculator.Calculation
import Calculator.Proofs.Evaluation.Recursive
import Calculator.Proofs.Grammar.Unlimited
import Calculator.Proofs.Registry.Extensions
import Calculator.Proofs.Results

/-!
# Errors that cannot be told

Limits are integers of any size, and one with too many digits is not written. An error that names
such a limit cannot be told. No other error of reading is so (`diagnostic_eq_error_iff_of_parse`),
and no other error of evaluation as long as the arities of all functions can be written
(`diagnostic_eq_error_iff_of_evaluate`), which is the case for the built-in ones.
-/

set_option autoImplicit false

namespace Calculator

variable {host : Host} {registry : Registry}

theorem writeInt_eq_error_iff {n : Int} {fault : Fault} :
    writeInt n = .error fault ↔ fault = .unwritable ∧ isTooLong n = true := by
  unfold writeInt
  split
  · next h => simp [h, eq_comm]
  · next h => simp [h]

/-! ## Errors of reading -/

/-- The stage of a parse error. -/
def ParseError.stage : ParseError → Stage
  | .lexical _ => .lexical
  | _ => .grammar

section Reading

variable {settings : Settings} {source : String} {cause : ParseError} {fault : Fault}

/-- An error that is told is told by its stage. -/
theorem ParseError.stage_of_diagnostic {d : Diagnostic} (h : cause.diagnostic source = .ok d) :
    d.stage = cause.stage := by
  cases cause with
  | lexical fault =>
      cases h
      rfl
  | grammar fault =>
      obtain ⟨text, -, htext⟩ := bind_eq_ok_iff.mp h
      cases htext
      rfl
  | tooDeep limit =>
      obtain ⟨text, -, htext⟩ := bind_eq_ok_iff.mp h
      cases htext
      rfl

/-- Only the wording of a limit can fail. -/
theorem ParseError.diagnostic_eq_error_iff :
    cause.diagnostic source = .error fault ↔
      fault = .unwritable ∧ ∃ limit, cause.namedLimit? = some limit ∧ isTooLong limit = true := by
  rcases cause with fault' | ⟨cause, pos⟩ | limit
  · simp [diagnostic, namedLimit?]
  · cases cause with
    | tooNested limit =>
        simp [diagnostic, GrammarError.message, namedLimit?, bind_eq_error_iff,
          writeInt_eq_error_iff, pure, Except.pure]
    | _ =>
        simp [diagnostic, GrammarError.message, namedLimit?, bind, Except.bind, pure, Except.pure]
  · simp [diagnostic, namedLimit?, bind_eq_error_iff, writeInt_eq_error_iff, pure, Except.pure]

/-- It is the limit of the settings that an error of reading names. -/
theorem namedLimit?_of_parse (h : parse host registry settings source = .error cause)
    (hnesting : cause.isNesting = true) : cause.namedLimit? = some settings.nestingLimit := by
  rcases parse_eq_or host registry settings source with ⟨other, hother, hlimit⟩ | hread
  · cases h.symm.trans hother
    exact hlimit
  · rw [h] at hread
    rw [Scan.isNesting_of_read_eq_error hread.symm] at hnesting
    cases hnesting

/-- A refusal of a source cannot be told exactly when it is one for nesting, under a limit that
cannot be written. -/
theorem diagnostic_eq_error_iff_of_parse
    (h : parse host registry settings source = .error cause) :
    cause.diagnostic source = .error fault ↔
      fault = .unwritable ∧ cause.isNesting = true ∧ isTooLong settings.nestingLimit = true := by
  rw [ParseError.diagnostic_eq_error_iff]
  refine and_congr_right fun _ => ⟨?_, fun ⟨hnesting, hlong⟩ => ?_⟩
  · rintro ⟨limit, hlimit, hlong⟩
    have hnesting : cause.isNesting = true := by rw [cause.isNesting_eq, hlimit]; rfl
    cases hlimit.symm.trans (namedLimit?_of_parse h hnesting)
    exact ⟨hnesting, hlong⟩
  · exact ⟨_, namedLimit?_of_parse h hnesting, hlong⟩

end Reading

/-! ## Errors of evaluation -/

/-- The limit that a refusal for depth names. -/
def EvalError.namedLimit? : EvalError → Option Int
  | .tooDeep limit => some limit
  | .beyondCapacity limit => some limit
  | _ => none

/-- Both ends of an arity can be written. -/
def Arity.IsWritable (a : Arity) : Prop := isTooLong a.least = false ∧ isTooLong a.most = false

theorem Arity.IsWritable.exists_refusal {a : Arity} (h : a.IsWritable) (name : String)
    (given : Int) : ∃ text, a.refusal name given = .ok text := by
  simp only [refusal, expectation, writeInt_of_not_isTooLong h.1, writeInt_of_not_isTooLong h.2]
  split <;> exact ⟨_, rfl⟩

theorem Registry.IsExtension.isWritable (h : registry.IsExtension) :
    ∀ f ∈ registry.functions, f.arity.IsWritable := by
  have hshort : isTooLong 1 = false ∧ isTooLong 2 = false := by decide +kernel
  rw [h.functions_eq]
  simp [Builtin.functions, Arity.IsWritable, hshort]

/-- An error with which a run under this limit can stop: it is told, or it is a refusal for
depth. -/
def EvalError.IsToldUnder (limit : Int) (cause : EvalError) : Prop :=
  cause = .tooDeep limit ∨ cause.namedLimit? = none ∧ ∃ text, cause.message = .ok text

namespace Run

variable {α β : Type} {limit : Int}

/-- The errors of a run are told, apart from refusals for depth under this limit. -/
def IsTold (limit : Int) (r : Run α) : Prop :=
  ∀ cause, r.result = .error (.error cause) → cause.IsToldUnder limit

theorem isTold_pure (a : α) : (Run.pure a).IsTold limit := fun _ h => by cases h

theorem isTold_error {cause : EvalError} (h : cause.IsToldUnder limit) :
    (error cause : Run α).IsTold limit := by
  intro other hother
  cases hother
  exact h

theorem IsTold.bind {r : Run α} {f : α → Run β} (hr : r.IsTold limit)
    (hf : ∀ a, (f a).IsTold limit) : (r.bind f).IsTold limit := by
  obtain ⟨result, calls⟩ := r
  cases result with
  | error failure => exact fun cause h => hr cause (by cases h; rfl)
  | ok a => exact hf a

end Run

section Evaluation

variable {limit : Int}

theorem isTold_checkDepth (limit depth : Int) : (checkDepth limit depth).IsTold limit := by
  unfold checkDepth
  split
  · exact Run.isTold_error (Or.inl rfl)
  · exact Run.isTold_pure ()

theorem isTold_constantValue (name : String) :
    (⟨constantValue registry name, []⟩ : Run Float).IsTold limit := by
  rw [constantValue_eq]
  split
  · exact Run.isTold_pure _
  · exact Run.isTold_error (Or.inr ⟨rfl, _, rfl⟩)

theorem isTold_applyUnary (op : UnaryOp) (value : Float) :
    (⟨applyUnary op value, []⟩ : Run Float).IsTold limit := by
  cases op with
  | other symbol => exact Run.isTold_error (Or.inr ⟨rfl, _, rfl⟩)
  | _ => exact Run.isTold_pure _

theorem isTold_applyBinary (op : BinaryOp) (left right : Float) :
    (⟨applyBinary host op left right, []⟩ : Run Float).IsTold limit := by
  cases op with
  | other symbol => exact Run.isTold_error (Or.inr ⟨rfl, _, rfl⟩)
  | div =>
      rw [applyBinary_div]
      split
      · exact Run.isTold_error (Or.inr ⟨rfl, _, rfl⟩)
      · exact Run.isTold_pure _
  | _ => exact Run.isTold_pure _

/-- The refusal of a number of arguments is told with the arity. -/
theorem isTold_callFunction (hwritable : ∀ f ∈ registry.functions, f.arity.IsWritable)
    (name : String) (arguments : List Float) :
    (callFunction host registry name arguments).IsTold limit := by
  rw [callFunction_eq]
  split
  · exact Run.isTold_error (Or.inr ⟨rfl, _, rfl⟩)
  · next f hf =>
      split
      · intro cause hcause
        unfold Function.value at hcause
        split at hcause
        · cases hcause
        · cases hcause
          exact Or.inr ⟨rfl, _, rfl⟩
        · cases hcause
      · have harity := hwritable f (List.mem_of_find?_eq_some hf)
        exact Run.isTold_error (Or.inr ⟨rfl, harity.exists_refusal name arguments.length⟩)

theorem isKeptByEvaluation_isTold (hwritable : ∀ f ∈ registry.functions, f.arity.IsWritable) (limit : Int) :
    IsKeptByEvaluation host registry limit fun _ r => r.IsTold limit where
  pure := Run.isTold_pure
  bind hr hf := hr.bind hf
  depth := isTold_checkDepth limit
  constant := isTold_constantValue
  unary := isTold_applyUnary
  binary := isTold_applyBinary
  call := isTold_callFunction hwritable

/-- An error of an evaluation is told, or it is a refusal for depth that names the limit. -/
theorem namedLimit?_or_told (hwritable : ∀ f ∈ registry.functions, f.arity.IsWritable)
    {e : Expr} {cause : EvalError}
    (h : (evaluate host registry limit e).result = .error (.error cause)) :
    cause.namedLimit? = some limit ∨
      cause.namedLimit? = none ∧ ∃ text, cause.message = .ok text := by
  rw [evaluate_eq_ite] at h
  split at h
  · rcases (isKeptByEvaluation_isTold hwritable limit).evaluatePlainly e 1 cause h with rfl | htold
    · exact Or.inl rfl
    · exact Or.inr htold
  · have htold : (evaluatePlainly host registry host.depth 1 e).IsTold host.depth :=
      (isKeptByEvaluation_isTold hwritable host.depth).evaluatePlainly e 1
    cases hresult : (evaluatePlainly host registry host.depth 1 e).result with
    | ok value =>
        rw [Run.mapFailure, hresult] at h
        cases h
    | error failure =>
        rw [Run.mapFailure, hresult] at h
        have hfailure : failure.beyondCapacity limit = .error cause := Except.error.inj h
        unfold EvalFailure.beyondCapacity at hfailure
        split at hfailure
        · -- a refusal for the capacity has become one that names the limit
          cases hfailure
          exact Or.inl rfl
        · next hother =>
            subst hfailure
            rcases htold cause hresult with rfl | htold
            · exact absurd rfl (hother host.depth)
            · exact Or.inr htold

/-- An error of an evaluation cannot be told exactly when it is a refusal for depth, under a limit
that cannot be written. -/
theorem diagnostic_eq_error_iff_of_evaluate
    (hwritable : ∀ f ∈ registry.functions, f.arity.IsWritable) {e : Expr} {cause : EvalError}
    {fault : Fault} (h : (evaluate host registry limit e).result = .error (.error cause)) :
    cause.diagnostic = .error fault ↔
      fault = .unwritable ∧ cause.namedLimit?.isSome = true ∧ isTooLong limit = true := by
  have hmessage : cause.diagnostic = .error fault ↔ cause.message = .error fault := by
    unfold EvalError.diagnostic
    cases cause.message <;> simp [bind, Except.bind, pure, Except.pure]
  rw [hmessage]
  rcases namedLimit?_or_told hwritable h with hlimit | ⟨hnone, text, htext⟩
  · rw [hlimit]
    cases cause with
    | tooDeep n | beyondCapacity n =>
        cases hlimit
        simp [EvalError.message, bind_eq_error_iff, writeInt_eq_error_iff, pure, Except.pure]
    | _ => cases hlimit
  · rw [hnone, htext]
    simp

/-- An error that is told is told by the stage of evaluation. -/
theorem EvalError.stage_of_diagnostic {cause : EvalError} {d : Diagnostic}
    (h : cause.diagnostic = .ok d) : d.stage = .evaluation := by
  obtain ⟨text, -, htext⟩ := bind_eq_ok_iff.mp h
  cases htext
  rfl

end Evaluation

end Calculator
