import Calculator.Proofs.Evaluation.Recursive

/-!
# Calls and their answers

A run keeps the calls that were made, and what a function answers to a call is known from the call
alone (`Call.answer?`). In every evaluation each call but the last one was answered with a value.
The last one was too, or its failure is the failure of the run (`IsAnswered`). This is kept when one
run follows another, so that it holds of every tree (`isAnswered_evaluate`). Only functions raise
faults: whatever else can fault is asked for what it has alone, so that a run which ends with a fault
ends with a call that does.
-/

set_option autoImplicit false

namespace Calculator

variable {host : Host}

/-- What the function of a call answers, if there is one of this name that takes so many
arguments. -/
def Call.answer? (host : Host) (registry : Registry) (call : Call) :
    Option (Except EvalFailure Float) :=
  ((registry.function? call.name).filter (·.arity.accepts call.arguments.length)).map
    fun f => f.value host call.arguments

theorem Call.answer?_eq_some_iff {registry : Registry} {call : Call}
    {answer : Except EvalFailure Float} :
    call.answer? host registry = some answer ↔
      ∃ f, registry.function? call.name = some f ∧
        f.arity.accepts call.arguments.length = true ∧ f.value host call.arguments = answer := by
  simp only [answer?, Option.map_eq_some_iff, Option.filter_eq_some_iff, and_assoc]

/-- The call has been answered with a value. -/
def Call.HasValue (host : Host) (registry : Registry) (call : Call) : Prop :=
  ∃ value, call.answer? host registry = some (.ok value)

/-- No function finds a tree too deep. -/
theorem Function.value_ne_tooDeep (f : Function) (arguments : List Float) (limit : Int) :
    f.value host arguments ≠ .error (.error (.tooDeep limit)) := by
  unfold value
  split <;> simp

theorem Function.value_eq_raised_iff {f : Function} {arguments : List Float} {fault : Fault} :
    f.value host arguments = .error (.raised fault) ↔
      f.apply host arguments = .error (.raised fault) := by
  unfold value
  constructor
  · intro h
    split at h
    · cases h
    · cases h
    · next happly =>
        cases h
        exact happly
  · intro h
    rw [h]

namespace Run

variable {α β : Type} {registry : Registry}

/-- Every call was answered with a value, or the last one was not and the run failed with it. -/
inductive IsAnswered (host : Host) (registry : Registry) (r : Run α) : Prop
  | values : (∀ call ∈ r.calls, call.HasValue host registry) →
      (∀ fault, r.result ≠ .error (.raised fault)) → IsAnswered host registry r
  | failure {before : List Call} {call : Call} {failure : EvalFailure} :
      r.calls = before ++ [call] → (∀ c ∈ before, c.HasValue host registry) →
      call.answer? host registry = some (.error failure) → r.result = .error failure →
      IsAnswered host registry r

/-- Where nothing is called, no fault is raised. -/
theorem isAnswered_of_no_call {result : Except EvalFailure α}
    (h : ∀ fault, result ≠ .error (.raised fault)) : IsAnswered host registry ⟨result, []⟩ :=
  .values (by simp) h

theorem isAnswered_pure (a : α) : (Run.pure a).IsAnswered host registry :=
  isAnswered_of_no_call (by simp)

theorem IsAnswered.bind {r : Run α} {f : α → Run β} (hr : r.IsAnswered host registry)
    (hf : ∀ a, (f a).IsAnswered host registry) : (r.bind f).IsAnswered host registry := by
  obtain ⟨result, calls⟩ := r
  cases hr with
  | values hcalls hresult =>
      cases result with
      | error e =>
          -- the first run failed without a call to blame, and nothing follows it
          refine .values hcalls fun fault h => hresult fault ?_
          exact congrArg Except.error (Except.error.inj h)
      | ok a =>
          -- the calls of the second run follow those of the first, which were answered with values
          cases hf a with
          | values hcalls' hresult' =>
              refine .values (fun call hcall => ?_) hresult'
              rcases List.mem_append.mp hcall with hcall | hcall
              · exact hcalls call hcall
              · exact hcalls' call hcall
          | @failure before call failure hlast hbefore hanswer hresult' =>
              have hlast' : calls ++ (f a).calls = (calls ++ before) ++ [call] := by
                rw [hlast, List.append_assoc]
              refine .failure hlast' (fun c hc => ?_) hanswer hresult'
              rcases List.mem_append.mp hc with hc | hc
              · exact hcalls c hc
              · exact hbefore c hc
  | failure hlast hbefore hanswer hresult =>
      cases hresult
      exact .failure hlast hbefore hanswer rfl

/-- Every call that was made has an answer. -/
theorem IsAnswered.exists_answer {r : Run α} (h : r.IsAnswered host registry) {call : Call}
    (hcall : call ∈ r.calls) : ∃ answer, call.answer? host registry = some answer := by
  cases h with
  | values hcalls _ =>
      obtain ⟨value, hvalue⟩ := hcalls call hcall
      exact ⟨_, hvalue⟩
  | failure hlast hbefore hanswer _ =>
      rw [hlast] at hcall
      rcases List.mem_append.mp hcall with hcall | hcall
      · obtain ⟨value, hvalue⟩ := hbefore call hcall
        exact ⟨_, hvalue⟩
      · rw [List.mem_singleton.mp hcall]
        exact ⟨_, hanswer⟩

/-- A run that ended with a fault ended with the call that raised it. -/
theorem IsAnswered.raised_iff {r : Run α} (h : r.IsAnswered host registry) {fault : Fault} :
    r.result = .error (.raised fault) ↔
      ∃ before call, r.calls = before ++ [call] ∧
        call.answer? host registry = some (.error (.raised fault)) := by
  cases h with
  | values hcalls hresult =>
      constructor
      · intro hraised
        exact absurd hraised (hresult fault)
      · rintro ⟨before, call, hlast, hanswer⟩
        obtain ⟨value, hvalue⟩ := hcalls call (by simp [hlast])
        cases hvalue.symm.trans hanswer
  | @failure before call failure hlast _ hanswer hresult =>
      constructor
      · intro hraised
        obtain rfl : failure = .raised fault := Except.error.inj (hresult.symm.trans hraised)
        exact ⟨before, call, hlast, hanswer⟩
      · rintro ⟨other, last, hlast', hanswer'⟩
        obtain ⟨-, rfl⟩ := List.append_singleton_inj.mp (hlast.symm.trans hlast')
        cases hanswer.symm.trans hanswer'
        exact hresult

end Run

/-! ## The parts of an evaluation -/

variable (host) (registry : Registry)

theorem isAnswered_checkDepth (limit depth : Int) :
    (checkDepth limit depth).IsAnswered host registry := by
  unfold checkDepth
  split
  · exact Run.isAnswered_of_no_call (by simp)
  · exact Run.isAnswered_pure ()

theorem isAnswered_constantValue (name : String) :
    (⟨constantValue registry name, []⟩ : Run Float).IsAnswered host registry := by
  refine Run.isAnswered_of_no_call ?_
  rw [constantValue_eq]
  split <;> simp

theorem isAnswered_applyUnary (op : UnaryOp) (value : Float) :
    (⟨applyUnary op value, []⟩ : Run Float).IsAnswered host registry := by
  refine Run.isAnswered_of_no_call ?_
  cases op <;> simp [applyUnary]

theorem isAnswered_applyBinary (op : BinaryOp) (left right : Float) :
    (⟨applyBinary host op left right, []⟩ : Run Float).IsAnswered host registry := by
  refine Run.isAnswered_of_no_call ?_
  cases op with
  | div =>
      rw [applyBinary_div]
      split <;> simp
  | _ => simp [applyBinary]

/-- A call that is made is answered by its function. -/
theorem isAnswered_callFunction (name : String) (arguments : List Float) :
    (callFunction host registry name arguments).IsAnswered host registry := by
  rw [callFunction_eq]
  split
  · exact Run.isAnswered_of_no_call (by simp)
  · next f hf =>
      split
      · next haccepts =>
        have hanswer : (Call.mk name arguments).answer? host registry =
            some (f.value host arguments) :=
          Call.answer?_eq_some_iff.mpr ⟨f, hf, haccepts, rfl⟩
        cases hvalue : f.value host arguments with
        | ok value =>
            refine .values (fun call hcall => ?_) (by simp)
            rw [List.mem_singleton.mp hcall]
            exact ⟨value, by rw [hanswer, hvalue]⟩
        | error failure =>
            have hlast : [Call.mk name arguments] = [] ++ [Call.mk name arguments] := rfl
            exact .failure hlast (by simp) (by rw [hanswer, hvalue]) rfl
      · exact Run.isAnswered_of_no_call (by simp)

/-! ## Trees -/

theorem isKeptByEvaluation_isAnswered (limit : Int) :
    IsKeptByEvaluation host registry limit fun _ r => r.IsAnswered host registry where
  pure := Run.isAnswered_pure
  bind hr hf := hr.bind hf
  depth := isAnswered_checkDepth host registry limit
  constant := isAnswered_constantValue host registry
  unary := isAnswered_applyUnary host registry
  binary := isAnswered_applyBinary host registry
  call := isAnswered_callFunction host registry

theorem isAnswered_evaluatePlainly (limit : Int) (e : Expr) (depth : Int) :
    (evaluatePlainly host registry limit depth e).IsAnswered host registry :=
  (isKeptByEvaluation_isAnswered host registry limit).evaluatePlainly e depth

/-- Other words for a depth that is beyond the capacity change no answer. -/
theorem Run.IsAnswered.beyondCapacity {host : Host} {registry : Registry} {r : Run Float}
    (h : r.IsAnswered host registry) (limit : Int) :
    (r.mapFailure (EvalFailure.beyondCapacity limit)).IsAnswered host registry := by
  obtain ⟨result, calls⟩ := r
  cases h with
  | values hcalls hresult =>
      -- a failure with other words was one for depth, and raised no fault
      refine .values hcalls fun fault hraised => hresult fault ?_
      cases result with
      | ok value => cases hraised
      | error failure =>
          have hfailure : failure.beyondCapacity limit = .raised fault :=
            Except.error.inj hraised
          unfold EvalFailure.beyondCapacity at hfailure
          split at hfailure
          · cases hfailure
          · exact congrArg Except.error hfailure
  | @failure before call failure hlast hbefore hanswer hresult =>
      refine .failure hlast hbefore hanswer ?_
      obtain rfl : result = .error failure := hresult
      obtain ⟨f, -, -, hvalue⟩ := Call.answer?_eq_some_iff.mp hanswer
      show Except.error (failure.beyondCapacity limit) = .error failure
      unfold EvalFailure.beyondCapacity
      split
      · exact absurd hvalue (f.value_ne_tooDeep call.arguments _)
      · rfl

/-- Whatever is evaluated, its calls were answered with values, or the last one was not and the
evaluation failed with it. -/
theorem isAnswered_evaluate (limit : Int) (e : Expr) :
    (evaluate host registry limit e).IsAnswered host registry := by
  rw [evaluate_eq_ite]
  split
  · exact isAnswered_evaluatePlainly host registry limit e 1
  · exact (isAnswered_evaluatePlainly host registry host.depth e 1).beyondCapacity limit

end Calculator
