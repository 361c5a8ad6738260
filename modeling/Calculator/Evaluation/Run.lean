import Calculator.Registry.Function

/-!
# Runs

Evaluating an expression gives a result, and on the way calls functions. A `Run` is the result
together with the calls that were made, in order. Runs are put together by `bind`: the calls of the
second part follow those of the first, and nothing follows a failure.
-/

set_option autoImplicit false

namespace Calculator

/-- Why an expression has no value. -/
inductive EvalError where
  | tooDeep (limit : Int)
  /-- Deeper than can be followed, under a limit that admits it. -/
  | beyondCapacity (limit : Int)
  | unknownConstant (name : String)
  | unknownFunction (name : String)
  | unknownBinary (symbol : String)
  | unknownUnary (symbol : String)
  | divisionByZero
  | arity (name : String) (given : Int) (accepted : Arity)
  | domain (name : String) (cause : DomainFault)

/-- The wording of an evaluation error. A limit can have too many digits to be written. -/
def EvalError.message : EvalError → Except Fault String
  | .tooDeep limit => do return "Expression exceeds maximum depth of " ++ (← writeInt limit)
  | .beyondCapacity limit => do
      return "Expression nested too deeply to evaluate (limit " ++ (← writeInt limit) ++ ")"
  | .unknownConstant name => .ok ("Unknown constant: " ++ name)
  | .unknownFunction name => .ok ("Unknown function: " ++ name ++ "()")
  | .unknownBinary symbol => .ok ("Unknown binary op: " ++ symbol)
  | .unknownUnary symbol => .ok ("Unknown unary op: " ++ symbol)
  | .divisionByZero => .ok "Division by zero"
  | .arity name given accepted => accepted.refusal name given
  | .domain name cause => .ok (name ++ "(): " ++ cause.message)

/-- Why an evaluation stops without a value: an error in the expression, or a fault of an operation,
which is not reported as an error in the expression. -/
inductive EvalFailure where
  | error (cause : EvalError)
  | raised (fault : Fault)

/-- A function called with arguments. -/
structure Call where
  name : String
  arguments : List Float
deriving DecidableEq

/-- A result, and the calls made on the way to it. -/
structure Run (α : Type) where
  result : Except EvalFailure α
  calls : List Call

namespace Run

variable {α β : Type}

/-- A value that needs no call. -/
protected def pure (a : α) : Run α := ⟨.ok a, []⟩

/-- A failure that needs no call. -/
def fail (e : EvalFailure) : Run α := ⟨.error e, []⟩

/-- An error in the expression. -/
def error (e : EvalError) : Run α := fail (.error e)

/-- One run after another. -/
protected def bind (r : Run α) (f : α → Run β) : Run β :=
  match r.result with
  | .ok a => ⟨(f a).result, r.calls ++ (f a).calls⟩
  | .error e => ⟨.error e, r.calls⟩

instance : Monad Run where
  pure := Run.pure
  bind := Run.bind

@[simp] theorem pure_bind (a : α) (f : α → Run β) : (Run.pure a).bind f = f a := by
  simp [Run.bind, Run.pure]

@[simp] theorem fail_bind (e : EvalFailure) (f : α → Run β) : (fail e).bind f = fail e := rfl

/-- The failure of a run in other words. -/
def mapFailure (f : EvalFailure → EvalFailure) (r : Run α) : Run α :=
  ⟨r.result.mapError f, r.calls⟩

end Run

end Calculator
