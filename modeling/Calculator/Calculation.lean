import Calculator.Evaluation.Basic
import Calculator.Expr.Parser
import Calculator.Log

/-!
# Calculations

A calculation reads a source and evaluates what it has read. Its outcome is a value or a failure of
one stage, with the function calls that were made and the log that was kept.
-/

set_option autoImplicit false

namespace Calculator

/-! ## Failures -/

/-- Why a calculation has no value. -/
inductive Failure where
  | parse (cause : ParseError)
  | evaluation (cause : EvalError)
  /-- A fault of an operation, which no stage reports. -/
  | raised (fault : Fault)

/-- The failure of an evaluation. -/
def Failure.ofEvaluation : EvalFailure → Failure
  | .error cause => .evaluation cause
  | .raised fault => .raised fault

/-- A parse error as it is told to a user. -/
def ParseError.diagnostic (source : String) : ParseError → Except Fault Diagnostic
  | .lexical fault => .ok ⟨.lexical, fault.cause.message, some ⟨source, fault.pos⟩⟩
  | .grammar fault => do return ⟨.grammar, ← fault.cause.message, some ⟨source, fault.pos⟩⟩
  | .tooDeep limit => do
      let written ← writeInt limit
      return ⟨.grammar, "Expression nested too deeply to parse (limit " ++ written ++ ")", none⟩

/-- An evaluation error as it is told to a user. -/
def EvalError.diagnostic (cause : EvalError) : Except Fault Diagnostic := do
  return ⟨.evaluation, ← cause.message, none⟩

/-- A failure as the stage that reports it tells it to a user. If none does, or if it cannot be
worded, a fault is all there is. -/
def Failure.diagnostic (source : String) : Failure → Except Fault Diagnostic
  | .parse cause => cause.diagnostic source
  | .evaluation cause => cause.diagnostic
  | .raised fault => .error fault

/-! ## The log -/

/-- How a calculation ended, in a log. A failure that no stage reports is not logged. -/
def endEntry (source : String) : Except Failure Float → List LogEntry
  | .ok value => [⟨.debug, quoted source ++ " = " ++ floatText value⟩]
  | .error failure =>
      match failure.diagnostic source with
      | .ok d =>
          [⟨.debug, "Evaluation of " ++ quoted source ++ " failed (" ++ d.stage.word ++ "): " ++
            d.message⟩]
      | .error _ => []

/-! ## Outcomes -/

/-- Read a source and evaluate it: the value or the failure, and the calls that were made. -/
def calculate (host : Host) (registry : Registry) (settings : Settings) (source : String) :
    Except Failure Float × List Call :=
  match parse host registry settings source with
  | .error cause => (.error (.parse cause), [])
  | .ok e =>
      let run := evaluate host registry settings.depthLimit e
      (run.result.mapError Failure.ofEvaluation, run.calls)

/-- The log of a calculation. -/
def calculationLog (host : Host) (registry : Registry) (settings : Settings) (source : String) :
    List LogEntry :=
  ⟨.debug, "Evaluating " ++ quoted source⟩ ::
    endEntry source (calculate host registry settings source).1

end Calculator
