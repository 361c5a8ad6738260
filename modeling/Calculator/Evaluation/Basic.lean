import Calculator.Evaluation.Run
import Calculator.Expr.Basic
import Calculator.Registry.Basic

/-!
# Evaluation

Operands are evaluated before the operation, from left to right, and the first failure ends the
evaluation. A chain of binary operators is followed along its left operands without counting as
depth: `evaluateAt` collects the right operands on the way down and applies them on the way back.
-/

set_option autoImplicit false

namespace Calculator

/-! ## Single operations -/

/-- A fault that nothing catches. -/
def raising {α : Type} (result : Except Fault α) : Except EvalFailure α :=
  result.mapError .raised

/-- A binary operation. A division by zero is refused before it is tried. -/
def applyBinary (host : Host) (op : BinaryOp) (left right : Float) : Except EvalFailure Float :=
  match op with
  | .add => .ok (left + right)
  | .sub => .ok (left - right)
  | .mul => .ok (left * right)
  | .div =>
      if Double.isZero right then .error (.error .divisionByZero)
      else raising (divide left right)
  | .pow => .ok (host.power left right)
  | .other symbol => .error (.error (.unknownBinary symbol))

/-- What is divided after that is divided. -/
theorem applyBinary_div (host : Host) (left right : Float) :
    applyBinary host .div left right =
      if Double.isZero right then .error (.error .divisionByZero) else .ok (left / right) := by
  simp only [applyBinary, divide]
  cases Double.isZero right <;> rfl

/-- A sign. -/
def applyUnary (op : UnaryOp) (operand : Float) : Except EvalFailure Float :=
  match op with
  | .pos => .ok operand
  | .neg => .ok (-operand)
  | .other symbol => .error (.error (.unknownUnary symbol))

/-- The value of a constant. -/
def constantValue (registry : Registry) (name : String) : Except EvalFailure Float :=
  if registry.isConstant name then raising (registry.constantNamed name)
  else .error (.error (.unknownConstant name))

/-- A name that is known to be a constant has a value. -/
theorem constantValue_eq (registry : Registry) (name : String) :
    constantValue registry name =
      match registry.constant? name with
      | some value => .ok value
      | none => .error (.error (.unknownConstant name)) := by
  rw [constantValue, Registry.constantNamed, ← registry.isSome_constant?]
  cases registry.constant? name <;> rfl

/-- The value of a function, of which it is known that the arguments suit its arity. -/
def Function.value (host : Host) (f : Function) (arguments : List Float) :
    Except EvalFailure Float :=
  match f.apply host arguments with
  | .ok value => .ok value
  | .error (.domain cause) => .error (.error (.domain f.name cause))
  | .error (.raised fault) => .error (.raised fault)

/-- A call: the name and the number of arguments are checked before the function is called. -/
def callFunction (host : Host) (registry : Registry) (name : String) (arguments : List Float) :
    Run Float :=
  if registry.isFunction name then
    match registry.functionNamed name with
    | .ok f =>
        if f.arity.accepts arguments.length then ⟨f.value host arguments, [⟨name, arguments⟩]⟩
        else .error (.arity name arguments.length f.arity)
    | .error fault => .fail (.raised fault)
  else .error (.unknownFunction name)

/-- Under a name that is known to be a function there is one. -/
theorem callFunction_eq (host : Host) (registry : Registry) (name : String)
    (arguments : List Float) :
    callFunction host registry name arguments =
      match registry.function? name with
      | none => .error (.unknownFunction name)
      | some f =>
          if f.arity.accepts arguments.length then ⟨f.value host arguments, [⟨name, arguments⟩]⟩
          else .error (.arity name arguments.length f.arity) := by
  rw [callFunction, Registry.functionNamed, ← registry.isSome_function?]
  cases registry.function? name <;> rfl

/-- A node at this depth may be entered. -/
def checkDepth (limit depth : Int) : Run Unit :=
  if limit < depth then .error (.tooDeep limit) else .pure ()

/-! ## Chains -/

/-- An operator of a chain, with its right operand still to be evaluated. -/
structure Link where
  op : BinaryOp
  right : Unit → Run Float

/-- Continue a chain from the value of its first operand. -/
def Link.applyAll (host : Host) (chain : List Link) (value : Float) : Run Float :=
  chain.foldl
    (fun left link => left.bind fun left => (link.right ()).bind fun right =>
      ⟨applyBinary host link.op left right, []⟩)
    (.pure value)

/-! ## Trees -/

mutual

/-- Evaluate a tree and continue with the chain on whose left end it stands. Inside a chain a binary
operator is part of the chain; on its own it is a node like any other, one level above its
operands. -/
def evaluateAt (host : Host) (registry : Registry) (limit depth : Int) (chain : List Link) :
    Expr → Run Float
  | .number value =>
      (checkDepth limit depth).bind fun _ => Link.applyAll host chain value
  | .constant name =>
      (checkDepth limit depth).bind fun _ =>
        (⟨constantValue registry name, []⟩ : Run Float).bind (Link.applyAll host chain)
  | .unary op operand =>
      (checkDepth limit depth).bind fun _ =>
        (evaluateAt host registry limit (depth + 1) [] operand).bind fun value =>
          (⟨applyUnary op value, []⟩ : Run Float).bind (Link.applyAll host chain)
  | .call name arguments =>
      (checkDepth limit depth).bind fun _ =>
        (evaluateList host registry limit (depth + 1) arguments).bind fun values =>
          (callFunction host registry name values).bind (Link.applyAll host chain)
  | .binary op left right =>
      match chain with
      -- the top of a chain is entered; what hangs on the chain is one level below it
      | [] =>
          (checkDepth limit depth).bind fun _ =>
            evaluateAt host registry limit (depth + 1)
              [⟨op, fun _ => evaluateAt host registry limit (depth + 1) [] right⟩] left
      -- further operators of the chain add no depth
      | _ :: _ =>
          evaluateAt host registry limit depth
            (⟨op, fun _ => evaluateAt host registry limit depth [] right⟩ :: chain) left

/-- Evaluate trees from left to right. -/
def evaluateList (host : Host) (registry : Registry) (limit depth : Int) :
    List Expr → Run (List Float)
  | [] => .pure []
  | e :: rest =>
      (evaluateAt host registry limit depth [] e).bind fun value =>
        (evaluateList host registry limit depth rest).bind fun values => .pure (value :: values)

end

/-- A depth error under the depth that the host can follow, which stands in for a limit beyond
it. -/
def EvalFailure.beyondCapacity (limit : Int) : EvalFailure → EvalFailure
  | .error (.tooDeep _) => .error (.beyondCapacity limit)
  | e => e

/-- Evaluate a tree whose root has depth one. -/
def evaluate (host : Host) (registry : Registry) (limit : Int) (e : Expr) : Run Float :=
  if limit ≤ host.depth then evaluateAt host registry limit 1 [] e
  else (evaluateAt host registry host.depth 1 [] e).mapFailure (EvalFailure.beyondCapacity limit)

end Calculator
