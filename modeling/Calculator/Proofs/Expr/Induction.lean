import Calculator.Expr.Basic

/-!
# Induction over expression trees

A call holds a list of trees; the hypothesis for it is one for each argument.
-/

set_option autoImplicit false

namespace Calculator

/-- Induction over trees, with a hypothesis for each argument of a call. -/
@[elab_as_elim]
theorem Expr.induct {motive : Expr → Prop} (number : ∀ value, motive (.number value))
    (constant : ∀ name, motive (.constant name))
    (binary : ∀ op left right, motive left → motive right → motive (.binary op left right))
    (unary : ∀ op operand, motive operand → motive (.unary op operand))
    (call : ∀ name arguments, (∀ a ∈ arguments, motive a) → motive (.call name arguments))
    (e : Expr) : motive e := by
  refine Expr.rec (motive_1 := motive) (motive_2 := fun es => ∀ a ∈ es, motive a)
    number constant binary unary call ?_ ?_ e
  · intro a ha
    cases ha
  · intro first rest hfirst hrest a ha
    rcases List.mem_cons.mp ha with rfl | ha
    · exact hfirst
    · exact hrest a ha

end Calculator
