import Calculator.Proofs.Expr.Lexemes
import Calculator.Proofs.Grammar.Nested

/-!
# Levels of printed expressions

The lexemes of a printable tree are a factor with that tree, in both grammars, and reading them
opens as many levels as the tree is nested (`IsPrintable.nests`): one for a sign, for the parentheses
of a call and for those around a binary operation, and one more for the right operand of a power
with a tier of its own.
-/

set_option autoImplicit false

namespace Calculator

/-- Whether the right operand of an operation has a level of its own. -/
def BinaryOp.nestsRight (conventional : Bool) (op : BinaryOp) : Bool := conventional && op = .pow

namespace Expr

mutual

/-- How many levels are open at once while the text of a tree is read. -/
def nesting (conventional : Bool) : Expr → Nat
  | .number _ => 0
  | .constant _ => 0
  | .binary op left right =>
      1 + max (left.nesting conventional)
        (right.nesting conventional + (op.nestsRight conventional).toNat)
  | .unary _ operand => 1 + operand.nesting conventional
  | .call _ arguments => 1 + listNesting conventional arguments

/-- The largest number of levels of several trees. -/
def listNesting (conventional : Bool) : List Expr → Nat
  | [] => 0
  | e :: rest => max (e.nesting conventional) (listNesting conventional rest)

end

variable {v : Vocabulary} {conventional : Bool}

theorem listNesting_eq (arguments : List Expr) :
    listNesting conventional arguments = mostOf (arguments.map (nesting conventional)) := by
  induction arguments with
  | nil => rfl
  | cons e rest ih => rw [listNesting, ih, List.map_cons, mostOf_cons]

/-- Two factors with an operator between them are an expression. -/
theorem nests_binary {op : BinaryOp} {sign : Operator} (hsign : op.operator? = some sign)
    {m n : Nat} {w u : List Lexeme} {left right : Expr}
    (hleft : Nests conventional m .factor w left)
    (hright : Nests conventional n .factor u right) :
    Nests conventional (max m (n + (op.nestsRight conventional).toNat)) .expression
      (w ++ .operator sign :: u) (.binary op left right) := by
  have hterm := hleft.operand_of_factor.operand
  have hother : op ≠ .pow → op.nestsRight conventional = false := by
    intro hop
    simp [BinaryOp.nestsRight, hop]
  cases op with
  | add =>
      cases hsign
      rw [hother (by simp)]
      exact .sum rfl hterm.term hright.operand_of_factor.operand
  | sub =>
      cases hsign
      rw [hother (by simp)]
      exact .sum rfl hterm.term hright.operand_of_factor.operand
  | mul =>
      cases hsign
      rw [hother (by simp)]
      exact .term (.product rfl hterm hright.operand_of_factor)
  | div =>
      cases hsign
      rw [hother (by simp)]
      exact .term (.product rfl hterm hright.operand_of_factor)
  | pow =>
      cases hsign
      cases conventional with
      | true => exact .term (.operand (.power hleft hright.base))
      | false => exact .term (.product rfl hterm hright)
  | other symbol => cases hsign

/-- What is printed for a sign is read as that sign. -/
theorem sign?_of_operator? {op : UnaryOp} {sign : Operator} (hsign : op.operator? = some sign) :
    sign.sign? = some op := by
  cases op with
  | pos => cases hsign; rfl
  | neg => cases hsign; rfl
  | other symbol => cases hsign

/-- The lexemes of a printable tree are a factor with that tree and the levels of its nesting. -/
theorem IsPrintable.nests {e : Expr} (h : e.IsPrintable v) :
    Nests conventional (e.nesting conventional) .factor e.lexemes e := by
  induction h with
  | number _ => exact .number _ _
  | constant _ _ _ => exact .constant _
  | binary hop _ _ ihleft ihright =>
      obtain ⟨sign, hsign⟩ := Option.isSome_iff_exists.mp hop
      have hgroup := Nests.group (nests_binary hsign ihleft ihright)
      simpa [lexemes, hsign, nesting, Nat.add_comm] using hgroup
  | @unary op operand hop _ ih =>
      obtain ⟨sign, hsign⟩ := Option.isSome_iff_exists.mp hop
      have hfactor := Nests.sign (sign?_of_operator? hsign) ih
      simpa [lexemes, hsign, nesting, Nat.add_comm] using hfactor
  | @call name arguments _ _ _ _ ih =>
      have hall : ∀ a ∈ arguments.map fun a => (a.nesting conventional, a.lexemes, a),
          Nests conventional a.1 .expression a.2.1 a.2.2 := by
        intro a ha
        obtain ⟨b, hb, rfl⟩ := List.mem_map.mp ha
        exact (ih b hb).expression_of_factor
      have hcall := Nests.call name _ hall
      simpa [lexemes, listLexemes_eq, nesting, listNesting_eq, Function.comp_def,
        Nat.add_comm] using hcall

end Expr

end Calculator
