import Mathlib
import Calculator.Proofs.Grammar.Language
import Calculator.Proofs.Number.Patterns
import Calculator.Proofs.Token.Words

/-!
# Trees over a registry

A tree is over a registry when the registry has all its constants and functions, its operators are
the five binary ones and the two signs, and its numbers are what numerals stand for (`Expr.IsOver`).
A tree over a registry is one over every larger registry.

What is read from a source under a registry is over that registry (`isOver_of_parse`). A name
becomes a lexeme only if it is registered, as it was cut (`Word.isOver_of_lexeme`), the grammar
carries lexemes into trees without making up others (`Derives.isOver`), and each of its operators
stands for an operation.
-/

set_option autoImplicit false

namespace Calculator

variable {host : Host}

/-! ## Numbers -/

/-- A number that a numeral can stand for: its sign bit is not set, and it is not missing. -/
def Double.IsUnsigned (value : Float) : Prop :=
  Double.isNegative value = false ∧ Double.ofFloat value ≠ .nan

/-- A decimal is read as a finite magnitude or as infinity. -/
theorem Decimal.bits_le (d : Decimal) : d.bits ≤ Double.infinityBits := by
  unfold bits
  split
  · exact Nat.zero_le _
  · split
    · exact Nat.le_refl _
    · split
      · exact Nat.zero_le _
      · split <;> exact Double.nearestBits_le _ _

theorem Decimal.isUnsigned_toFloat (d : Decimal) : Double.IsUnsigned (d.toFloat false) :=
  ⟨Double.isNegative_withSign false d.bits_le, Double.ofFloat_withSign_ne_nan false d.bits_le⟩

/-! ## Trees -/

/-- The tree uses only what the registry has, the known operators, and numbers of numerals. -/
inductive Expr.IsOver (r : Registry) : Expr → Prop
  | number {value : Float} : Double.IsUnsigned value → IsOver r (.number value)
  | constant {name : String} : r.isConstant name = true → IsOver r (.constant name)
  | unary {op : UnaryOp} {operand : Expr} : op ∈ [UnaryOp.pos, .neg] → IsOver r operand →
      IsOver r (.unary op operand)
  | binary {op : BinaryOp} {left right : Expr} : op ∈ [BinaryOp.add, .sub, .mul, .div, .pow] →
      IsOver r left → IsOver r right → IsOver r (.binary op left right)
  | call {name : String} {arguments : List Expr} : r.isFunction name = true →
      (∀ a ∈ arguments, IsOver r a) → IsOver r (.call name arguments)

/-- What a registry knows, a larger one knows. -/
theorem Expr.IsOver.extend {r larger : Registry} (hlarger : larger.Extends r) {e : Expr}
    (h : e.IsOver r) : e.IsOver larger := by
  induction h with
  | number hvalue => exact .number hvalue
  | constant hname => exact .constant (hlarger.isConstant hname)
  | unary hop _ ih => exact .unary hop ih
  | binary hop _ _ ihl ihr => exact .binary hop ihl ihr
  | call hname _ ih => exact .call (hlarger.isFunction hname) ih

/-! ## Lexemes -/

/-- A lexeme from which the grammar makes parts of trees over the registry. -/
def Lexeme.IsOver (r : Registry) : Lexeme → Prop
  | .number _ value => Double.IsUnsigned value
  | .constant name => r.isConstant name = true
  | .function name => r.isFunction name = true
  | _ => True

/-- The lexeme of a word is over the registry under which it is looked up. -/
theorem Word.isOver_of_lexeme {v : Vocabulary} {w : Word} {l : Lexeme} (h : w.lexeme v = .ok l) :
    l.IsOver v.registry := by
  cases w with
  | number text _ =>
      have hnumeral : Lexeme.ofNumeral text = .ok l := h
      unfold Lexeme.ofNumeral at hnumeral
      split at hnumeral
      · next d _ =>
          cases hnumeral
          exact d.isUnsigned_toFloat
      · cases hnumeral
  | name text _ =>
      rcases Vocabulary.classify_eq_ok_iff.mp h with ⟨hconstant, rfl⟩ | ⟨hfunction, rfl⟩
      · exact hconstant
      · exact hfunction
  | operator _ | leftParen | rightParen | comma =>
      cases h
      trivial

/-- All tokens of a run are over the registry. -/
theorem Cursor.Reads.isOver {v : Vocabulary} {c after : Cursor} {ts : List Token}
    (h : Cursor.Reads v c ts after) : ∀ l ∈ ts.map Token.lexeme, l.IsOver v.registry := by
  induction h with
  | nil c => simp
  | @cons c next after t ts hread _ ih =>
      obtain ⟨p, -, -, -, hlexeme, -⟩ := Cursor.exists_piece hread
      rw [List.map_cons]
      exact List.forall_mem_cons.mpr ⟨Word.isOver_of_lexeme hlexeme, ih⟩

theorem Scan.isOver_lexemes (v : Vocabulary) (source : String) :
    ∀ l ∈ (Scan.ofSource v source).lexemes, l.IsOver v.registry := by
  obtain ⟨after, hreads, -⟩ := Scan.exists_reads v source
  exact hreads.isOver

/-! ## Derivations -/

theorem Operator.mem_of_sign? {op : Operator} {sign : UnaryOp} (h : op.sign? = some sign) :
    sign ∈ [UnaryOp.pos, .neg] := by
  cases op <;> cases h <;> decide

theorem Operator.mem_of_sum? {op : Operator} {operation : BinaryOp} (h : op.sum? = some operation) :
    operation ∈ [BinaryOp.add, .sub, .mul, .div, .pow] := by
  cases op <;> cases h <;> decide

theorem Operator.mem_of_product? {conventional : Bool} {op : Operator} {operation : BinaryOp}
    (h : op.product? conventional = some operation) :
    operation ∈ [BinaryOp.add, .sub, .mul, .div, .pow] := by
  cases op <;> cases conventional <;> cases h <;> decide

/-- The lexemes of an argument are among those of the call. -/
theorem mem_intercalate_of_mem (separator : Lexeme) {phrases : List (List Lexeme)}
    {w : List Lexeme} (hw : w ∈ phrases) {l : Lexeme} (hl : l ∈ w) :
    l ∈ [separator].intercalate phrases := by
  induction phrases with
  | nil => cases hw
  | cons first rest ih =>
      cases rest with
      | nil =>
          rw [List.mem_singleton] at hw
          rwa [List.intercalate_singleton, ← hw]
      | cons second rest =>
          rw [List.intercalate_cons_cons]
          rcases List.mem_cons.mp hw with rfl | hw
          · simp [hl]
          · exact List.mem_append_right _ (ih hw)

/-- The grammar makes trees over a registry from lexemes over it. -/
theorem Derives.isOver {conventional : Bool} {phrase : Phrase} {w : List Lexeme} {e : Expr}
    {r : Registry} (h : Derives conventional phrase w e) (hw : ∀ l ∈ w, l.IsOver r) :
    e.IsOver r := by
  -- every lexeme of a part is one of the whole phrase
  induction h with
  | number text value => exact .number (hw (.number text value) (by simp))
  | constant name => exact .constant (hw (.constant name) (by simp))
  | sign hsign _ ih =>
      exact .unary (Operator.mem_of_sign? hsign) (ih fun l hl => hw l (by simp [hl]))
  | group _ ih => exact ih fun l hl => hw l (by simp [hl])
  | call name arguments _ ih =>
      refine .call (hw (.function name) (by simp)) fun e he => ?_
      -- an argument of the call is the tree of one of its phrases
      obtain ⟨a, ha, rfl⟩ := List.mem_map.mp he
      refine ih a ha fun l hl => hw l ?_
      have hcall := mem_intercalate_of_mem .comma (List.mem_map_of_mem ha) hl
      simp [hcall]
  | base _ ih => exact ih hw
  | operand _ ih => exact ih hw
  | term _ ih => exact ih hw
  | power _ _ ihb ihe =>
      exact .binary (by decide) (ihb fun l hl => hw l (by simp [hl]))
        (ihe fun l hl => hw l (by simp [hl]))
  | product hop _ _ ihl ihr =>
      exact .binary (Operator.mem_of_product? hop) (ihl fun l hl => hw l (by simp [hl]))
        (ihr fun l hl => hw l (by simp [hl]))
  | sum hop _ _ ihl ihr =>
      exact .binary (Operator.mem_of_sum? hop) (ihl fun l hl => hw l (by simp [hl]))
        (ihr fun l hl => hw l (by simp [hl]))

/-! ## Sources -/

/-- A tree that is read is over the registry under which it is read. -/
theorem isOver_of_parse {registry : Registry} {settings : Settings} {source : String} {e : Expr}
    (h : parse host registry settings source = .ok e) : e.IsOver registry :=
  (derives_of_parse h).isOver (Scan.isOver_lexemes _ source)

end Calculator
