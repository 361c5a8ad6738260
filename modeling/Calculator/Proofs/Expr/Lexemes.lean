import Calculator.Expr.Printer
import Calculator.Proofs.Number.Written
import Calculator.Proofs.Token.Lexes

/-!
# Lexemes of printed expressions

`Expr.IsPrintable v e` says that the numbers of a tree are finite and have no sign, and that its
names are names of the vocabulary `v`. If all its numbers are written positionally, the text of such
a tree is read as the lexemes `Expr.lexemes`, whatever boundary follows it (`lexes_chars`). If not,
reading the text comes to the letter after the first number with a power of ten, and stumbles there
(`stumbles_chars`).
-/

set_option autoImplicit false

namespace Calculator

/-! ## Printable trees -/

/-- The operator sign of a binary operation. -/
def BinaryOp.operator? : BinaryOp → Option Operator
  | .add => some .plus
  | .sub => some .minus
  | .mul => some .times
  | .div => some .divide
  | .pow => some .power
  | .other _ => none

/-- The operator sign of a sign in front of an operand. -/
def UnaryOp.operator? : UnaryOp → Option Operator
  | .pos => some .plus
  | .neg => some .minus
  | .other _ => none

namespace Expr

/-- Numbers are finite and without a sign, names are identifiers that the vocabulary has as
constants and as functions and does not cut, and operators are those of the grammar. -/
inductive IsPrintable (v : Vocabulary) : Expr → Prop
  | number {value : Float} {bits : Nat} : Double.ofFloat value = .finite false bits →
      IsPrintable v (.number value)
  | constant {name : String} : isName name.toList = true → (name.length : Int) ≤ v.nameLimit →
      v.registry.isConstant name = true → IsPrintable v (.constant name)
  | binary {op : BinaryOp} {left right : Expr} : op.operator?.isSome = true →
      IsPrintable v left → IsPrintable v right → IsPrintable v (.binary op left right)
  | unary {op : UnaryOp} {operand : Expr} : op.operator?.isSome = true →
      IsPrintable v operand → IsPrintable v (.unary op operand)
  | call {name : String} {arguments : List Expr} : isName name.toList = true →
      (name.length : Int) ≤ v.nameLimit → v.registry.isFunction name = true →
      (∀ a ∈ arguments, IsPrintable v a) → IsPrintable v (.call name arguments)

mutual

/-- The numbers of a tree. -/
def literals : Expr → List Float
  | .number value => [value]
  | .constant _ => []
  | .binary _ left right => left.literals ++ right.literals
  | .unary _ operand => operand.literals
  | .call _ arguments => listLiterals arguments

/-- The numbers of several trees. -/
def listLiterals : List Expr → List Float
  | [] => []
  | e :: rest => e.literals ++ listLiterals rest

end

/-- Every number of the tree is zero or in the range in which numbers are written positionally. -/
def IsPlain (e : Expr) : Prop :=
  ∀ value ∈ e.literals, ∀ negative bits, Double.ofFloat value = .finite negative bits →
    Double.IsPlain bits

/-! ## Lexemes -/

mutual

/-- The lexemes of the text of a tree. -/
def lexemes : Expr → List Lexeme
  | .number value => [.number (floatText value) value]
  | .constant name => [.constant name]
  | .binary op left right =>
      .leftParen ::
        (left.lexemes ++ op.operator?.toList.map .operator ++ right.lexemes ++ [.rightParen])
  | .unary op operand => op.operator?.toList.map .operator ++ operand.lexemes
  | .call name arguments =>
      .function name :: .leftParen ::
        ([.comma].intercalate (listLexemes arguments) ++ [.rightParen])

/-- The lexemes of the texts of several trees. -/
def listLexemes : List Expr → List (List Lexeme)
  | [] => []
  | e :: rest => e.lexemes :: listLexemes rest

end

theorem listLexemes_eq (arguments : List Expr) :
    listLexemes arguments = arguments.map lexemes := by
  induction arguments with
  | nil => rfl
  | cons a rest ih => rw [listLexemes, ih, List.map_cons]

theorem listLiterals_eq (arguments : List Expr) :
    listLiterals arguments = arguments.flatMap literals := by
  induction arguments with
  | nil => rfl
  | cons a rest ih => rw [listLiterals, ih, List.flatMap_cons]

theorem isPlain_binary {op : BinaryOp} {left right : Expr} :
    (binary op left right).IsPlain ↔ left.IsPlain ∧ right.IsPlain := by
  simp only [IsPlain, literals, List.mem_append, or_imp, forall_and]

theorem isPlain_unary {op : UnaryOp} {operand : Expr} :
    (unary op operand).IsPlain ↔ operand.IsPlain := by
  simp only [IsPlain, literals]

theorem isPlain_call {name : String} {arguments : List Expr} :
    (call name arguments).IsPlain ↔ ∀ a ∈ arguments, a.IsPlain := by
  simp only [IsPlain, literals, listLiterals_eq, List.mem_flatMap]
  constructor
  · intro h a ha value hvalue
    exact h value ⟨a, ha, hvalue⟩
  · rintro h value ⟨a, ha, hvalue⟩
    exact h a ha value hvalue

/-! ## Reading the text of a tree -/

variable {v : Vocabulary}

theorem symbol_binary {op : BinaryOp} {sign : Operator} (h : op.operator? = some sign) :
    op.symbol.toList = [sign.symbol] := by
  cases op <;> cases h <;> rfl

theorem symbol_unary {op : UnaryOp} {sign : Operator} (h : op.operator? = some sign) :
    op.symbol.toList = [sign.symbol] := by
  cases op <;> cases h <;> rfl

/-- A name that is not too long is looked up as it stands. -/
theorem cut_of_le {name : String} (h : (name.length : Int) ≤ v.nameLimit) :
    v.cut name.toList = name := by
  unfold Vocabulary.cut
  cases hlimit : v.nameLimit with
  | ofNat n =>
      rw [hlimit] at h
      have hlength : name.toList.length ≤ n := by
        rw [String.length_toList]
        exact Int.ofNat_le.mp h
      rw [cutName, List.take_of_length_le hlength, String.ofList_toList]
  | negSucc n => omega

theorem classify_constant {name : String} (hlength : (name.length : Int) ≤ v.nameLimit)
    (h : v.registry.isConstant name = true) : v.classify name.toList = .ok (.constant name) := by
  rw [Vocabulary.classify_eq_ok_iff, cut_of_le hlength]
  exact Or.inl ⟨h, rfl⟩

theorem classify_function {name : String} (hlength : (name.length : Int) ≤ v.nameLimit)
    (h : v.registry.isFunction name = true) : v.classify name.toList = .ok (.function name) := by
  rw [Vocabulary.classify_eq_ok_iff, cut_of_le hlength]
  exact Or.inr ⟨h, rfl⟩

theorem IsPrintable.lexemes_ne_nil {e : Expr} (h : e.IsPrintable v) : e.lexemes ≠ [] := by
  cases h with
  | unary hop _ =>
      obtain ⟨sign, hsign⟩ := Option.isSome_iff_exists.mp hop
      simp [lexemes, hsign]
  | _ => simp [lexemes]

theorem chars_binary {op : BinaryOp} {sign : Operator} (h : op.operator? = some sign)
    (left right : Expr) (tail : List Char) :
    (binary op left right).chars ++ tail =
      '(' :: (left.chars ++ ' ' :: sign.symbol :: ' ' :: (right.chars ++ ')' :: tail)) := by
  simp [chars, symbol_binary h]

theorem chars_call (name : String) (arguments : List Expr) (tail : List Char) :
    (call name arguments).chars ++ tail =
      name.toList ++ '(' :: (listChars arguments ++ ')' :: tail) := by
  simp [chars]

theorem listChars_cons_cons (a b : Expr) (rest : List Expr) :
    listChars (a :: b :: rest) = a.chars ++ ',' :: ' ' :: listChars (b :: rest) := rfl

/-- The arguments of a call are read up to the end of its parenthesis. -/
theorem lexes_listChars {arguments : List Expr} (hprintable : ∀ a ∈ arguments, a.IsPrintable v)
    (h : ∀ a ∈ arguments, ∀ tail, IsBoundary tail → Lexes v (a.chars ++ tail) a.lexemes tail)
    (tail : List Char) :
    Lexes v (listChars arguments ++ ')' :: tail)
      ([.comma].intercalate (arguments.map lexemes) ++ [.rightParen]) tail := by
  induction arguments with
  | nil => exact Lexes.rightParen tail
  | cons a rest ih =>
      cases rest with
      | nil =>
          have ha := h a (by simp) _ (isBoundary_cons ')' tail (by decide))
          simpa [listChars, tailChars] using ha.trans (Lexes.rightParen tail)
      | cons b rest =>
          have ha := h a (by simp) _
            (isBoundary_cons ',' (' ' :: (listChars (b :: rest) ++ ')' :: tail)) (by decide))
          have hrest := ih (fun c hc => hprintable c (List.mem_cons_of_mem _ hc))
            (fun c hc => h c (List.mem_cons_of_mem _ hc))
          have hall := ha.trans ((Lexes.comma _).trans (hrest.blank (by simp)))
          rw [listChars_cons_cons, List.map_cons, List.map_cons, List.intercalate_cons_cons]
          simpa using hall

/-- The text of a tree whose numbers are written positionally is read as its lexemes. -/
theorem lexes_chars {e : Expr} (h : e.IsPrintable v) (hplain : e.IsPlain) {tail : List Char}
    (htail : IsBoundary tail) : Lexes v (e.chars ++ tail) e.lexemes tail := by
  induction h generalizing tail with
  | @number value bits hvalue =>
      have hbits := hplain value (by simp [literals]) false bits hvalue
      obtain ⟨hall, hne, hlexeme⟩ := ofNumeral_floatChars hvalue hbits
      exact Lexes.numeral hall hne hlexeme htail
  | constant hname hlength hconstant =>
      exact Lexes.name hname (classify_constant hlength hconstant) htail
  | @binary op left right hop hprintl hprintr ihleft ihright =>
      obtain ⟨sign, hsign⟩ := Option.isSome_iff_exists.mp hop
      obtain ⟨hleft, hright⟩ := isPlain_binary.mp hplain
      have hl := ihleft hleft
        (isBoundary_cons ' ' (sign.symbol :: ' ' :: (right.chars ++ ')' :: tail)) (by decide))
      have hr := ihright hright (isBoundary_cons ')' tail (by decide))
      have hall := (Lexes.leftParen _).trans (hl.trans (((Lexes.operator sign _).blank (by simp)).trans
        ((hr.blank hprintr.lexemes_ne_nil).trans (Lexes.rightParen tail))))
      rw [chars_binary hsign]
      simpa [lexemes, hsign] using hall
  | @unary op operand hop _ ih =>
      obtain ⟨sign, hsign⟩ := Option.isSome_iff_exists.mp hop
      have hoperand := ih (isPlain_unary.mp hplain) htail
      have hall := (Lexes.operator sign _).trans hoperand
      simpa [lexemes, chars, hsign, symbol_unary hsign] using hall
  | @call name arguments hname hlength hfunction hprintable ih =>
      have hlist := lexes_listChars hprintable
        (fun a ha tail htail => ih a ha (isPlain_call.mp hplain a ha) htail) tail
      have hall := (Lexes.name hname (classify_function hlength hfunction)
        (isBoundary_cons '(' _ (by decide))).trans ((Lexes.leftParen _).trans hlist)
      rw [chars_call]
      simpa [lexemes, listLexemes_eq] using hall

/-! ## Numbers with a power of ten -/

/-- If reading the text of one argument stumbles, so does reading all of them. -/
theorem stumbles_listChars {arguments : List Expr} (hprintable : ∀ a ∈ arguments, a.IsPrintable v)
    (h : ∀ a ∈ arguments, ¬ a.IsPlain → ∀ tail, Stumbles v (a.chars ++ tail))
    (hsome : ¬ ∀ a ∈ arguments, a.IsPlain) (tail : List Char) :
    Stumbles v (listChars arguments ++ tail) := by
  induction arguments with
  | nil => exact absurd (by simp) hsome
  | cons a rest ih =>
      by_cases ha : a.IsPlain
      · have hrest : ¬ ∀ b ∈ rest, b.IsPlain := by
          intro hall
          exact hsome (List.forall_mem_cons.mpr ⟨ha, hall⟩)
        have hstumbles := ih (fun b hb => hprintable b (List.mem_cons_of_mem _ hb))
          (fun b hb => h b (List.mem_cons_of_mem _ hb)) hrest
        cases rest with
        | nil => exact absurd (by simp) hrest
        | cons b rest =>
            rw [listChars_cons_cons, List.append_assoc]
            exact Stumbles.of_lexes
              (lexes_chars (hprintable a (by simp)) ha (isBoundary_cons ',' _ (by decide)))
              (Stumbles.of_lexes (Lexes.comma _) hstumbles.blank)
      · rw [listChars, List.append_assoc]
        exact h a (by simp) ha _

/-- Reading the text of a tree with a number that is not written positionally stumbles. -/
theorem stumbles_chars {e : Expr} (h : e.IsPrintable v) (hplain : ¬ e.IsPlain) (tail : List Char) :
    Stumbles v (e.chars ++ tail) := by
  induction h generalizing tail with
  | @number value bits hvalue =>
      have hbits : ¬ Double.IsPlain bits := by
        intro hbits
        refine hplain fun other hother negative bits' hbits' => ?_
        rw [List.mem_singleton.mp hother, hvalue] at hbits'
        cases hbits'
        exact hbits
      obtain ⟨numeral, power, htext, hne, hall⟩ := floatChars_of_not_isPlain hvalue hbits
      have hletter : Char.isAlpha 'e' = true := rfl
      have hstumbles := Stumbles.numeral (v := v) hall hne hletter (power ++ tail)
      rw [chars, htext, List.append_assoc]
      exact hstumbles
  | constant _ _ _ => exact absurd (by simp [IsPlain, literals]) hplain
  | @binary op left right hop hprintl hprintr ihleft ihright =>
      obtain ⟨sign, hsign⟩ := Option.isSome_iff_exists.mp hop
      rw [chars_binary hsign]
      refine Stumbles.of_lexes (Lexes.leftParen _) ?_
      -- the left operand is read to its end, or reading stumbles inside it
      by_cases hleft : left.IsPlain
      · have hright : ¬ right.IsPlain := fun hright => hplain (isPlain_binary.mpr ⟨hleft, hright⟩)
        exact Stumbles.of_lexes (lexes_chars hprintl hleft (isBoundary_cons ' ' _ (by decide)))
          (Stumbles.of_lexes ((Lexes.operator sign _).blank (by simp)) (ihright hright _).blank)
      · exact ihleft hleft _
  | @unary op operand hop _ ih =>
      obtain ⟨sign, hsign⟩ := Option.isSome_iff_exists.mp hop
      have hstumbles := Stumbles.of_lexes (Lexes.operator sign _)
        (ih (mt isPlain_unary.mpr hplain) tail)
      simpa [chars, symbol_unary hsign] using hstumbles
  | @call name arguments hname hlength hfunction hprintable ih =>
      rw [chars_call]
      exact Stumbles.of_lexes ((Lexes.name hname (classify_function hlength hfunction)
          (isBoundary_cons '(' _ (by decide))).trans (Lexes.leftParen _))
        (stumbles_listChars hprintable ih (mt isPlain_call.mpr hplain) _)

end Expr

end Calculator
