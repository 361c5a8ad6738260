import Calculator.Proofs.Expr.Lexemes
import Calculator.Proofs.Number.Characters
import Calculator.Proofs.Number.ReadBack

/-!
# Printed expressions are uniquely readable

Trees whose numbers are finite and without a sign, and whose names are identifiers, are the same if
their texts are (`Expr.eq_of_print_eq`). This does not go through the reader, which refuses a number
with a power of ten. The first character of a text tells the kind of its tree (`Expr.beginning`),
and where a number or a name ends is told by what may stand behind a tree (`IsDelimited`), so that a
tree and what stands behind it are determined together, part by part (`Expr.chars_append_inj`).
-/

set_option autoImplicit false

namespace Calculator

/-! ## What stands behind a tree -/

/-- What may stand behind the text of a tree: nothing, or a blank, a parenthesis or a comma. -/
def IsDelimited (tail : List Char) : Prop := ∀ c ∈ tail.head?, c ∈ [' ', ')', ',']

theorem isDelimited_nil : IsDelimited [] := by
  rintro c ⟨⟩

theorem isDelimited_cons {c : Char} {rest : List Char} (hc : c ∈ [' ', ')', ',']) :
    IsDelimited (c :: rest) := by
  rintro c' ⟨⟩
  exact hc

theorem IsDelimited.not_written {tail : List Char} (h : IsDelimited tail) :
    ∀ c ∈ tail.head?, isWrittenChar c = false := by
  have hall : [' ', ')', ','].all (fun c => !isWrittenChar c) = true := rfl
  intro c hc
  simpa using List.all_eq_true.mp hall c (h c hc)

theorem IsDelimited.not_alphanum {tail : List Char} (h : IsDelimited tail) :
    ∀ c ∈ tail.head?, c.isAlphanum = false := by
  have hall : [' ', ')', ','].all (fun c => !c.isAlphanum) = true := rfl
  intro c hc
  simpa using List.all_eq_true.mp hall c (h c hc)

/-! ## Operators -/

theorem Operator.symbol_inj {o o' : Operator} (h : o.symbol = o'.symbol) : o = o' := by
  have hchar : Operator.ofChar? o.symbol = some o := Operator.ofChar?_symbol o
  rw [h, Operator.ofChar?_symbol] at hchar
  exact (Option.some.inj hchar).symm

theorem BinaryOp.eq_of_operator? {op op' : BinaryOp} {sign : Operator}
    (h : op.operator? = some sign) (h' : op'.operator? = some sign) : op = op' := by
  cases op <;> cases h <;> cases op' <;> first | rfl | cases h'

theorem UnaryOp.eq_of_operator? {op op' : UnaryOp} {sign : Operator}
    (h : op.operator? = some sign) (h' : op'.operator? = some sign) : op = op' := by
  cases op <;> cases h <;> cases op' <;> first | rfl | cases h'

/-! ## The first character -/

/-- The kinds of characters with which the text of a tree can begin. -/
inductive Beginning where
  | digit
  | letter
  | parenthesis
  | sign
deriving DecidableEq, Repr

/-- The kind of a character, if a tree can begin with it. -/
def Beginning.ofChar? (c : Char) : Option Beginning :=
  if c.isDigit then some .digit
  else if c.isAlpha then some .letter
  else if c = '(' then some .parenthesis
  else if c = '+' ∨ c = '-' then some .sign
  else none

theorem Beginning.ofChar?_of_isAlpha {c : Char} (hc : c.isAlpha = true) :
    ofChar? c = some .letter := by
  have hdigit : ¬ c.isDigit = true := by
    have hnumeral := not_isNumeralChar_of_isAlpha hc
    simp only [isNumeralChar, Bool.or_eq_false_iff] at hnumeral
    simp [hnumeral.1]
  rw [ofChar?, if_neg hdigit, if_pos hc]

namespace Expr

/-- The kind of character with which the text of a tree begins. -/
def beginning : Expr → Beginning
  | .number _ => .digit
  | .constant _ => .letter
  | .binary _ _ _ => .parenthesis
  | .unary _ _ => .sign
  | .call _ _ => .letter

/-- Numbers are finite and without a sign, names are identifiers, and operators are those of the
grammar. -/
inductive IsSpelled : Expr → Prop
  | number {value : Float} {bits : Nat} : Double.ofFloat value = .finite false bits →
      IsSpelled (.number value)
  | constant {name : String} : isName name.toList = true → IsSpelled (.constant name)
  | binary {op : BinaryOp} {left right : Expr} : op.operator?.isSome = true →
      IsSpelled left → IsSpelled right → IsSpelled (.binary op left right)
  | unary {op : UnaryOp} {operand : Expr} : op.operator?.isSome = true →
      IsSpelled operand → IsSpelled (.unary op operand)
  | call {name : String} {arguments : List Expr} : isName name.toList = true →
      (∀ a ∈ arguments, IsSpelled a) → IsSpelled (.call name arguments)

/-- The text of a tree begins as its kind says. -/
theorem IsSpelled.exists_beginning {e : Expr} (h : e.IsSpelled) (tail : List Char) :
    ∃ c rest, e.chars ++ tail = c :: rest ∧ Beginning.ofChar? c = some e.beginning := by
  -- constants and calls both begin with the letter of a name
  have hletter : ∀ {name : String} (rest : List Char), isName name.toList = true →
      ∃ c after, name.toList ++ rest = c :: after ∧ Beginning.ofChar? c = some .letter := by
    intro name rest hname
    cases hchars : name.toList with
    | nil =>
        rw [hchars] at hname
        cases hname
    | cons first others =>
        rw [hchars] at hname
        have halpha : first.isAlpha = true := (Bool.and_eq_true_iff.mp hname).1
        exact ⟨first, others ++ rest, rfl, Beginning.ofChar?_of_isAlpha halpha⟩
  cases h with
  | @number value bits hvalue =>
      obtain ⟨c, rest, htext, hdigit⟩ := exists_digit_floatChars hvalue
      refine ⟨c, rest ++ tail, ?_, ?_⟩
      · rw [chars, htext, List.cons_append]
      · rw [Beginning.ofChar?, if_pos hdigit]
        rfl
  | constant hname => exact hletter tail hname
  | binary _ _ _ => exact ⟨'(', _, rfl, rfl⟩
  | @unary op operand hop _ =>
      cases op with
      | pos => exact ⟨'+', _, rfl, rfl⟩
      | neg => exact ⟨'-', _, rfl, rfl⟩
      | other symbol => cases hop
  | @call name arguments hname _ =>
      rw [chars_call]
      exact hletter _ hname

theorem beginning_eq {a b : Expr} (ha : a.IsSpelled) (hb : b.IsSpelled) {s t : List Char}
    (h : a.chars ++ s = b.chars ++ t) : a.beginning = b.beginning := by
  obtain ⟨c, rest, hac, hkind⟩ := ha.exists_beginning s
  obtain ⟨d, rest', hbd, hkind'⟩ := hb.exists_beginning t
  obtain ⟨rfl, -⟩ : c = d ∧ rest = rest' := List.cons.inj (hac.symm.trans (h.trans hbd))
  exact Option.some.inj (hkind.symm.trans hkind')

/-- No tree begins with a closing parenthesis. -/
theorem IsSpelled.chars_append_ne {e : Expr} (h : e.IsSpelled) (s t : List Char) :
    e.chars ++ s ≠ ')' :: t := by
  obtain ⟨c, rest, htext, hbeginning⟩ := h.exists_beginning s
  intro heq
  obtain ⟨rfl, -⟩ := List.cons.inj (htext.symm.trans heq)
  cases hbeginning

/-! ## Arguments -/

/-- The texts of further arguments, up to the end of the call. -/
theorem tailChars_append_inj {arguments arguments' : List Expr} {s t : List Char}
    (hread : ∀ a ∈ arguments, ∀ b ∈ arguments', ∀ {s t}, IsDelimited s → IsDelimited t →
      a.chars ++ s = b.chars ++ t → a = b ∧ s = t)
    (h : tailChars arguments ++ ')' :: s = tailChars arguments' ++ ')' :: t) :
    arguments = arguments' ∧ s = t := by
  -- behind an argument stands the comma of the next one, or the end of the call
  have hdelimited : ∀ rest tail, IsDelimited (tailChars rest ++ ')' :: tail) := by
    intro rest tail
    cases rest with
    | nil => exact isDelimited_cons (by simp)
    | cons b rest => exact isDelimited_cons (by simp)
  induction arguments generalizing arguments' with
  | nil =>
      cases arguments' with
      | nil => exact ⟨rfl, (List.cons.inj h).2⟩
      | cons b rest' =>
          have hhead : ')' = ',' := (List.cons.inj h).1
          cases hhead
  | cons a rest ih =>
      cases arguments' with
      | nil =>
          have hhead : ',' = ')' := (List.cons.inj h).1
          cases hhead
      | cons b rest' =>
          have htail : a.chars ++ (tailChars rest ++ ')' :: s) =
              b.chars ++ (tailChars rest' ++ ')' :: t) := by
            simpa [tailChars] using h
          obtain ⟨rfl, hrest⟩ :=
            hread a (by simp) b (by simp) (hdelimited rest s) (hdelimited rest' t) htail
          obtain ⟨rfl, hst⟩ := ih (fun c hc d hd => hread c (List.mem_cons_of_mem _ hc) d
            (List.mem_cons_of_mem _ hd)) hrest
          exact ⟨rfl, hst⟩

/-- The texts of all arguments, up to the end of the call. -/
theorem listChars_append_inj {arguments arguments' : List Expr} {s t : List Char}
    (hspelled : ∀ a ∈ arguments, a.IsSpelled) (hspelled' : ∀ b ∈ arguments', b.IsSpelled)
    (hread : ∀ a ∈ arguments, ∀ b ∈ arguments', ∀ {s t}, IsDelimited s → IsDelimited t →
      a.chars ++ s = b.chars ++ t → a = b ∧ s = t)
    (h : listChars arguments ++ ')' :: s = listChars arguments' ++ ')' :: t) :
    arguments = arguments' ∧ s = t := by
  cases arguments with
  | nil =>
      cases arguments' with
      | nil => exact ⟨rfl, (List.cons.inj h).2⟩
      | cons b rest' =>
          rw [listChars, listChars, List.append_assoc] at h
          exact absurd h.symm ((hspelled' b (by simp)).chars_append_ne _ _)
  | cons a rest =>
      cases arguments' with
      | nil =>
          rw [listChars, listChars, List.append_assoc] at h
          exact absurd h ((hspelled a (by simp)).chars_append_ne _ _)
      | cons b rest' =>
          -- in front of the first argument a comma makes it a further one
          refine tailChars_append_inj hread ?_
          simpa [listChars, tailChars] using h

/-! ## Trees -/

/-- A tree and what stands behind it are determined by the text of both. -/
theorem chars_append_inj {a b : Expr} (ha : a.IsSpelled) (hb : b.IsSpelled) {s t : List Char}
    (hs : IsDelimited s) (ht : IsDelimited t) (h : a.chars ++ s = b.chars ++ t) :
    a = b ∧ s = t := by
  -- The second tree is of the same kind, as both begin alike. Then part after part is determined:
  -- what a node writes behind a part delimits it, so that the hypothesis for the part applies.
  induction ha generalizing b s t with
  | @number value bits hvalue =>
      have hbeginning := beginning_eq (.number hvalue) hb h
      cases hb with
      | @number value' bits' hvalue' =>
          obtain ⟨htext, hst⟩ := append_inj_of_boundary
            (Layout.isWrittenChar_writeFloat Layout.value shortest value)
            (Layout.isWrittenChar_writeFloat Layout.value shortest value')
            hs.not_written ht.not_written h
          exact ⟨congrArg Expr.number (floatChars_inj hvalue hvalue' htext), hst⟩
      | _ => cases hbeginning
  | @constant name hname =>
      have hbeginning := beginning_eq (.constant hname) hb h
      cases hb with
      | @constant name' hname' =>
          obtain ⟨htext, hst⟩ := append_inj_of_boundary (isAlphanum_of_isName hname)
            (isAlphanum_of_isName hname') hs.not_alphanum ht.not_alphanum h
          exact ⟨congrArg Expr.constant (String.toList_inj.mp htext), hst⟩
      | @call name' arguments hname' _ =>
          -- behind a bare name there is no opening parenthesis
          rw [chars_call] at h
          obtain ⟨-, rfl⟩ := append_inj_of_boundary (isAlphanum_of_isName hname)
            (isAlphanum_of_isName hname') hs.not_alphanum (by rintro c ⟨⟩; rfl) h
          exact absurd (hs '(' rfl) (by decide)
      | _ => cases hbeginning
  | @binary op left right hop hleft hright ihleft ihright =>
      have hbeginning := beginning_eq (.binary hop hleft hright) hb h
      cases hb with
      | @binary op' left' right' hop' hleft' hright' =>
          obtain ⟨sign, hsign⟩ := Option.isSome_iff_exists.mp hop
          obtain ⟨sign', hsign'⟩ := Option.isSome_iff_exists.mp hop'
          rw [chars_binary hsign, chars_binary hsign'] at h
          obtain ⟨rfl, hafterLeft⟩ := ihleft hleft' (isDelimited_cons (by simp))
            (isDelimited_cons (by simp)) (List.cons.inj h).2
          obtain ⟨hsymbol, hafterSign⟩ := List.cons.inj (List.cons.inj hafterLeft).2
          obtain ⟨rfl, hafterRight⟩ := ihright hright' (isDelimited_cons (by simp))
            (isDelimited_cons (by simp)) (List.cons.inj hafterSign).2
          obtain rfl : sign = sign' := Operator.symbol_inj hsymbol
          obtain rfl : op = op' := BinaryOp.eq_of_operator? hsign hsign'
          exact ⟨rfl, (List.cons.inj hafterRight).2⟩
      | _ => cases hbeginning
  | @unary op operand hop hoperand ih =>
      have hbeginning := beginning_eq (.unary hop hoperand) hb h
      cases hb with
      | @unary op' operand' hop' hoperand' =>
          obtain ⟨sign, hsign⟩ := Option.isSome_iff_exists.mp hop
          obtain ⟨sign', hsign'⟩ := Option.isSome_iff_exists.mp hop'
          simp only [chars, symbol_unary hsign, symbol_unary hsign', List.cons_append,
            List.nil_append] at h
          obtain ⟨hsymbol, hrest⟩ := List.cons.inj h
          obtain ⟨rfl, hst⟩ := ih hoperand' hs ht hrest
          obtain rfl : sign = sign' := Operator.symbol_inj hsymbol
          obtain rfl : op = op' := UnaryOp.eq_of_operator? hsign hsign'
          exact ⟨rfl, hst⟩
      | _ => cases hbeginning
  | @call name arguments hname harguments ih =>
      have hbeginning := beginning_eq (.call hname harguments) hb h
      cases hb with
      | @constant name' hname' =>
          rw [chars_call] at h
          obtain ⟨-, rfl⟩ := append_inj_of_boundary (isAlphanum_of_isName hname)
            (isAlphanum_of_isName hname') (by rintro c ⟨⟩; rfl) ht.not_alphanum h
          exact absurd (ht '(' rfl) (by decide)
      | @call name' arguments' hname' harguments' =>
          rw [chars_call, chars_call] at h
          obtain ⟨htext, hrest⟩ := append_inj_of_boundary (isAlphanum_of_isName hname)
            (isAlphanum_of_isName hname') (by rintro c ⟨⟩; rfl) (by rintro c ⟨⟩; rfl) h
          obtain rfl : name = name' := String.toList_inj.mp htext
          obtain ⟨rfl, hst⟩ := listChars_append_inj harguments harguments'
            (fun a ha b hb => ih a ha (harguments' b hb)) (List.cons.inj hrest).2
          exact ⟨rfl, hst⟩
      | _ => cases hbeginning

/-- Trees whose numbers are finite and without a sign, and whose names are identifiers, are the same
if their texts are. -/
theorem eq_of_print_eq {a b : Expr} (ha : a.IsSpelled) (hb : b.IsSpelled)
    (h : a.print = b.print) : a = b := by
  have htext : a.chars ++ [] = b.chars ++ [] := by
    rw [List.append_nil, List.append_nil]
    exact String.ofList_injective h
  exact (chars_append_inj ha hb isDelimited_nil isDelimited_nil htext).1

end Expr

/-- The tree of `(-v + f(e, x1))` for a number `v`. -/
def shiftedCall (value : Float) : Expr :=
  .binary .add (.unary .neg (.number value)) (.call "f" [.constant "e", .constant "x1"])

theorem isSpelled_shiftedCall {value : Float} {bits : Nat}
    (h : Double.ofFloat value = .finite false bits) : (shiftedCall value).IsSpelled := by
  refine .binary rfl (.unary rfl (.number h)) (.call (by decide) ?_)
  intro a ha
  rcases List.mem_pair.mp ha with rfl | rfl
  · exact .constant (by decide)
  · exact .constant (by decide)

/-- With a power of ten in the text: the double of this pattern is what `1e16` is read as. -/
theorem eq_of_print_eq_power_of_ten :
    (shiftedCall (Double.withSign false 0x4341c37937e08000)).print = "(-1e+16 + f(e, x1))" ∧
      shiftedCall (Double.withSign false 0x4341c37937e08000) =
        shiftedCall (Decimal.toFloat false ⟨1, 16⟩) := by
  have hpattern : Double.ofFloat (Double.withSign false 0x4341c37937e08000) =
      .finite false 0x4341c37937e08000 := by decide +kernel
  have hdecimal : Double.ofFloat (Decimal.toFloat false ⟨1, 16⟩) =
      .finite false 0x4341c37937e08000 := by decide +kernel
  refine ⟨by decide +kernel, ?_⟩
  exact Expr.eq_of_print_eq (isSpelled_shiftedCall hpattern) (isSpelled_shiftedCall hdecimal)
    (by decide +kernel)

end Calculator
