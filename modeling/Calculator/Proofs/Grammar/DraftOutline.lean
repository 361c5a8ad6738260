import Calculator.Proofs.Grammar.Outline

/-!
# The outline of a draft

`Draft.outline` leaves out how operands are joined into trees. A token does to the outline of a
draft what it does to the draft (`Draft.outline_advance`), and so does the end of the input
(`Draft.outline_conclude`): a draft is refused exactly where its outline is, with the same fault, and
a tree that is read has the parts of the outline (`Scan.map_parts_read`).

The levels of the outline are closed one by one, while a draft ends several operators at a time.
The two agree because the operators of a draft stay in order (`Draft.IsOrdered`): the inner ones bind
at least as tightly as the outer ones, so that signs and powers stand innermost.
-/

set_option autoImplicit false

namespace Calculator

/-! ## The outline of a draft -/

/-- The level that an operator has opened. -/
def Pending.level? : Pending → Option Level
  | .power _ => some .power
  | .sign _ => some .sign
  | _ => none

/-- What was read up to an operator, from the beginning of its left operand. -/
def Pending.parts : Pending → List Part
  | .sum op left => left.parts ++ [.operation op]
  | .product op left => left.parts ++ [.operation op]
  | .power base => base.parts ++ [.operation .pow]
  | .sign op => [.sign op]

def Bracket.level : Bracket → Level
  | .group pos => .group pos
  | .call name _ => .call name

/-- What was read from a parenthesis on, as far as it belongs to no operator inside it. -/
def Bracket.parts : Bracket → List Part
  | .group _ => []
  | .call name arguments => .call name :: Expr.argumentParts arguments.reverse

/-- The levels that operators have opened. -/
def pendingLevels (pending : List Pending) : List Level := pending.filterMap Pending.level?

/-- What was read up to the innermost operator that waits. -/
def pendingParts : List Pending → List Part
  | [] => []
  | p :: rest => pendingParts rest ++ p.parts

/-- The levels outside the innermost parenthesis, and this parenthesis. -/
def enclosingLevels : List (Bracket × List Pending) → List Level
  | [] => []
  | (bracket, pending) :: rest => bracket.level :: (pendingLevels pending ++ enclosingLevels rest)

/-- What was read up to the innermost parenthesis. -/
def enclosingParts : List (Bracket × List Pending) → List Part
  | [] => []
  | (bracket, pending) :: rest => enclosingParts rest ++ (pendingParts pending ++ bracket.parts)

/-- A draft without its trees. -/
def Draft.outline (s : Draft) : Outline :=
  let levels := pendingLevels s.pending ++ enclosingLevels s.enclosing
  let parts := enclosingParts s.enclosing ++ pendingParts s.pending
  match s.focus with
  | .operand => ⟨levels, .operand, parts⟩
  | .callee name => ⟨levels, .callee name, parts ++ [.call name]⟩
  | .arguments name => ⟨.call name :: levels, .arguments, parts ++ [.call name]⟩
  | .complete value => ⟨levels, .more, parts ++ value.parts⟩

/-- The outline of a draft has the levels of the draft. -/
theorem Draft.length_levels_outline (s : Draft) : s.outline.levels.length = s.levels := by
  have hlevel : (fun p => (Pending.level? p).isSome) = Pending.opensLevel := by
    funext p
    cases p <;> rfl
  have hpending : ∀ pending : List Pending,
      (pendingLevels pending).length = Draft.operatorLevels pending := by
    intro pending
    rw [pendingLevels, List.length_filterMap_eq_countP, hlevel, Draft.operatorLevels]
  have henclosing : ∀ enclosing : List (Bracket × List Pending),
      (enclosingLevels enclosing).length =
        enclosing.foldr (fun e inner => Draft.operatorLevels e.2 + 1 + inner) 0 := by
    intro enclosing
    induction enclosing with
    | nil => rfl
    | cons e rest ih =>
        simp only [enclosingLevels, List.length_cons, List.length_append, hpending, ih,
          List.foldr_cons]
        omega
  obtain ⟨pending, enclosing, focus⟩ := s
  cases focus <;>
    simp only [Draft.outline, Draft.levels, Draft.focusLevels, List.length_cons, List.length_append,
      hpending, henclosing] <;> omega

/-! ## Operators in order -/

/-- Of two operators that wait, the inner one binds at least as tightly. -/
def InOrder (pending : List Pending) : Prop :=
  pending.Pairwise fun inner outer => outer.tier.rank ≤ inner.tier.rank

theorem endOperators_suffix (tier : Tier) (value : Expr) (pending : List Pending) :
    (endOperators tier value pending).2 <:+ pending := by
  induction pending generalizing value with
  | nil => exact List.suffix_refl _
  | cons p rest ih =>
      rw [endOperators]
      split
      · exact (ih _).trans (List.suffix_cons _ _)
      · exact List.suffix_refl _

theorem InOrder.endOperators {pending : List Pending} (h : InOrder pending) (tier : Tier)
    (value : Expr) : InOrder (endOperators tier value pending).2 :=
  h.sublist (endOperators_suffix tier value pending).sublist

/-- Where operators are in order, those that are left bind less tightly. -/
theorem InOrder.rank_lt {pending : List Pending} (h : InOrder pending) (tier : Tier)
    (value : Expr) : ∀ p ∈ (Calculator.endOperators tier value pending).2,
      p.tier.rank < tier.rank := by
  induction pending generalizing value with
  | nil =>
      intro p hp
      cases hp
  | cons p rest ih =>
      obtain ⟨hfirst, hrest⟩ := List.pairwise_cons.mp h
      rw [Calculator.endOperators]
      split
      · exact ih hrest _
      · next hrank =>
          intro q hq
          rcases List.mem_cons.mp hq with rfl | hq
          · exact Nat.not_le.mp hrank
          · exact Nat.lt_of_le_of_lt (hfirst q hq) (Nat.not_le.mp hrank)

theorem pendingLevels_cons (p : Pending) (rest : List Pending) :
    pendingLevels (p :: rest) = p.level?.toList ++ pendingLevels rest := by
  cases p <;> rfl

/-- Operators that bind no tighter than a product open no level. -/
theorem pendingLevels_of_rank {pending : List Pending}
    (h : ∀ p ∈ pending, p.tier.rank < Tier.rank .power) : pendingLevels pending = [] := by
  refine List.filterMap_eq_nil_iff.mpr fun p hp => ?_
  have hrank := h p hp
  cases p with
  | sum op left => rfl
  | product op left => rfl
  | power base => exact absurd hrank (Nat.lt_irrefl _)
  | sign op => exact absurd hrank (Nat.lt_asymm (Nat.lt_succ_self _))

/-- Only parentheses stand around operators. -/
theorem dropWhile_enclosingLevels {p : Level → Bool} (hgroup : ∀ pos, p (.group pos) = false)
    (hcall : ∀ name, p (.call name) = false) (enclosing : List (Bracket × List Pending)) :
    (enclosingLevels enclosing).dropWhile p = enclosingLevels enclosing := by
  cases enclosing with
  | nil => rfl
  | cons e rest =>
      obtain ⟨bracket, pending⟩ := e
      refine List.dropWhile_cons_of_neg ?_
      cases bracket with
      | group pos => simp [Bracket.level, hgroup]
      | call name arguments => simp [Bracket.level, hcall]

/-- An operand ends the signs in front of it, and with them their levels. -/
theorem levels_endSigns {pending : List Pending} (h : InOrder pending) (value : Expr)
    (enclosing : List (Bracket × List Pending)) :
    (pendingLevels pending ++ enclosingLevels enclosing).dropWhile Level.isSign =
      pendingLevels (endOperators .sign value pending).2 ++ enclosingLevels enclosing := by
  induction pending generalizing value with
  | nil => exact dropWhile_enclosingLevels (fun _ => rfl) (fun _ => rfl) enclosing
  | cons p rest ih =>
      obtain ⟨hfirst, hrest⟩ := List.pairwise_cons.mp h
      cases p with
      | sign op => exact ih hrest (.unary op value)
      | power base => rfl
      | sum op left | product op left =>
          -- what waits outside a sum or a product opens no level
          have hlow : pendingLevels rest = [] :=
            pendingLevels_of_rank fun q hq =>
              Nat.lt_of_le_of_lt (hfirst q hq) (by simp [Pending.tier, Tier.rank])
          have hend : (enclosingLevels enclosing).dropWhile Level.isSign = _ :=
            dropWhile_enclosingLevels (fun _ => rfl) (fun _ => rfl) enclosing
          simpa [pendingLevels_cons, Pending.level?, hlow, endOperators, Pending.tier, Tier.rank]
            using hend

/-- Where no sign waits, all levels inside the innermost parenthesis are powers. -/
theorem levels_endPowers {pending : List Pending} (h : ∀ p ∈ pending, p.tier ≠ .sign)
    (enclosing : List (Bracket × List Pending)) :
    (pendingLevels pending ++ enclosingLevels enclosing).dropWhile Level.isPower =
      enclosingLevels enclosing := by
  induction pending with
  | nil => exact dropWhile_enclosingLevels (fun _ => rfl) (fun _ => rfl) enclosing
  | cons p rest ih =>
      have hrest := ih fun q hq => h q (List.mem_cons_of_mem _ hq)
      cases p with
      | sign op => exact absurd rfl (h (.sign op) (by simp))
      | _ => exact hrest

/-! ## Parts of drafts -/

theorem Pending.parts_apply (p : Pending) (value : Expr) :
    (p.apply value).parts = p.parts ++ value.parts := by
  cases p <;> simp [Pending.apply, Pending.parts, Expr.parts]

/-- Ending operators joins parts and leaves them in order. -/
theorem parts_endOperators (tier : Tier) (value : Expr) (pending : List Pending) :
    pendingParts (endOperators tier value pending).2 ++ (endOperators tier value pending).1.parts =
      pendingParts pending ++ value.parts := by
  induction pending generalizing value with
  | nil => rfl
  | cons p rest ih =>
      rw [endOperators]
      split
      · rw [ih, Pending.parts_apply, pendingParts, List.append_assoc]
      · rfl

theorem parts_endAll (value : Expr) (pending : List Pending) :
    (endAll value pending).parts = pendingParts pending ++ value.parts := by
  have hparts := parts_endOperators .sum value pending
  rwa [endOperators_sum] at hparts

/-! ## Every token does the same to the outline -/

namespace Draft

variable {conventional : Bool} {pending : List Pending} {enclosing : List (Bracket × List Pending)}
  {focus : Focus}

/-- The operators of a draft are in order, and no sign waits behind an operand. -/
structure IsOrdered (s : Draft) : Prop where
  pending : InOrder s.pending
  enclosing : ∀ e ∈ s.enclosing, InOrder e.2
  complete : ∀ value, s.focus = .complete value → ∀ p ∈ s.pending, p.tier ≠ .sign

theorem isOrdered_start : start.IsOrdered where
  pending := List.Pairwise.nil
  enclosing := by simp [start]
  complete := by simp [start]

/-- A draft that awaits something is in order if its operators are. -/
theorem isOrdered_of_ne_complete (hpending : InOrder pending)
    (henclosing : ∀ e ∈ enclosing, InOrder e.2) (hfocus : ∀ value, focus ≠ .complete value) :
    IsOrdered ⟨pending, enclosing, focus⟩ :=
  ⟨hpending, henclosing, fun value hvalue => absurd hvalue (hfocus value)⟩

theorem isOrdered_operandRead (hpending : InOrder pending)
    (henclosing : ∀ e ∈ enclosing, InOrder e.2) (value : Expr) :
    (operandRead ⟨pending, enclosing, focus⟩ value).IsOrdered := by
  refine ⟨hpending.endOperators .sign value, henclosing, fun _ _ p hp htier => ?_⟩
  have hrank := hpending.rank_lt .sign value p hp
  rw [htier] at hrank
  exact Nat.lt_irrefl _ hrank

/-- One more operator may wait inside others that bind no tighter. -/
theorem inOrder_cons {p : Pending} (h : ∀ q ∈ pending, q.tier.rank ≤ p.tier.rank)
    (hpending : InOrder pending) : InOrder (p :: pending) :=
  List.pairwise_cons.mpr ⟨h, hpending⟩

theorem outline_operandRead (h : InOrder pending) (value : Expr) :
    (operandRead ⟨pending, enclosing, focus⟩ value).outline =
      Outline.operandRead (pendingLevels pending ++ enclosingLevels enclosing)
        (enclosingParts enclosing ++ pendingParts pending ++ value.parts) := by
  simp only [operandRead, outline, Outline.operandRead, levels_endSigns h value, List.append_assoc,
    parts_endOperators]

theorem rank_le_sign (p : Pending) : p.tier.rank ≤ Tier.rank .sign := by
  cases p <;> simp [Pending.tier, Tier.rank]

theorem isOrdered_beginOperand (hpending : InOrder pending)
    (henclosing : ∀ e ∈ enclosing, InOrder e.2) {t : Token} {after : Draft}
    (h : beginOperand ⟨pending, enclosing, focus⟩ t = .ok after) : after.IsOrdered := by
  have hsign : ∀ op, InOrder (Pending.sign op :: pending) := fun op =>
    inOrder_cons (fun q _ => rank_le_sign q) hpending
  unfold beginOperand at h
  split at h
  · cases h
    exact isOrdered_operandRead hpending henclosing _
  · cases h
    exact isOrdered_operandRead hpending henclosing _
  · cases h
    exact isOrdered_of_ne_complete hpending henclosing (by simp)
  · cases h
    exact isOrdered_of_ne_complete (hsign .pos) henclosing (by simp)
  · cases h
    exact isOrdered_of_ne_complete (hsign .neg) henclosing (by simp)
  · cases h
    refine isOrdered_of_ne_complete List.Pairwise.nil (fun e he => ?_) (by simp)
    rcases List.mem_cons.mp he with rfl | he
    · exact hpending
    · exact henclosing e he
  · cases h

theorem outline_beginOperand (h : InOrder pending) (t : Token) :
    (beginOperand ⟨pending, enclosing, focus⟩ t).map outline =
      Outline.beginOperand (outline ⟨pending, enclosing, .operand⟩) t := by
  obtain ⟨lexeme, pos⟩ := t
  cases lexeme with
  | number text value =>
      exact congrArg Except.ok (outline_operandRead h (.number value))
  | constant name => exact congrArg Except.ok (outline_operandRead h (.constant name))
  | function name => rfl
  | operator op =>
      cases op with
      | plus | minus =>
          simp [beginOperand, Except.map, Outline.beginOperand, await, outline, pendingParts,
            Pending.parts, pendingLevels_cons, Pending.level?]
      | _ => rfl
  | leftParen =>
      simp [beginOperand, Except.map, Outline.beginOperand, openBracket, outline, pendingParts,
        enclosingParts, Bracket.parts, enclosingLevels, Bracket.level, pendingLevels]
  | rightParen => rfl
  | comma => rfl

/-- Only a power with a tier of its own opens a level. -/
theorem levelsAfter_of_joins {op : Operator} {operation : BinaryOp}
    (hop : op.sum? = some operation ∨ op.product? conventional = some operation)
    (levels : List Level) :
    Outline.levelsAfter conventional levels op = levels.dropWhile Level.isPower := by
  have hpower : (conventional && op = .power) = false := by
    rcases hop with hop | hop
    · cases op with
      | power => cases hop
      | _ => simp
    · cases op with
      | power =>
          cases conventional with
          | false => rfl
          | true => cases hop
      | _ => simp
  simp only [Outline.levelsAfter, hpower, Bool.false_eq_true, if_false]

variable {value : Expr}

/-- An operator after an operand. -/
theorem outline_advance_operator (h : IsOrdered ⟨pending, enclosing, .complete value⟩) {t : Token}
    {op : Operator} (ht : t.lexeme = .operator op) :
    ∃ after, advance conventional ⟨pending, enclosing, .complete value⟩ t = .ok after ∧
      after.IsOrdered ∧
      after.outline =
        ⟨Outline.levelsAfter conventional (pendingLevels pending ++ enclosingLevels enclosing) op,
          .operand, enclosingParts enclosing ++ pendingParts pending ++ value.parts ++
            [.operation op.operation]⟩ := by
  have hsigns : ∀ p ∈ pending, p.tier ≠ .sign := h.complete value rfl
  rcases op.joins_cases conventional with ⟨operation, hop⟩ | ⟨operation, hop⟩ | ⟨rfl, rfl⟩
  · -- a sum ends all that waits inside the innermost parenthesis
    refine ⟨_, advance_sum hop ht, ?_, ?_⟩
    · exact isOrdered_of_ne_complete (List.pairwise_singleton _ _) h.enclosing (by simp)
    · rw [levelsAfter_of_joins (Or.inl hop), levels_endPowers hsigns,
        Operator.operation_of_sum? hop]
      simp [outline, pendingLevels, Pending.level?, pendingParts, Pending.parts, parts_endAll]
  · -- a product ends the products and powers that wait, and a sum that is left opens no level
    have hrank := h.pending.rank_lt .product value
    have hlow : pendingLevels (endOperators .product value pending).2 = [] :=
      pendingLevels_of_rank fun q hq => Nat.lt_trans (hrank q hq) (by decide)
    refine ⟨_, advance_product hop ht, ?_, ?_⟩
    · refine isOrdered_of_ne_complete (inOrder_cons (fun q hq => ?_) ?_) h.enclosing (by simp)
      · exact Nat.le_of_lt (hrank q hq)
      · exact h.pending.endOperators .product value
    · rw [levelsAfter_of_joins (Or.inr hop), levels_endPowers hsigns,
        Operator.operation_of_product? hop]
      have hparts := parts_endOperators .product value pending
      simp only [outline, pendingLevels_cons, Pending.level?, Option.toList_none, List.nil_append,
        hlow, pendingParts, Pending.parts, List.append_assoc]
      rw [← List.append_assoc (pendingParts (endOperators .product value pending).2), hparts,
        List.append_assoc]
  · -- a power ends nothing, and waits inside all that waits
    refine ⟨_, advance_power ht, ?_, ?_⟩
    · refine isOrdered_of_ne_complete (inOrder_cons (fun q hq => ?_) h.pending) h.enclosing
        (by simp)
      cases q with
      | sign op => exact absurd rfl (hsigns (.sign op) hq)
      | _ => simp [Pending.tier, Tier.rank]
    · simp [outline, pendingLevels_cons, Pending.level?, pendingParts, Pending.parts,
        Outline.levelsAfter, Operator.operation]

/-- Another token after an operand. -/
theorem outline_endExpression (h : IsOrdered ⟨pending, enclosing, .complete value⟩) (t : Token) :
    (endExpression ⟨pending, enclosing, .complete value⟩ value t).map outline =
      Outline.endExpression (outline ⟨pending, enclosing, .complete value⟩) t := by
  have hpowers := levels_endPowers (h.complete value rfl) enclosing
  obtain ⟨lexeme, pos⟩ := t
  simp only [endExpression, Outline.endExpression, outline, hpowers]
  cases enclosing with
  | nil => rfl
  | cons e outer =>
      obtain ⟨bracket, outside⟩ := e
      have houtside : InOrder outside := h.enclosing (bracket, outside) (by simp)
      cases bracket with
      | group opened =>
          cases lexeme with
          | rightParen =>
              refine congrArg Except.ok ((outline_operandRead houtside _).trans ?_)
              simp [parts_endAll, enclosingParts, Bracket.parts]
          | _ => rfl
      | call name arguments =>
          cases lexeme with
          | rightParen =>
              refine congrArg Except.ok ((outline_operandRead houtside _).trans ?_)
              simp [parts_endAll, enclosingParts, Bracket.parts, Expr.parts,
                Expr.argumentParts_append, Expr.argumentParts]
          | comma =>
              simp [Except.map, outline, parts_endAll, enclosingParts, Bracket.parts, Bracket.level,
                enclosingLevels, pendingLevels, pendingParts, Expr.argumentParts_append,
                Expr.argumentParts]
          | _ => rfl

theorem isOrdered_endExpression (h : IsOrdered ⟨pending, enclosing, .complete value⟩) {t : Token}
    {after : Draft} (ht : endExpression ⟨pending, enclosing, .complete value⟩ value t = .ok after) :
    after.IsOrdered := by
  cases enclosing with
  | nil => cases ht
  | cons e outer =>
      obtain ⟨bracket, outside⟩ := e
      have houtside : InOrder outside := h.enclosing (bracket, outside) (by simp)
      have houter : ∀ e ∈ outer, InOrder e.2 := fun e he =>
        h.enclosing e (List.mem_cons_of_mem _ he)
      unfold endExpression at ht
      cases bracket with
      | group opened =>
          dsimp only at ht
          split at ht
          · cases ht
            exact isOrdered_operandRead houtside houter _
          · cases ht
      | call name arguments =>
          dsimp only at ht
          split at ht
          · cases ht
            exact isOrdered_operandRead houtside houter _
          · cases ht
            refine isOrdered_of_ne_complete List.Pairwise.nil (fun e he => ?_) (by simp)
            rcases List.mem_cons.mp he with rfl | he
            · exact houtside
            · exact houter e he
          · cases ht

/-- A token does to the outline of a draft what it does to the draft. -/
theorem outline_advance (conventional : Bool) {s : Draft} (h : s.IsOrdered) (t : Token) :
    (s.advance conventional t).map outline = s.outline.advance conventional t := by
  obtain ⟨pending, enclosing, focus⟩ := s
  cases focus with
  | operand =>
      rw [advance_operand]
      exact outline_beginOperand h.pending t
  | callee name =>
      rw [advance_callee]
      obtain ⟨lexeme, pos⟩ := t
      cases lexeme <;> rfl
  | arguments name =>
      rw [advance_arguments]
      have hfirst : (beginOperand ⟨[], (.call name [], pending) :: enclosing, .operand⟩ t).map
          outline = _ := outline_beginOperand List.Pairwise.nil t
      obtain ⟨lexeme, pos⟩ := t
      cases lexeme with
      | rightParen =>
          refine congrArg Except.ok ((outline_operandRead h.pending _).trans ?_)
          simp [outline, Expr.parts, Expr.argumentParts]
      | _ =>
          refine hfirst.trans ?_
          simp [outline, Outline.advance, Outline.beginOperand, enclosingLevels, Bracket.level,
            pendingLevels, enclosingParts, Bracket.parts, pendingParts, Expr.argumentParts]
  | complete value =>
      cases hlexeme : t.lexeme with
      | operator op =>
          obtain ⟨after, hadvance, -, houtline⟩ := outline_advance_operator h hlexeme
          rw [hadvance]
          refine (congrArg Except.ok houtline).trans ?_
          simp only [Outline.advance, outline, hlexeme]
      | _ =>
          have hend := outline_endExpression h t
          simpa only [advance, step, Outline.advance, outline, hlexeme] using hend

/-- Operators stay in order. -/
theorem IsOrdered.advance {s after : Draft} (h : s.IsOrdered) {t : Token}
    (ht : s.advance conventional t = .ok after) : after.IsOrdered := by
  obtain ⟨pending, enclosing, focus⟩ := s
  cases focus with
  | operand =>
      rw [advance_operand] at ht
      exact isOrdered_beginOperand h.pending h.enclosing ht
  | callee name =>
      rw [advance_callee] at ht
      split at ht <;> cases ht
      exact isOrdered_of_ne_complete h.pending h.enclosing (by simp)
  | arguments name =>
      rw [advance_arguments] at ht
      split at ht
      · cases ht
        exact isOrdered_operandRead h.pending h.enclosing _
      · refine isOrdered_beginOperand List.Pairwise.nil (fun e he => ?_) ht
        rcases List.mem_cons.mp he with rfl | he
        · exact h.pending
        · exact h.enclosing e he
  | complete value =>
      cases hlexeme : t.lexeme with
      | operator op =>
          obtain ⟨next, hadvance, hordered, -⟩ := outline_advance_operator h hlexeme
          obtain rfl : next = after := Except.ok.inj (hadvance.symm.trans ht)
          exact hordered
      | _ =>
          simp only [Draft.advance, step, hlexeme] at ht
          exact isOrdered_endExpression h ht

/-- The end of the input does to the outline of a draft what it does to the draft. -/
theorem outline_conclude (conventional : Bool) {s : Draft} (h : s.IsOrdered) (pos : Nat) :
    (s.conclude conventional pos).map Expr.parts = s.outline.conclude pos := by
  obtain ⟨pending, enclosing, focus⟩ := s
  cases focus with
  | operand | arguments name =>
      simp only [conclude, finish, tooNested_eq, exceeds_self]
      rfl
  | callee name => rfl
  | complete value =>
      have hpowers := levels_endPowers (h.complete value rfl) enclosing
      simp only [conclude, finish, Outline.conclude, outline, hpowers]
      cases enclosing with
      | nil => simp [Except.map, parts_endAll, enclosingParts, enclosingLevels]
      | cons e outer =>
          obtain ⟨bracket, outside⟩ := e
          cases bracket <;> rfl

end Draft

/-! ## Runs -/

namespace Draft

variable {conventional : Bool}

theorem IsOrdered.foldlM {s after : Draft} (h : s.IsOrdered) {ts : List Token}
    (hts : ts.foldlM (Draft.advance conventional) s = .ok after) : after.IsOrdered :=
  foldlM_advance_induction (P := fun _ s => s.IsOrdered) (fun hs ht => hs.advance ht) [] h hts

/-- A run of drafts is a run of their outlines. -/
theorem outline_foldlM (conventional : Bool) {s : Draft} (h : s.IsOrdered) (ts : List Token) :
    (ts.foldlM (advance conventional) s).map outline =
      ts.foldlM (Outline.advance conventional) s.outline := by
  induction ts generalizing s with
  | nil => rfl
  | cons t rest ih =>
      have hstep := outline_advance conventional h t
      rw [List.foldlM_cons, List.foldlM_cons, ← hstep]
      cases ht : s.advance conventional t with
      | error fault => rfl
      | ok next => exact ih (h.advance ht)

end Draft

namespace Scan

/-- Read the tokens of a scan in outline, without a limit: the parts of the expression. -/
def readParts (conventional : Bool) (s : Scan) : Except ParseError (List Part) :=
  match s.tokens.foldlM (Outline.advance conventional) Outline.start with
  | .error fault => .error (.grammar fault)
  | .ok o =>
      match s.stop with
      | .fault fault => .error (.lexical fault)
      | .endOfInput pos => (o.conclude pos).mapError .grammar

/-- A tree that is read has the parts that are read in outline, and where there is none the errors
are the same. -/
theorem map_parts_read (conventional : Bool) (s : Scan) :
    (s.read conventional).map Expr.parts = s.readParts conventional := by
  have hrun := Draft.outline_foldlM conventional Draft.isOrdered_start s.tokens
  rw [show Draft.start.outline = Outline.start from rfl] at hrun
  rw [read, readParts, ← hrun]
  cases hts : s.tokens.foldlM (Draft.advance conventional) Draft.start with
  | error fault => rfl
  | ok state =>
      simp only [Except.map]
      cases s.stop with
      | fault fault => rfl
      | endOfInput pos =>
          have hordered : state.IsOrdered := Draft.isOrdered_start.foldlM hts
          simp only [← Draft.outline_conclude conventional hordered]
          cases state.conclude conventional pos <;> rfl

end Scan

end Calculator
