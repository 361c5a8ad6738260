import Calculator.Proofs.Grammar.CallSites
import Calculator.Proofs.Grammar.DraftOutline
import Calculator.Proofs.Token.Rendering

/-!
# Parentheses that are not closed

`LeavesOpen ts levels` says which parentheses are open after the tokens `ts`, the innermost first:
between two of them, and after the last one, all parentheses match. A draft keeps just these
parentheses (`Draft.KeepsOpen`), whatever it has read inside them, and an error about a parenthesis
is about the innermost one that it keeps (`Draft.KeepsOpen.leavesOpen_of_advance`).

So an error blames the innermost parenthesis that is open where the error stands: a parenthesis
around an expression at its own position, and one around arguments by the name of the function in
front of it (`parse_error_blames_innermost_open`).
-/

set_option autoImplicit false

namespace Calculator

variable {host : Host}

/-! ## Parentheses that are left open -/

/-- The last token is no name of a function. -/
def EndsOutsideCall (ts : List Token) : Prop := ∀ t ∈ ts.getLast?, t.isCallee = false

theorem endsOutsideCall_concat (ts : List Token) {t : Token} {l : Lexeme} (ht : t.lexeme = l)
    (hl : l.kind ≠ "function") : EndsOutsideCall (ts ++ [t]) := by
  intro last hlast
  rw [List.getLast?_concat] at hlast
  cases hlast
  exact Token.isCallee_eq_false ht hl

/-- The parentheses that the tokens leave open, the innermost first. -/
inductive LeavesOpen : List Token → List Level → Prop
  | none {ts : List Token} :
      Lexeme.IsBalanced true (ts.map Token.lexeme) → LeavesOpen ts []
  | group {before inside : List Token} {opening : Token} {levels : List Level} :
      LeavesOpen before levels → EndsOutsideCall before → opening.lexeme = .leftParen →
      Lexeme.IsBalanced true (inside.map Token.lexeme) →
      LeavesOpen (before ++ opening :: inside) (.group opening.pos :: levels)
  | call {before inside : List Token} {callee opening : Token} {name : String}
      {levels : List Level} :
      LeavesOpen before levels → callee.lexeme = .function name → opening.lexeme = .leftParen →
      Lexeme.IsBalanced true (inside.map Token.lexeme) →
      LeavesOpen (before ++ callee :: opening :: inside) (.call name :: levels)

namespace LeavesOpen

variable {ts us : List Token} {level : Level} {levels : List Level} {t callee opening : Token}
  {name : String}

/-- Tokens whose parentheses match open and close nothing. -/
theorem append (h : LeavesOpen ts levels) (hus : Lexeme.IsBalanced true (us.map Token.lexeme)) :
    LeavesOpen (ts ++ us) levels := by
  have hmore : ∀ {inside : List Token}, Lexeme.IsBalanced true (inside.map Token.lexeme) →
      Lexeme.IsBalanced true ((inside ++ us).map Token.lexeme) := by
    intro inside hinside
    rw [List.map_append]
    exact hinside.append hus
  cases h with
  | none hts => exact .none (hmore hts)
  | group hbefore hends hopening hinside =>
      rw [List.append_assoc]
      exact .group hbefore hends hopening (hmore hinside)
  | call hbefore hcallee hopening hinside =>
      rw [List.append_assoc]
      exact .call hbefore hcallee hopening (hmore hinside)

/-- A token that is no parenthesis. -/
theorem concat (h : LeavesOpen ts levels) (hleft : t.lexeme ≠ .leftParen)
    (hright : t.lexeme ≠ .rightParen) : LeavesOpen (ts ++ [t]) levels :=
  h.append (.singleton hleft hright fun _ => rfl)

/-- A closing parenthesis closes the innermost one. -/
theorem close (h : LeavesOpen ts (level :: levels)) (ht : t.lexeme = .rightParen) :
    LeavesOpen (ts ++ [t]) levels := by
  cases h with
  | @group before inside opening _ hbefore hends hopening hinside =>
      have hwhole : Lexeme.IsBalanced true ((opening :: (inside ++ [t])).map Token.lexeme) := by
        simpa [hopening, ht] using hinside.enclose
      simpa using hbefore.append hwhole
  | @call before inside callee opening name _ hbefore hcallee hopening hinside =>
      have hwhole : Lexeme.IsBalanced true
          ((callee :: opening :: (inside ++ [t])).map Token.lexeme) := by
        have harguments : Lexeme.IsBalanced true _ := hinside.enclose
        simpa [hcallee, hopening, ht] using
          Lexeme.IsBalanced.other (l := .function name) (by simp) (by simp) (by simp) harguments
      simpa using hbefore.append hwhole

end LeavesOpen

/-! ## What a draft keeps -/

namespace Draft

variable {conventional : Bool} {ts : List Token} {pending : List Pending}
  {enclosing : List (Bracket × List Pending)} {focus : Focus} {t : Token} {after : Draft}

/-- The parentheses that are open around what comes next. -/
def openLevels (enclosing : List (Bracket × List Pending)) : List Level :=
  enclosing.map fun e => e.1.level

/-- The draft keeps the parentheses that the tokens leave open. A name of a function, and the
parenthesis behind it, are kept apart until the first argument begins. -/
def KeepsOpen (ts : List Token) (s : Draft) : Prop :=
  match s.focus with
  | .operand => LeavesOpen ts (openLevels s.enclosing) ∧ EndsOutsideCall ts
  | .callee name => ∃ before callee, ts = before ++ [callee] ∧ callee.lexeme = .function name ∧
      LeavesOpen before (openLevels s.enclosing)
  | .arguments name => ∃ before callee opening, ts = before ++ [callee, opening] ∧
      callee.lexeme = .function name ∧ opening.lexeme = .leftParen ∧
      LeavesOpen before (openLevels s.enclosing)
  | .complete _ => LeavesOpen ts (openLevels s.enclosing)

theorem keepsOpen_start : KeepsOpen [] start := by
  refine ⟨.none (.nil true), ?_⟩
  rintro t ⟨⟩

theorem keepsOpen_beginOperand (h : LeavesOpen ts (openLevels enclosing))
    (hends : EndsOutsideCall ts) (ht : beginOperand ⟨pending, enclosing, focus⟩ t = .ok after) :
    KeepsOpen (ts ++ [t]) after := by
  have hsign : ∀ op, t.lexeme = .operator op →
      LeavesOpen (ts ++ [t]) (openLevels enclosing) ∧ EndsOutsideCall (ts ++ [t]) := by
    intro op hlexeme
    exact ⟨h.concat (by simp [hlexeme]) (by simp [hlexeme]),
      endsOutsideCall_concat ts hlexeme (by simp [Lexeme.kind])⟩
  -- a number, a constant, a name of a function, two signs and a parenthesis can begin an operand
  unfold beginOperand at ht
  split at ht
  · next hlexeme =>
      cases ht
      exact h.concat (by simp [hlexeme]) (by simp [hlexeme])
  · next hlexeme =>
      cases ht
      exact h.concat (by simp [hlexeme]) (by simp [hlexeme])
  · next hlexeme =>
      cases ht
      exact ⟨ts, t, rfl, hlexeme, h⟩
  · next hlexeme =>
      cases ht
      exact hsign _ hlexeme
  · next hlexeme =>
      cases ht
      exact hsign _ hlexeme
  · next hlexeme =>
      cases ht
      exact ⟨.group h hends hlexeme (.nil true),
        endsOutsideCall_concat ts hlexeme (by simp [Lexeme.kind])⟩
  · cases ht

/-- An operator after an operand leaves the parentheses alone. -/
theorem afterOperand_enclosing (rules : Rules) (s : Draft) (value : Expr) (op : Operator) :
    (s.afterOperand rules value op).enclosing = s.enclosing ∧
      (s.afterOperand rules value op).focus = .operand := by
  rcases op.joins_cases rules.conventionalPower with
    ⟨operation, hop⟩ | ⟨operation, hop⟩ | ⟨hpower, rfl⟩
  · rw [afterOperand_sum _ _ _ hop]
    exact ⟨rfl, rfl⟩
  · rw [afterOperand_product _ _ hop]
    exact ⟨rfl, rfl⟩
  · simp only [afterOperand, hpower, if_true, await, and_self]

theorem keepsOpen_endExpression {value : Expr} (h : LeavesOpen ts (openLevels enclosing))
    (ht : endExpression ⟨pending, enclosing, focus⟩ value t = .ok after) :
    KeepsOpen (ts ++ [t]) after := by
  unfold endExpression at ht
  dsimp only at ht
  split at ht
  · cases ht
  · split at ht
    · next hlexeme =>
        cases ht
        exact h.close hlexeme
    · cases ht
  · split at ht
    · next hlexeme =>
        cases ht
        exact h.close hlexeme
    · next hlexeme =>
        cases ht
        exact ⟨h.concat (by simp [hlexeme]) (by simp [hlexeme]),
          endsOutsideCall_concat ts hlexeme (by simp [Lexeme.kind])⟩
    · cases ht

/-- After every token that is read, a draft keeps the parentheses that are left open. -/
theorem KeepsOpen.advance {s : Draft} (h : s.KeepsOpen ts)
    (ht : s.advance conventional t = .ok after) : after.KeepsOpen (ts ++ [t]) := by
  obtain ⟨pending, enclosing, focus⟩ := s
  cases focus with
  | operand =>
      obtain ⟨hopen, hends⟩ := h
      rw [advance_operand] at ht
      exact keepsOpen_beginOperand hopen hends ht
  | callee name =>
      obtain ⟨before, callee, rfl, hcallee, hopen⟩ := h
      rw [advance_callee] at ht
      split at ht
      · next hlexeme =>
          cases ht
          exact ⟨before, callee, t, by simp, hcallee, hlexeme, hopen⟩
      · cases ht
  | arguments name =>
      obtain ⟨before, callee, opening, rfl, hcallee, hopening, hopen⟩ := h
      -- the parenthesis is open from here on, also where the next token closes it
      have hcall : LeavesOpen (before ++ [callee, opening])
          (openLevels ((.call name [], pending) :: enclosing)) :=
        .call hopen hcallee hopening (.nil true)
      rw [advance_arguments] at ht
      split at ht
      · next hlexeme =>
          cases ht
          exact hcall.close hlexeme
      · have hends : EndsOutsideCall (before ++ [callee, opening]) := by
          rw [List.append_cons]
          exact endsOutsideCall_concat _ hopening (by simp [Lexeme.kind])
        exact keepsOpen_beginOperand hcall hends ht
  | complete value =>
      simp only [Draft.advance, step] at ht
      split at ht
      · next op hlexeme =>
          obtain ⟨henclosing, hfocus⟩ := afterOperand_enclosing
            ⟨conventional, levels ⟨pending, enclosing, .complete value⟩⟩
            ⟨pending, enclosing, .complete value⟩ value op
          cases ht
          simp only [KeepsOpen, hfocus, henclosing]
          exact ⟨LeavesOpen.concat h (by simp [hlexeme]) (by simp [hlexeme]),
            endsOutsideCall_concat ts hlexeme (by simp [Lexeme.kind])⟩
      · exact keepsOpen_endExpression h ht

end Draft

/-! ## What an error is about -/

/-- The parenthesis that an error is about. -/
def GrammarError.level? : GrammarError → Option Level
  | .unclosedGroup opened => some (.group opened)
  | .unclosedArguments function => some (.call function)
  | _ => none

namespace Draft

variable {conventional : Bool} {ts : List Token} {pending : List Pending}
  {enclosing : List (Bracket × List Pending)} {focus : Focus} {t : Token} {s : Draft}
  {fault : GrammarFault} {level : Level}

theorem level?_of_beginOperand (h : s.beginOperand t = .error fault) :
    fault.cause.level? = none := by
  unfold beginOperand at h
  split at h <;> cases h
  rfl

theorem level?_of_endExpression {value : Expr}
    (h : endExpression ⟨pending, enclosing, focus⟩ value t = .error fault)
    (hlevel : fault.cause.level? = some level) :
    ∃ levels, openLevels enclosing = level :: levels := by
  unfold endExpression at h
  dsimp only at h
  split at h
  · cases h
    cases hlevel
  · split at h <;> cases h
    cases hlevel
    exact ⟨_, rfl⟩
  · split at h <;> cases h
    cases hlevel
    exact ⟨_, rfl⟩

/-- A token is refused only for the innermost parenthesis that is left open. -/
theorem KeepsOpen.leavesOpen_of_advance (h : s.KeepsOpen ts)
    (ht : s.advance conventional t = .error fault) (hlevel : fault.cause.level? = some level) :
    ∃ levels, LeavesOpen ts (level :: levels) := by
  obtain ⟨pending, enclosing, focus⟩ := s
  cases focus with
  | operand =>
      rw [advance_operand] at ht
      cases (level?_of_beginOperand ht).symm.trans hlevel
  | callee name =>
      rw [advance_callee] at ht
      split at ht <;> cases ht
      cases hlevel
  | arguments name =>
      rw [advance_arguments] at ht
      split at ht
      · cases ht
      · cases (level?_of_beginOperand ht).symm.trans hlevel
  | complete value =>
      simp only [Draft.advance, step] at ht
      split at ht
      · cases ht
      · obtain ⟨levels, henclosing⟩ := level?_of_endExpression ht hlevel
        exact ⟨levels, henclosing ▸ h⟩

/-- The end of the input is refused only for the innermost parenthesis that is left open. -/
theorem KeepsOpen.leavesOpen_of_conclude {pos : Nat} (h : s.KeepsOpen ts)
    (hend : s.conclude conventional pos = .error fault)
    (hlevel : fault.cause.level? = some level) : ∃ levels, LeavesOpen ts (level :: levels) := by
  obtain ⟨pending, enclosing, focus⟩ := s
  cases focus with
  | operand | arguments name =>
      simp only [conclude, finish, tooNested_eq, exceeds_self, Bool.false_eq_true, if_false] at hend
      cases hend
      cases hlevel
  | callee name =>
      cases hend
      cases hlevel
  | complete value =>
      simp only [conclude, finish] at hend
      split at hend <;> cases hend <;> cases hlevel <;> exact ⟨_, h⟩

theorem keepsOpen_of_foldlM (h : ts.foldlM (advance conventional) start = .ok s) :
    s.KeepsOpen ts :=
  foldlM_advance_induction (P := KeepsOpen) (fun hs ht => hs.advance ht) [] keepsOpen_start h

end Draft

/-! ## Parentheses in a source -/

/-- The tokens that stand between two positions. -/
def tokensBetween (ts : List Token) (first last : Nat) : List Token :=
  ts.filter fun t => first < t.pos && t.pos < last

/-- The innermost parenthesis that is open at a position: what stands between the two has matching
parentheses. -/
structure IsInnermostOpen (ts : List Token) (opening : Token) (pos : Nat) : Prop where
  mem : opening ∈ ts
  isLeftParen : opening.lexeme = .leftParen
  pos_lt : opening.pos < pos
  isBalanced : Lexeme.IsBalanced true ((tokensBetween ts opening.pos pos).map Token.lexeme)

/-- One token stands right after another. -/
def Follows (ts : List Token) (first second : Token) : Prop :=
  ∃ before after, ts = before ++ first :: second :: after

section Ascending

variable {before inside rest : List Token} {opening t : Token} {pos : Nat}
  (hascending :
    ((before ++ opening :: (inside ++ rest)).map Token.pos).Pairwise (· < ·))
include hascending

/-- The tokens around one of them stand before and after it. -/
theorem pos_lt_of_ascending :
    (∀ t ∈ before, t.pos < opening.pos) ∧ ∀ t ∈ inside ++ rest, opening.pos < t.pos := by
  rw [List.map_append, List.map_cons, List.pairwise_append, List.pairwise_cons] at hascending
  obtain ⟨-, ⟨hafter, -⟩, hbefore⟩ := hascending
  exact ⟨fun t ht => hbefore t.pos (List.mem_map_of_mem ht) opening.pos List.mem_cons_self,
    fun t ht => hafter t.pos (List.mem_map_of_mem ht)⟩

/-- What stands between a token and a position behind it. -/
theorem tokensBetween_eq (hinside : ∀ t ∈ inside, t.pos < pos) (hrest : ∀ t ∈ rest, pos ≤ t.pos) :
    tokensBetween (before ++ opening :: (inside ++ rest)) opening.pos pos = inside := by
  obtain ⟨hbefore, hafter⟩ := pos_lt_of_ascending hascending
  have hnone : tokensBetween before opening.pos pos = [] := by
    refine List.filter_eq_nil_iff.mpr fun t ht => ?_
    have hlt := hbefore t ht
    simp only [Bool.and_eq_true, decide_eq_true_eq]
    omega
  have hall : tokensBetween inside opening.pos pos = inside := by
    refine List.filter_eq_self.mpr fun t ht => ?_
    have hgt := hafter t (List.mem_append_left _ ht)
    have hlt := hinside t ht
    simp only [Bool.and_eq_true, decide_eq_true_eq]
    omega
  have hbehind : tokensBetween rest opening.pos pos = [] := by
    refine List.filter_eq_nil_iff.mpr fun t ht => ?_
    have hge := hrest t ht
    simp only [Bool.and_eq_true, decide_eq_true_eq]
    omega
  simp only [tokensBetween] at hnone hall hbehind ⊢
  rw [List.filter_append, hnone, List.filter_cons_of_neg (by simp), List.filter_append, hall,
    hbehind, List.append_nil, List.nil_append]

theorem isInnermostOpen_of_ascending (hopening : opening.lexeme = .leftParen)
    (hbalanced : Lexeme.IsBalanced true (inside.map Token.lexeme)) (hpos : opening.pos < pos)
    (hinside : ∀ t ∈ inside, t.pos < pos) (hrest : ∀ t ∈ rest, pos ≤ t.pos) :
    IsInnermostOpen (before ++ opening :: (inside ++ rest)) opening pos where
  mem := by simp
  isLeftParen := hopening
  pos_lt := hpos
  isBalanced := by rwa [tokensBetween_eq hascending hinside hrest]

/-- The token in front of another one is the last of those before it. -/
theorem getLast?_of_follows
    (h : Follows (before ++ opening :: (inside ++ rest)) t opening) : before.getLast? = some t := by
  obtain ⟨hbefore, hafter⟩ := pos_lt_of_ascending hascending
  obtain ⟨us, vs, hts⟩ := h
  rw [List.append_cons us] at hts
  have hsplit := (List.append_cons_inj_of_notMem
    (fun hmem => Nat.lt_irrefl _ (hbefore opening hmem))
    (fun hmem => Nat.lt_irrefl _ (hafter opening hmem))).mp hts
  rw [hsplit.1, List.getLast?_concat]

end Ascending

/-- The tokens of a source, up to its end or the first lexeme that is none. -/
def tokensOf (registry : Registry) (settings : Settings) (source : String) : List Token :=
  (Scan.ofSource ⟨registry, settings.nameLimit⟩ source).tokens

variable {registry : Registry} {settings : Settings} {source : String}

/-- An error about a parenthesis stands behind tokens that leave this parenthesis open, as the
innermost one. -/
theorem exists_leavesOpen_of_parse {fault : GrammarFault} {level : Level}
    (h : parse host registry settings source = .error (.grammar fault))
    (hlevel : fault.cause.level? = some level) :
    ∃ before rest levels, tokensOf registry settings source = before ++ rest ∧
      LeavesOpen before (level :: levels) ∧ (∀ t ∈ before, t.pos < fault.pos) ∧
      ∀ t ∈ rest, fault.pos ≤ t.pos := by
  -- an error about nesting is about no parenthesis, so the limit plays no part
  have hnesting : (ParseError.grammar fault).isNesting = false := by
    obtain ⟨cause, pos⟩ := fault
    cases cause with
    | tooNested limit => cases hlevel
    | _ => rfl
  cases Scan.fails_of_read (read_of_parse_eq_error h hnesting) with
  | @token before after t state _ htokens hbefore ht =>
      obtain ⟨levels, hopen⟩ := (Draft.keepsOpen_of_foldlM hbefore).leavesOpen_of_advance ht hlevel
      have hpos : fault.pos = t.pos := (Draft.advance_eq_error ht).1
      have hascending : ((before ++ t :: (after ++ [])).map Token.pos).Pairwise (· < ·) := by
        rw [List.append_nil, ← htokens]
        exact Scan.pairwise_pos ⟨registry, settings.nameLimit⟩ source
      obtain ⟨hlt, hgt⟩ := pos_lt_of_ascending hascending
      refine ⟨before, t :: after, levels, htokens, hopen, fun u hu => ?_, fun u hu => ?_⟩
      · rw [hpos]
        exact hlt u hu
      · rw [hpos]
        rcases List.mem_cons.mp hu with rfl | hu
        · exact Nat.le_refl _
        · exact Nat.le_of_lt (hgt u (by simpa using hu))
  | endOfInput hrun hstop hend =>
      obtain ⟨levels, hopen⟩ := (Draft.keepsOpen_of_foldlM hrun).leavesOpen_of_conclude hend hlevel
      refine ⟨_, [], levels, (List.append_nil _).symm, hopen, fun u hu => ?_, by simp⟩
      rw [Scan.pos_of_stop hstop]
      exact Scan.pos_lt_length hu

/-- An error about a parenthesis is about the innermost one that is open where the error stands. If
it is told by its position, it stands there and belongs to no call. If it is told by a function, it
stands right behind the name of this function. -/
theorem parse_error_blames_innermost_open (host : Host) (registry : Registry)
    (settings : Settings) (source : String) (pos : Nat) :
    (∀ opened,
      parse host registry settings source = .error (.grammar ⟨.unclosedGroup opened, pos⟩) →
      opened < pos ∧ source.toList[opened]? = some '(' ∧
        ∃ opening, opening.pos = opened ∧
          IsInnermostOpen (tokensOf registry settings source) opening pos ∧
          ∀ t, Follows (tokensOf registry settings source) t opening → t.isCallee = false) ∧
    ∀ name,
      parse host registry settings source = .error (.grammar ⟨.unclosedArguments name, pos⟩) →
      ∃ callee opening, callee.lexeme = .function name ∧
        IsInnermostOpen (tokensOf registry settings source) opening pos ∧
        Follows (tokensOf registry settings source) callee opening := by
  have hascending := Scan.pairwise_pos ⟨registry, settings.nameLimit⟩ source
  constructor
  · intro opened h
    obtain ⟨before, rest, levels, htokens, hopen, hlt, hge⟩ := exists_leavesOpen_of_parse h rfl
    cases hopen with
    | @group outside inside opening _ _ hends hopening hbalanced =>
        have hmem : opening ∈ tokensOf registry settings source := by simp [htokens]
        rw [List.append_assoc, List.cons_append] at htokens
        rw [← tokensOf, htokens] at hascending
        have hpos : opening.pos < pos := hlt opening (by simp)
        refine ⟨hpos, Scan.getElem?_of_sign hmem (by rw [hopening]; rfl), opening, rfl, ?_,
          fun t ht => ?_⟩
        · rw [htokens]
          exact isInnermostOpen_of_ascending hascending hopening hbalanced hpos
            (fun u hu => hlt u (by simp [hu])) hge
        · rw [htokens] at ht
          exact hends t (getLast?_of_follows hascending ht)
  · intro name h
    obtain ⟨before, rest, levels, htokens, hopen, hlt, hge⟩ := exists_leavesOpen_of_parse h rfl
    cases hopen with
    | @call outside inside callee opening _ _ _ hcallee hopening hbalanced =>
        have hsplit : tokensOf registry settings source =
            (outside ++ [callee]) ++ opening :: (inside ++ rest) := by simp [htokens]
        rw [← tokensOf, hsplit] at hascending
        have hpos : opening.pos < pos := hlt opening (by simp)
        rw [hsplit]
        refine ⟨callee, opening, hcallee, ?_, outside, inside ++ rest, by simp⟩
        exact isInnermostOpen_of_ascending hascending hopening hbalanced hpos
          (fun u hu => hlt u (by simp [hu])) hge

/-- In `2*(3+(4)` the first parenthesis is blamed, and in `abs((1)` the one behind the name. -/
theorem blames_first_of_two_parentheses :
    parse .standard Registry.builtin {} "2*(3+(4)" = .error (.grammar ⟨.unclosedGroup 2, 8⟩) ∧
      parse .standard Registry.builtin {} "abs((1)" =
        .error (.grammar ⟨.unclosedArguments "abs", 7⟩) ∧
      (∃ opening, opening.pos = 2 ∧
        IsInnermostOpen (tokensOf Registry.builtin {} "2*(3+(4)") opening 8) ∧
      ∃ opening, IsInnermostOpen (tokensOf Registry.builtin {} "abs((1)") opening 7 := by
  have hgroup : parse .standard Registry.builtin {} "2*(3+(4)" =
      .error (.grammar ⟨.unclosedGroup 2, 8⟩) := parse_eq_error_iff.mpr (by decide +kernel)
  have hcall : parse .standard Registry.builtin {} "abs((1)" =
      .error (.grammar ⟨.unclosedArguments "abs", 7⟩) := parse_eq_error_iff.mpr (by decide +kernel)
  obtain ⟨-, -, opening, hpos, hinnermost, -⟩ :=
    (parse_error_blames_innermost_open .standard Registry.builtin {} "2*(3+(4)" 8).1 2 hgroup
  obtain ⟨-, other, -, hother, -⟩ :=
    (parse_error_blames_innermost_open .standard Registry.builtin {} "abs((1)" 7).2 "abs" hcall
  exact ⟨hgroup, hcall, ⟨opening, hpos, hinnermost⟩, other, hother⟩

end Calculator
