import Calculator.Expr.Parser

/-!
# Reading without a limit on nesting

`Draft.advance` and `Draft.conclude` are a step and the end of the input under a limit that admits
all levels that are open, so that nothing is ever nested too deeply, and `Scan.read` reads the
tokens of a scan with them. A limit changes nothing else: under any limit a run either goes as
without one or ends with the nesting error (`Draft.foldlM_step`), and the levels that decide it are
those of `Draft.peak`.
-/

set_option autoImplicit false

namespace Calculator

variable {host : Host}

/-! ## Levels against a limit -/

/-- A number of open levels is more than the limit admits. -/
def exceeds (limit : Int) (levels : Nat) : Bool := 0 < levels && limit < (levels : Int)

theorem exceeds_self (levels : Nat) : exceeds levels levels = false := by
  simp [exceeds]

theorem exceeds_zero (limit : Int) : exceeds limit 0 = false := by
  simp [exceeds]

/-- The larger of two numbers of levels is too large as soon as one of them is. -/
theorem exceeds_max (limit : Int) (m n : Nat) :
    exceeds limit (max m n) = (exceeds limit m || exceeds limit n) := by
  rw [Bool.eq_iff_iff]
  simp only [exceeds, Bool.and_eq_true, Bool.or_eq_true, decide_eq_true_eq]
  omega

/-- No limit is exceeded by no level at all, and a negative one is exceeded like zero. -/
theorem exceeds_iff {limit : Int} {levels : Nat} :
    exceeds limit levels = true ↔ limit.toNat < levels := by
  simp only [exceeds, Bool.and_eq_true, decide_eq_true_eq]
  omega

theorem exceeds_eq_false_iff {limit : Int} {levels : Nat} :
    exceeds limit levels = false ↔ levels ≤ limit.toNat := by
  rw [← Bool.not_eq_true, exceeds_iff, Nat.not_lt]

/-- The largest of several numbers of levels. -/
def mostOf (levels : List Nat) : Nat := levels.foldr max 0

theorem mostOf_cons (levels : Nat) (rest : List Nat) :
    mostOf (levels :: rest) = max levels (mostOf rest) := rfl

theorem mostOf_le_iff {levels : List Nat} {n : Nat} :
    mostOf levels ≤ n ↔ ∀ m ∈ levels, m ≤ n := by
  induction levels with
  | nil => simp [mostOf]
  | cons m rest ih => rw [mostOf_cons, Nat.max_le, ih, List.forall_mem_cons]

/-- A fault at this position that is no matter of nesting. -/
def GrammarFault.IsRefusal (fault : GrammarFault) (pos : Nat) : Prop :=
  fault.pos = pos ∧ ∀ limit, fault.cause ≠ .tooNested limit

namespace Draft

/-- The levels that are compared with the limit when something is read next: all that are open,
where an operand or an argument must begin, and none elsewhere. -/
def awaitedLevels (s : Draft) : Nat :=
  match s.focus with
  | .operand => s.levels
  | .arguments _ => s.levels
  | _ => 0

/-! ## One step -/

/-- Read one token, without a limit. -/
def advance (conventional : Bool) (s : Draft) (t : Token) : Except GrammarFault Draft :=
  s.step ⟨conventional, s.levels⟩ t

/-- Reach the end of the input, without a limit. -/
def conclude (conventional : Bool) (s : Draft) (pos : Nat) : Except GrammarFault Expr :=
  s.finish ⟨conventional, s.levels⟩ pos

theorem tooNested_eq (limit : Int) (s : Draft) : s.tooNested limit = exceeds limit s.levels := rfl

@[simp] theorem advance_operand (conventional : Bool) (pending : List Pending)
    (enclosing : List (Bracket × List Pending)) (t : Token) :
    advance conventional ⟨pending, enclosing, .operand⟩ t =
      beginOperand ⟨pending, enclosing, .operand⟩ t := by
  simp [advance, step, tooNested_eq, exceeds_self]

@[simp] theorem advance_callee (conventional : Bool) (pending : List Pending)
    (enclosing : List (Bracket × List Pending)) (name : String) (t : Token) :
    advance conventional ⟨pending, enclosing, .callee name⟩ t =
      match t.lexeme with
      | .leftParen => .ok ⟨pending, enclosing, .arguments name⟩
      | _ => .error ⟨.missingArguments name, t.pos⟩ := rfl

@[simp] theorem advance_arguments (conventional : Bool) (pending : List Pending)
    (enclosing : List (Bracket × List Pending)) (name : String) (t : Token) :
    advance conventional ⟨pending, enclosing, .arguments name⟩ t =
      match t.lexeme with
      | .rightParen => .ok (operandRead ⟨pending, enclosing, .arguments name⟩ (.call name []))
      | _ => beginOperand ⟨[], (.call name [], pending) :: enclosing, .operand⟩ t := by
  have hfits : ¬ tooNested (levels ⟨pending, enclosing, .arguments name⟩)
      ⟨pending, enclosing, .arguments name⟩ = true := by
    rw [tooNested_eq, exceeds_self]
    decide
  exact (if_neg hfits).trans rfl

/-- After an operand no level is looked at, so that the limit does not matter. -/
theorem afterOperand_congr (conventional : Bool) (m n : Int) (s : Draft) (value : Expr)
    (op : Operator) :
    s.afterOperand ⟨conventional, m⟩ value op = s.afterOperand ⟨conventional, n⟩ value op := by
  cases op <;> rfl

/-- A step under a limit is a step without one, unless too many levels are open. -/
theorem step_eq (rules : Rules) (s : Draft) (t : Token) :
    s.step rules t =
      if exceeds rules.nestingLimit s.awaitedLevels then
        .error ⟨.tooNested rules.nestingLimit, t.pos⟩
      else s.advance rules.conventionalPower t := by
  obtain ⟨pending, enclosing, focus⟩ := s
  cases focus with
  | operand =>
      simp only [awaitedLevels, advance_operand]
      rfl
  | arguments name =>
      simp only [awaitedLevels, advance_arguments]
      rfl
  | callee name =>
      simp only [awaitedLevels, exceeds_zero, advance_callee]
      rfl
  | complete value =>
      simp only [awaitedLevels, exceeds_zero, advance, step, Bool.false_eq_true, if_false]
      cases t.lexeme with
      | operator op => exact congrArg Except.ok (afterOperand_congr _ _ _ _ _ _)
      | _ => rfl

/-- The end of the input under a limit is the end without one, unless too many levels are open. -/
theorem finish_eq (rules : Rules) (s : Draft) (pos : Nat) :
    s.finish rules pos =
      if exceeds rules.nestingLimit s.awaitedLevels then
        .error ⟨.tooNested rules.nestingLimit, pos⟩
      else s.conclude rules.conventionalPower pos := by
  obtain ⟨pending, enclosing, focus⟩ := s
  cases focus with
  | operand =>
      simp only [conclude, finish, tooNested_eq, exceeds_self]
      rfl
  | arguments name =>
      simp only [conclude, finish, tooNested_eq, exceeds_self]
      rfl
  | callee name => simp [awaitedLevels, exceeds_zero, conclude, finish]
  | complete value => simp [awaitedLevels, exceeds_zero, conclude, finish]

/-! ## Refusals -/

theorem beginOperand_eq_error {s : Draft} {t : Token} {fault : GrammarFault}
    (h : s.beginOperand t = .error fault) : fault.IsRefusal t.pos := by
  unfold beginOperand at h
  split at h
  case h_7 => cases h; exact ⟨rfl, fun _ => by simp⟩
  all_goals cases h

theorem endExpression_eq_error {s : Draft} {value : Expr} {t : Token} {fault : GrammarFault}
    (h : s.endExpression value t = .error fault) : fault.IsRefusal t.pos := by
  unfold endExpression at h
  dsimp only at h
  split at h
  · cases h
    exact ⟨rfl, fun _ => by simp⟩
  · split at h
    · cases h
    · cases h
      exact ⟨rfl, fun _ => by simp⟩
  · split at h
    · cases h
    · cases h
    · cases h
      exact ⟨rfl, fun _ => by simp⟩

/-- Without a limit a token is refused at its own position, and never for its nesting. -/
theorem advance_eq_error {conventional : Bool} {s : Draft} {t : Token} {fault : GrammarFault}
    (h : s.advance conventional t = .error fault) : fault.IsRefusal t.pos := by
  obtain ⟨pending, enclosing, focus⟩ := s
  cases focus with
  | operand =>
      rw [advance_operand] at h
      exact beginOperand_eq_error h
  | callee name =>
      rw [advance_callee] at h
      split at h <;> cases h
      exact ⟨rfl, fun _ => by simp⟩
  | arguments name =>
      rw [advance_arguments] at h
      split at h
      · cases h
      · exact beginOperand_eq_error h
  | complete value =>
      simp only [advance, step] at h
      split at h
      · cases h
      · exact endExpression_eq_error h

/-- Without a limit the end of the input is refused where it stands, and never for its nesting. -/
theorem conclude_eq_error {conventional : Bool} {s : Draft} {pos : Nat} {fault : GrammarFault}
    (h : s.conclude conventional pos = .error fault) : fault.IsRefusal pos := by
  obtain ⟨pending, enclosing, focus⟩ := s
  cases focus with
  | operand =>
      simp only [conclude, finish, tooNested_eq, exceeds_self, Bool.false_eq_true, if_false] at h
      cases h
      exact ⟨rfl, fun _ => by simp⟩
  | arguments name =>
      simp only [conclude, finish, tooNested_eq, exceeds_self, Bool.false_eq_true, if_false] at h
      cases h
      exact ⟨rfl, fun _ => by simp⟩
  | callee name =>
      cases h
      exact ⟨rfl, fun _ => by simp⟩
  | complete value =>
      simp only [conclude, finish] at h
      split at h <;> cases h
      · exact ⟨rfl, fun _ => by simp⟩
      · exact ⟨rfl, fun _ => by simp⟩

/-! ## A run -/

/-- The largest number of levels that a run without a limit finds open. -/
def peak (conventional : Bool) : Draft → List Token → Nat
  | _, [] => 0
  | s, t :: rest =>
      max s.awaitedLevels
        (match s.advance conventional t with
          | .ok after => peak conventional after rest
          | .error _ => 0)

theorem peak_append {conventional : Bool} {s after : Draft} {ts : List Token} (us : List Token)
    (h : ts.foldlM (advance conventional) s = .ok after) :
    peak conventional s (ts ++ us) = max (peak conventional s ts) (peak conventional after us) := by
  induction ts generalizing s with
  | nil =>
      obtain rfl : s = after := Except.ok.inj h
      simp [peak]
  | cons t rest ih =>
      rw [List.foldlM_cons] at h
      cases hstep : s.advance conventional t with
      | error fault => simp [hstep, bind, Except.bind] at h
      | ok next =>
          rw [hstep] at h
          simp only [List.cons_append, peak, hstep]
          rw [ih h]
          omega

/-- A run under a limit goes as without one, unless it finds more levels open than the limit
admits; then it ends with the nesting error. -/
theorem foldlM_step (rules : Rules) (s : Draft) (ts : List Token) :
    if exceeds rules.nestingLimit (s.peak rules.conventionalPower ts) then
      ∃ pos, ts.foldlM (step rules) s = .error ⟨.tooNested rules.nestingLimit, pos⟩
    else ts.foldlM (step rules) s = ts.foldlM (advance rules.conventionalPower) s := by
  induction ts generalizing s with
  | nil => simp [peak, exceeds_zero]
  | cons t rest ih =>
      simp only [peak, List.foldlM_cons, exceeds_max, step_eq]
      -- a place that is too deep ends the run; what would come after it does not matter
      cases hhere : exceeds rules.nestingLimit s.awaitedLevels with
      | true => exact ⟨t.pos, rfl⟩
      | false =>
          cases hstep : s.advance rules.conventionalPower t with
          | error fault => simp [exceeds_zero, bind, Except.bind]
          | ok next => simpa [bind, Except.bind] using ih next

/-- What every token keeps, a run without a limit keeps. -/
theorem foldlM_advance_induction {conventional : Bool} {P : List Token → Draft → Prop}
    (hstep : ∀ {ts : List Token} {s after : Draft} {t : Token}, P ts s →
      s.advance conventional t = .ok after → P (ts ++ [t]) after)
    {s after : Draft} (ts : List Token) {us : List Token} (h : P ts s)
    (hus : us.foldlM (advance conventional) s = .ok after) : P (ts ++ us) after := by
  induction us generalizing s ts with
  | nil =>
      obtain rfl : s = after := Except.ok.inj hus
      rwa [List.append_nil]
  | cons u rest ih =>
      rw [List.foldlM_cons] at hus
      cases hu : s.advance conventional u with
      | error fault => rw [hu] at hus; cases hus
      | ok next =>
          rw [hu] at hus
          rw [List.append_cons]
          exact ih _ (hstep h hu) hus

/-- A run fails at one token, after a run over those before it. -/
theorem foldlM_eq_error {read : Draft → Token → Except GrammarFault Draft} {s : Draft}
    {ts : List Token} {fault : GrammarFault} (h : ts.foldlM read s = .error fault) :
    ∃ before t after state, ts = before ++ t :: after ∧
      before.foldlM read s = .ok state ∧ read state t = .error fault := by
  induction ts generalizing s with
  | nil => cases h
  | cons t rest ih =>
      rw [List.foldlM_cons] at h
      cases hstep : read s t with
      | error fault' =>
          rw [hstep] at h
          cases h
          exact ⟨[], t, rest, s, rfl, rfl, hstep⟩
      | ok next =>
          rw [hstep] at h
          obtain ⟨before, u, after, state, rfl, hbefore, hu⟩ := ih h
          exact ⟨t :: before, u, after, state, rfl, by rw [List.foldlM_cons, hstep]; exact hbefore,
            hu⟩

end Draft

/-! ## A whole source -/

/-- The nesting limit, or the capacity that stands in for one beyond it, was exceeded. -/
def ParseError.isNesting : ParseError → Bool
  | .grammar ⟨.tooNested _, _⟩ => true
  | .tooDeep _ => true
  | _ => false

/-- The limit that such an error names. -/
def ParseError.namedLimit? : ParseError → Option Int
  | .grammar ⟨.tooNested limit, _⟩ => some limit
  | .tooDeep limit => some limit
  | _ => none

theorem ParseError.isNesting_eq (cause : ParseError) :
    cause.isNesting = cause.namedLimit?.isSome := by
  unfold isNesting namedLimit?
  split <;> rfl

/-- Other errors keep their words under a limit beyond the capacity. -/
theorem ParseError.beyondCapacity_of_not_isNesting {limit : Int} {cause : ParseError}
    (h : cause.isNesting = false) : cause.beyondCapacity limit = cause := by
  unfold beyondCapacity
  split
  · cases h
  · rfl

/-- Read the tokens of a scan, without a limit. -/
def Scan.read (conventional : Bool) (s : Scan) : Except ParseError Expr :=
  match s.tokens.foldlM (Draft.advance conventional) Draft.start with
  | .error fault => .error (.grammar fault)
  | .ok state =>
      match s.stop with
      | .fault fault => .error (.lexical fault)
      | .endOfInput pos => (state.conclude conventional pos).mapError .grammar

/-- Under a limit a scan is read as without one, or it is nested too deeply. -/
theorem Scan.parse_eq_or (rules : Rules) (s : Scan) :
    (∃ pos, s.parse rules = .error (.grammar ⟨.tooNested rules.nestingLimit, pos⟩)) ∨
      s.parse rules = s.read rules.conventionalPower := by
  have hrun := Draft.foldlM_step rules Draft.start s.tokens
  split at hrun
  · obtain ⟨pos, hrun⟩ := hrun
    exact Or.inl ⟨pos, by simp [Scan.parse, hrun]⟩
  · simp only [Scan.parse, Scan.read, hrun]
    cases s.tokens.foldlM (Draft.advance rules.conventionalPower) Draft.start with
    | error fault => exact Or.inr rfl
    | ok state =>
        cases s.stop with
        | fault fault => exact Or.inr rfl
        | endOfInput pos =>
            dsimp only
            rw [Draft.finish_eq]
            split
            · exact Or.inl ⟨pos, rfl⟩
            · exact Or.inr rfl

/-- Only a limit beyond the capacity is replaced by it. -/
theorem parse_ne_tooDeep {registry : Registry} {settings : Settings}
    (h : settings.nestingLimit ≤ host.levels) (source : String) (limit : Int) :
    parse host registry settings source ≠ .error (.tooDeep limit) := by
  rw [parse_eq_of_le_levels registry source h]
  unfold Scan.parse
  split
  · simp
  · next state _ =>
      split
      · simp
      · next pos _ =>
          cases state.finish ⟨settings.conventionalPower, settings.nestingLimit⟩ pos with
          | ok e => exact fun h => by cases h
          | error fault => exact fun h => by cases h

/-- How reading a scan without a limit fails: at a token that is refused, at a lexeme that is no
token, or at the end of the input. The tokens before it are read. -/
inductive Scan.Fails (conventional : Bool) (s : Scan) : ParseError → Prop
  | token {before after : List Token} {t : Token} {state : Draft} {fault : GrammarFault} :
      s.tokens = before ++ t :: after →
      before.foldlM (Draft.advance conventional) Draft.start = .ok state →
      state.advance conventional t = .error fault → Fails conventional s (.grammar fault)
  | lexeme {state : Draft} {fault : LexicalFault} :
      s.tokens.foldlM (Draft.advance conventional) Draft.start = .ok state →
      s.stop = .fault fault → Fails conventional s (.lexical fault)
  | endOfInput {state : Draft} {fault : GrammarFault} :
      s.tokens.foldlM (Draft.advance conventional) Draft.start = .ok state →
      s.stop = .endOfInput fault.pos → state.conclude conventional fault.pos = .error fault →
      Fails conventional s (.grammar fault)

theorem Scan.fails_of_read {conventional : Bool} {s : Scan} {cause : ParseError}
    (h : s.read conventional = .error cause) : s.Fails conventional cause := by
  unfold read at h
  split at h
  · next fault hrun =>
      cases h
      obtain ⟨before, t, after, state, htokens, hbefore, ht⟩ := Draft.foldlM_eq_error hrun
      exact .token htokens hbefore ht
  · next state hrun =>
      split at h
      · next fault hstop =>
          cases h
          exact .lexeme hrun hstop
      · next pos hstop =>
          cases hend : state.conclude conventional pos with
          | ok e => rw [hend] at h; cases h
          | error fault =>
              rw [hend] at h
              cases h
              obtain rfl : fault.pos = pos := (Draft.conclude_eq_error hend).1
              exact .endOfInput hrun hstop hend

/-- Without a limit nothing is nested too deeply. -/
theorem Scan.isNesting_of_read_eq_error {conventional : Bool} {s : Scan} {cause : ParseError}
    (h : s.read conventional = .error cause) : cause.isNesting = false := by
  have hrefusal : ∀ {fault : GrammarFault} {pos : Nat}, fault.IsRefusal pos →
      (ParseError.grammar fault).isNesting = false := by
    rintro ⟨cause, pos'⟩ pos ⟨-, hcause⟩
    cases cause with
    | tooNested limit => exact absurd rfl (hcause limit)
    | _ => rfl
  cases fails_of_read h with
  | token _ _ ht => exact hrefusal (Draft.advance_eq_error ht)
  | lexeme _ _ => rfl
  | endOfInput _ _ hend => exact hrefusal (Draft.conclude_eq_error hend)

/-- An error of a run without a limit has no other words beyond the capacity. -/
theorem Scan.mapError_beyondCapacity_read (conventional : Bool) (s : Scan) (limit : Int) :
    (s.read conventional).mapError (ParseError.beyondCapacity limit) = s.read conventional := by
  cases hread : s.read conventional with
  | ok e => rfl
  | error cause =>
      have hcause := isNesting_of_read_eq_error hread
      exact congrArg Except.error (ParseError.beyondCapacity_of_not_isNesting hcause)

/-- A source is nested too deeply, or it is read as without a limit. It is the limit of the settings
that is named, also where the capacity stands in for it. -/
theorem parse_eq_or (host : Host) (registry : Registry) (settings : Settings) (source : String) :
    (∃ cause, parse host registry settings source = .error cause ∧
        cause.namedLimit? = some settings.nestingLimit) ∨
      parse host registry settings source =
        (Scan.ofSource ⟨registry, settings.nameLimit⟩ source).read settings.conventionalPower := by
  by_cases hlimit : settings.nestingLimit ≤ host.levels
  · rw [parse_eq_of_le_levels registry source hlimit]
    rcases Scan.parse_eq_or ⟨settings.conventionalPower, settings.nestingLimit⟩
      (Scan.ofSource ⟨registry, settings.nameLimit⟩ source) with ⟨pos, h⟩ | h
    · exact Or.inl ⟨_, h, rfl⟩
    · exact Or.inr h
  · rw [parse_eq_of_levels_lt registry source (Int.not_le.mp hlimit)]
    rcases Scan.parse_eq_or ⟨settings.conventionalPower, host.levels⟩
      (Scan.ofSource ⟨registry, settings.nameLimit⟩ source) with ⟨pos, h⟩ | h
    · exact Or.inl ⟨.tooDeep settings.nestingLimit, by rw [h]; rfl, rfl⟩
    · rw [h]
      exact Or.inr (Scan.mapError_beyondCapacity_read _ _ _)

/-- The error with which a source is refused, if it is. -/
def parseError? (host : Host) (registry : Registry) (settings : Settings)
    (source : String) : Option ParseError :=
  match parse host registry settings source with
  | .error cause => some cause
  | .ok _ => none

theorem parse_eq_error_iff {registry : Registry} {settings : Settings} {source : String}
    {cause : ParseError} :
    parse host registry settings source = .error cause ↔
      parseError? host registry settings source = some cause := by
  unfold parseError?
  cases parse host registry settings source with
  | ok e =>
      constructor
      · intro h
        cases h
      · intro h
        cases h
  | error other =>
      constructor
      · intro h
        rw [Except.error.inj h]
      · intro h
        rw [Option.some.inj h]

/-- The source is not refused for its nesting. -/
def AdmitsNesting (host : Host) (registry : Registry) (settings : Settings)
    (source : String) : Prop :=
  ∀ cause, parse host registry settings source = .error cause → cause.isNesting = false

/-- A source that is not refused for its nesting is read as without a limit. -/
theorem parse_eq_read {registry : Registry} {settings : Settings} {source : String}
    (h : AdmitsNesting host registry settings source) :
    parse host registry settings source =
      (Scan.ofSource ⟨registry, settings.nameLimit⟩ source).read settings.conventionalPower := by
  rcases parse_eq_or host registry settings source with ⟨cause, herror, hlimit⟩ | hread
  · have hnesting := h cause herror
    rw [cause.isNesting_eq, hlimit] at hnesting
    cases hnesting
  · exact hread

/-- An error that is not one of nesting is found without a limit. -/
theorem read_of_parse_eq_error {registry : Registry} {settings : Settings} {source : String}
    {cause : ParseError} (h : parse host registry settings source = .error cause)
    (hnesting : cause.isNesting = false) :
    (Scan.ofSource ⟨registry, settings.nameLimit⟩ source).read settings.conventionalPower =
      .error cause := by
  have hadmits : AdmitsNesting host registry settings source := by
    intro other hother
    rw [h] at hother
    cases hother
    exact hnesting
  rw [← parse_eq_read hadmits, h]

end Calculator
