import Calculator.Proofs.Diagnostic.Wording
import Calculator.Proofs.Evaluation.Calls

/-!
# The stage that failed

A calculation goes through three stages: its source is cut into tokens, these are read as a tree, and
the tree is evaluated. The two readers take turns, so that the one which fails first is the one that
is told (`Scan.ends_parse`). Each failure that is told is told by the stage in which it arose
(`reportedStage?_reading`, `reportedStage?_eq_evaluation_iff`).

With the built-in functions, under whatever constants, no stage tells two kinds of failures
(`escapingFault?_eq_some_iff`). One is a value that `round` makes too large for a double, and then the
calculation ended with that call. The other is a refusal that names a limit with too many digits. No
other fault escapes, though arguments, names and divisions could all raise one.
-/

set_option autoImplicit false

namespace Calculator

variable {host : Host}

/-! ## Outcomes -/

/-- The stage that reports the failure of an outcome, if there is one. -/
def reportedStage? (source : String) : Except Failure Float → Option Stage
  | .ok _ => none
  | .error failure => (failure.diagnostic source).toOption.map Diagnostic.stage

/-- The fault that escapes from an outcome that no stage reports. -/
def escapingFault? (source : String) : Except Failure Float → Option Fault
  | .ok _ => none
  | .error failure =>
      match failure.diagnostic source with
      | .ok _ => none
      | .error fault => some fault

section

variable {source : String} {failure : Failure}

theorem reportedStage?_error_iff {stage : Stage} :
    reportedStage? source (.error failure) = some stage ↔
      ∃ d, failure.diagnostic source = .ok d ∧ d.stage = stage := by
  cases h : failure.diagnostic source <;> simp [reportedStage?, h, Except.toOption]

theorem escapingFault?_error_iff {fault : Fault} :
    escapingFault? source (.error failure) = some fault ↔
      failure.diagnostic source = .error fault := by
  cases h : failure.diagnostic source <;> simp [escapingFault?, h]

/-- What is reported does not escape. -/
theorem escapingFault?_of_reported {outcome : Except Failure Float} {stage : Stage}
    (h : reportedStage? source outcome = some stage) : escapingFault? source outcome = none := by
  cases outcome with
  | ok value => rfl
  | error failure =>
      obtain ⟨d, hd, -⟩ := reportedStage?_error_iff.mp h
      simp [escapingFault?, hd]

end

/-! ## Calls that raise a fault -/

/-- With the built-in functions, a call is answered with a fault exactly when it is one of `round`
that makes too large a value. -/
theorem Registry.IsExtension.answer_raised_iff {r : Registry} (h : r.IsExtension) {call : Call}
    {answer : Except EvalFailure Float} (hanswer : call.answer? host r = some answer)
    {fault : Fault} :
    answer = .error (.raised fault) ↔
      fault = .roundedTooLarge ∧ call.name = "round" ∧ Builtin.RoundsTooLarge call.arguments := by
  obtain ⟨f, hfind, harity, rfl⟩ := Call.answer?_eq_some_iff.mp hanswer
  have hname : f.name = call.name := by simpa using List.find?_some hfind
  have hf : f ∈ Builtin.functions := h.functions_eq ▸ List.mem_of_find?_eq_some hfind
  rw [Function.value_eq_raised_iff, Builtin.raised_iff hf harity host, hname]

/-- An evaluation with the built-in functions raises a fault exactly when its last call is one of
`round` that makes too large a value. -/
theorem Registry.IsExtension.evaluate_raised_iff {r : Registry} (h : r.IsExtension) (limit : Int)
    (e : Expr) {fault : Fault} :
    (evaluate host r limit e).result = .error (.raised fault) ↔
      fault = .roundedTooLarge ∧ ∃ before arguments, Builtin.RoundsTooLarge arguments ∧
        (evaluate host r limit e).calls = before ++ [⟨"round", arguments⟩] := by
  have hanswered := isAnswered_evaluate host r limit e
  rw [hanswered.raised_iff]
  constructor
  · rintro ⟨before, ⟨name, arguments⟩, hlast, hanswer⟩
    obtain ⟨rfl, rfl, hlarge⟩ := (h.answer_raised_iff hanswer).mp rfl
    exact ⟨rfl, before, arguments, hlarge, hlast⟩
  · rintro ⟨rfl, before, arguments, hlarge, hlast⟩
    have hmade : (⟨"round", arguments⟩ : Call) ∈ (evaluate host r limit e).calls := by simp [hlast]
    obtain ⟨answer, hanswer⟩ := hanswered.exists_answer hmade
    obtain rfl := (h.answer_raised_iff hanswer).mpr ⟨rfl, rfl, hlarge⟩
    exact ⟨before, _, hlast, hanswer⟩

/-! ## The first two stages -/

/-- The rules under which a source is read: the capacity stands in for a limit beyond it. -/
def Settings.rules (settings : Settings) (host : Host) : Rules :=
  ⟨settings.conventionalPower, min settings.nestingLimit host.levels⟩

/-- The words for a limit beyond the capacity change no stage. -/
theorem ParseError.stage_beyondCapacity (limit : Int) (cause : ParseError) :
    (cause.beyondCapacity limit).stage = cause.stage := by
  unfold beyondCapacity
  split <;> rfl

namespace Scan

/-- The reader of tokens fails: all tokens before a fault are accepted, and the fault is reached. -/
def LexerFails (rules : Rules) (s : Scan) : Prop :=
  ∃ fault state, s.stop = .fault fault ∧
    s.tokens.foldlM (Draft.step rules) Draft.start = .ok state

/-- The reader of expressions fails: at one of the tokens, or at the end of the input. -/
def ReaderFails (rules : Rules) (s : Scan) : Prop :=
  (∃ fault, s.tokens.foldlM (Draft.step rules) Draft.start = .error fault) ∨
    ∃ fault state pos, s.stop = .endOfInput pos ∧
      s.tokens.foldlM (Draft.step rules) Draft.start = .ok state ∧
      state.finish rules pos = .error fault

/-- How the reading of a scan ends: with a tree, or with an error of the reader that fails. -/
inductive Ends (rules : Rules) (s : Scan) : Except ParseError Expr → Prop
  | tree (e : Expr) : ¬ s.LexerFails rules → ¬ s.ReaderFails rules → Ends rules s (.ok e)
  | lexer {cause : ParseError} : cause.stage = .lexical → s.LexerFails rules →
      ¬ s.ReaderFails rules → Ends rules s (.error cause)
  | reader {cause : ParseError} : cause.stage = .grammar → ¬ s.LexerFails rules →
      s.ReaderFails rules → Ends rules s (.error cause)

theorem ends_parse (rules : Rules) (s : Scan) : s.Ends rules (s.parse rules) := by
  unfold parse
  cases hrun : s.tokens.foldlM (Draft.step rules) Draft.start with
  | error fault =>
      -- a token is refused before the reader of tokens comes to its own fault
      refine .reader rfl ?_ (Or.inl ⟨fault, hrun⟩)
      rintro ⟨other, state, -, hstate⟩
      cases hrun.symm.trans hstate
  | ok state =>
      have haccepted : ∀ fault, s.tokens.foldlM (Draft.step rules) Draft.start ≠ .error fault := by
        simp [hrun]
      cases hstop : s.stop with
      | fault fault =>
          refine .lexer rfl ⟨fault, state, hstop, hrun⟩ ?_
          rintro (⟨other, hother⟩ | ⟨other, last, pos, hpos, -⟩)
          · exact haccepted other hother
          · cases hstop.symm.trans hpos
      | endOfInput pos =>
          have hlexer : ¬ s.LexerFails rules := by
            rintro ⟨fault, last, hfault, -⟩
            cases hstop.symm.trans hfault
          show s.Ends rules ((state.finish rules pos).mapError ParseError.grammar)
          cases hfinish : state.finish rules pos with
          | error fault =>
              exact .reader rfl hlexer (Or.inr ⟨fault, state, pos, hstop, hrun, hfinish⟩)
          | ok e =>
              refine .tree e hlexer ?_
              rintro (⟨other, hother⟩ | ⟨other, last, place, hplace, hlast, hother⟩)
              · exact haccepted other hother
              · cases hstop.symm.trans hplace
                cases hrun.symm.trans hlast
                cases hfinish.symm.trans hother

/-- Other words for an error of the same stage change nothing. -/
theorem Ends.mapError {rules : Rules} {s : Scan} {result : Except ParseError Expr}
    (h : s.Ends rules result) {words : ParseError → ParseError}
    (hwords : ∀ cause, (words cause).stage = cause.stage) :
    s.Ends rules (result.mapError words) := by
  cases h with
  | tree e hlexer hreader => exact .tree e hlexer hreader
  | lexer hstage hlexer hreader => exact .lexer ((hwords _).trans hstage) hlexer hreader
  | reader hstage hlexer hreader => exact .reader ((hwords _).trans hstage) hlexer hreader

end Scan

/-- The scan of a source under its settings. -/
def Settings.scan (registry : Registry) (settings : Settings) (source : String) : Scan :=
  Scan.ofSource ⟨registry, settings.nameLimit⟩ source

/-- A source is read as its scan, apart from the words for a limit beyond the capacity. -/
theorem parse_ends (host : Host) (registry : Registry) (settings : Settings) (source : String) :
    (settings.scan registry source).Ends (settings.rules host)
      (parse host registry settings source) := by
  unfold Settings.rules
  by_cases hlimit : settings.nestingLimit ≤ host.levels
  · rw [parse_eq_of_le_levels registry source hlimit, Int.min_eq_left hlimit]
    exact Scan.ends_parse _ _
  · have hcapacity : host.levels < settings.nestingLimit := Int.not_le.mp hlimit
    rw [parse_eq_of_levels_lt registry source hcapacity,
      Int.min_eq_right (Int.le_of_lt hcapacity)]
    exact (Scan.ends_parse _ _).mapError (ParseError.stage_beyondCapacity settings.nestingLimit)

/-! ## All stages -/

section Outcomes

variable {registry : Registry} {settings : Settings} {source : String}

theorem calculate_of_error {cause : ParseError}
    (h : parse host registry settings source = .error cause) :
    calculate host registry settings source = (.error (.parse cause), []) := by
  simp only [calculate, h]

theorem calculate_of_ok {e : Expr} (h : parse host registry settings source = .ok e) :
    calculate host registry settings source =
      ((evaluate host registry settings.depthLimit e).result.mapError Failure.ofEvaluation,
        (evaluate host registry settings.depthLimit e).calls) := by
  simp only [calculate, h]

/-- The outcome of a calculation is that of the reading, and then that of the evaluation. -/
theorem outcome_eq_bind (registry : Registry) (settings : Settings) (source : String) :
    (calculate host registry settings source).1 =
      ((parse host registry settings source).mapError Failure.parse).bind fun e =>
        (evaluate host registry settings.depthLimit e).result.mapError Failure.ofEvaluation := by
  unfold calculate
  cases parse host registry settings source <;> rfl

/-- A refusal of a source is reported by its stage, unless it cannot be told. -/
theorem reportedStage?_parse {cause : ParseError}
    (h : parse host registry settings source = .error cause) {stage : Stage} :
    reportedStage? source (.error (.parse cause)) = some stage ↔
      cause.stage = stage ∧
        ¬ (cause.isNesting = true ∧ isTooLong settings.nestingLimit = true) := by
  rw [reportedStage?_error_iff]
  show (∃ d, cause.diagnostic source = .ok d ∧ d.stage = stage) ↔ _
  cases hd : cause.diagnostic source with
  | ok d =>
      have htold : ¬ (cause.isNesting = true ∧ isTooLong settings.nestingLimit = true) := by
        intro huntold
        have herror := (diagnostic_eq_error_iff_of_parse h).mpr ⟨rfl, huntold⟩
        cases hd.symm.trans herror
      simp [htold, ParseError.stage_of_diagnostic hd]
  | error fault =>
      have huntold := ((diagnostic_eq_error_iff_of_parse h).mp hd).2
      simp [huntold]

/-- The fault that escapes is that of its wording. -/
theorem escapingFault?_parse {cause : ParseError}
    (h : parse host registry settings source = .error cause) {fault : Fault} :
    escapingFault? source (.error (.parse cause)) = some fault ↔
      fault = .unwritable ∧ cause.isNesting = true ∧ isTooLong settings.nestingLimit = true := by
  rw [escapingFault?_error_iff]
  exact diagnostic_eq_error_iff_of_parse h

/-- An error of an evaluation is reported by its own stage, unless it cannot be told. -/
theorem reportedStage?_evaluate (hwritable : ∀ f ∈ registry.functions, f.arity.IsWritable)
    (limit : Int) (e : Expr) {stage : Stage} :
    reportedStage? source
        ((evaluate host registry limit e).result.mapError Failure.ofEvaluation) = some stage ↔
      stage = .evaluation ∧ ∃ cause,
        (evaluate host registry limit e).result = .error (.error cause) ∧
          ¬ (cause.namedLimit?.isSome = true ∧ isTooLong limit = true) := by
  cases hresult : (evaluate host registry limit e).result with
  | ok value => exact iff_of_false (fun h => by cases h) fun ⟨_, _, h, _⟩ => by cases h
  | error failure =>
      cases failure with
      | raised fault => exact iff_of_false (fun h => by cases h) fun ⟨_, _, h, _⟩ => by cases h
      | error cause =>
          refine reportedStage?_error_iff.trans ?_
          show (∃ d, cause.diagnostic = .ok d ∧ d.stage = stage) ↔ _
          cases hd : cause.diagnostic with
          | ok d =>
              have htold : ¬ (cause.namedLimit?.isSome = true ∧ isTooLong limit = true) := by
                intro huntold
                have herror := (diagnostic_eq_error_iff_of_evaluate hwritable hresult).mpr
                  ⟨rfl, huntold⟩
                cases hd.symm.trans herror
              constructor
              · rintro ⟨_, h, rfl⟩
                cases h
                exact ⟨EvalError.stage_of_diagnostic hd, cause, rfl, htold⟩
              · rintro ⟨rfl, -⟩
                exact ⟨d, rfl, EvalError.stage_of_diagnostic hd⟩
          | error fault =>
              have huntold :=
                ((diagnostic_eq_error_iff_of_evaluate hwritable hresult).mp hd).2
              refine iff_of_false (fun ⟨_, h, _⟩ => by cases h) ?_
              rintro ⟨-, other, h, htold⟩
              cases h
              exact htold huntold

/-- The fault that escapes from an evaluation is that of its last call, or of its wording. -/
theorem escapingFault?_evaluate (hwritable : ∀ f ∈ registry.functions, f.arity.IsWritable)
    (limit : Int) (e : Expr) {fault : Fault} :
    escapingFault? source
        ((evaluate host registry limit e).result.mapError Failure.ofEvaluation) = some fault ↔
      (evaluate host registry limit e).result = .error (.raised fault) ∨
        fault = .unwritable ∧ isTooLong limit = true ∧ ∃ cause,
          (evaluate host registry limit e).result = .error (.error cause) ∧
            cause.namedLimit?.isSome = true := by
  cases hresult : (evaluate host registry limit e).result with
  | ok value =>
      refine iff_of_false (fun h => by cases h) ?_
      rintro (h | ⟨-, -, cause, h, -⟩) <;> cases h
  | error failure =>
      cases failure with
      | raised other =>
          show some other = some fault ↔ _
          simp
      | error cause =>
          have hiff : cause.diagnostic = .error fault ↔ _ :=
            diagnostic_eq_error_iff_of_evaluate hwritable hresult
          refine escapingFault?_error_iff.trans (hiff.trans ?_)
          simp [and_comm]

/-- The two stages of reading report the failures of the two readers, and nothing else. A refusal
for nesting goes untold if its limit cannot be written. -/
theorem reportedStage?_reading (hwritable : ∀ f ∈ registry.functions, f.arity.IsWritable)
    (settings : Settings) (source : String) :
    (reportedStage? source (calculate host registry settings source).1 = some .lexical ↔
      (settings.scan registry source).LexerFails (settings.rules host)) ∧
    (reportedStage? source (calculate host registry settings source).1 = some .grammar ↔
      (settings.scan registry source).ReaderFails (settings.rules host) ∧
        ¬ (isTooLong settings.nestingLimit = true ∧
          ¬ AdmitsNesting host registry settings source)) := by
  have hends := parse_ends host registry settings source
  cases hparse : parse host registry settings source with
  | error cause =>
      rw [hparse] at hends
      have hadmits : AdmitsNesting host registry settings source ↔ cause.isNesting = false := by
        simp [AdmitsNesting, hparse]
      rw [calculate_of_error hparse, reportedStage?_parse hparse, reportedStage?_parse hparse,
        hadmits]
      cases hends with
      | lexer hstage hlexer hreader =>
          have hnesting : cause.isNesting = false := by cases cause <;> first | rfl | cases hstage
          simp [hstage, hlexer, hreader, hnesting]
      | reader hstage hlexer hreader =>
          simp [hstage, hlexer, hreader, and_comm]
  | ok e =>
      rw [hparse] at hends
      rw [calculate_of_ok hparse, reportedStage?_evaluate hwritable,
        reportedStage?_evaluate hwritable]
      cases hends with
      | tree _ hlexer hreader => simp [hlexer, hreader]

/-- The stage of evaluation reports the errors of the evaluation of a tree that was read. A refusal
for depth goes untold if its limit cannot be written. -/
theorem reportedStage?_eq_evaluation_iff
    (hwritable : ∀ f ∈ registry.functions, f.arity.IsWritable) (settings : Settings)
    (source : String) :
    reportedStage? source (calculate host registry settings source).1 = some .evaluation ↔
      ∃ e cause, parse host registry settings source = .ok e ∧
        (evaluate host registry settings.depthLimit e).result = .error (.error cause) ∧
          ¬ (cause.namedLimit?.isSome = true ∧ isTooLong settings.depthLimit = true) := by
  cases hparse : parse host registry settings source with
  | error cause =>
      have hstage : cause.stage ≠ .evaluation := by cases cause <;> simp [ParseError.stage]
      rw [calculate_of_error hparse, reportedStage?_parse hparse]
      simp [hstage]
  | ok e =>
      rw [calculate_of_ok hparse, reportedStage?_evaluate hwritable]
      simp

theorem reportedStage?_ne_configuration
    (hwritable : ∀ f ∈ registry.functions, f.arity.IsWritable) (settings : Settings)
    (source : String) :
    reportedStage? source (calculate host registry settings source).1 ≠ some .configuration := by
  cases hparse : parse host registry settings source with
  | error cause =>
      rw [calculate_of_error hparse, Ne, reportedStage?_parse hparse]
      cases cause <;> simp [ParseError.stage]
  | ok e =>
      rw [calculate_of_ok hparse, Ne, reportedStage?_evaluate hwritable]
      simp

/-- With the built-in functions, these are the faults that escape: that of a last call of `round`
that makes too large a value, and that of a refusal which names a limit with too many digits. -/
theorem Registry.IsExtension.escapingFault?_eq_some_iff (h : registry.IsExtension)
    (settings : Settings) (source : String) {fault : Fault} :
    escapingFault? source (calculate host registry settings source).1 = some fault ↔
      (fault = .roundedTooLarge ∧ ∃ before arguments, Builtin.RoundsTooLarge arguments ∧
        (calculate host registry settings source).2 = before ++ [⟨"round", arguments⟩]) ∨
      (fault = .unwritable ∧
        ((isTooLong settings.nestingLimit = true ∧ ¬ AdmitsNesting host registry settings source) ∨
          isTooLong settings.depthLimit = true ∧
            ∃ e cause, parse host registry settings source = .ok e ∧
              (evaluate host registry settings.depthLimit e).result = .error (.error cause) ∧
                cause.namedLimit?.isSome = true)) := by
  cases hparse : parse host registry settings source with
  | error cause =>
      have hadmits : AdmitsNesting host registry settings source ↔ cause.isNesting = false := by
        simp [AdmitsNesting, hparse]
      rw [calculate_of_error hparse, escapingFault?_parse hparse, hadmits]
      simp [and_comm]
  | ok e =>
      have hadmits : AdmitsNesting host registry settings source := by
        simp [AdmitsNesting, hparse]
      rw [calculate_of_ok hparse, escapingFault?_evaluate h.isWritable, h.evaluate_raised_iff]
      simp [hadmits]

/-- A calculation has a value, or a stage reports its failure, or a fault escapes. -/
theorem outcome_cases (source : String) (outcome : Except Failure Float) :
    (∃ value, outcome = .ok value) ∨ (∃ stage, reportedStage? source outcome = some stage) ∨
      ∃ fault, escapingFault? source outcome = some fault := by
  cases outcome with
  | ok value => exact Or.inl ⟨value, rfl⟩
  | error failure =>
      cases hd : failure.diagnostic source with
      | ok d => exact Or.inr (Or.inl ⟨d.stage, reportedStage?_error_iff.mpr ⟨d, hd, rfl⟩⟩)
      | error fault => exact Or.inr (Or.inr ⟨fault, escapingFault?_error_iff.mpr hd⟩)

/-- Every failure of a calculation is reported by the stage in which it arose, with two exceptions.
Where `round` makes too large a value, which ends the calculation, no stage reports it; and no stage
reports a refusal for nesting or for depth that names a limit with too many digits. Whatever
arguments reach the operators and the built-in functions, no other fault escapes. -/
theorem reported_by_failed_stage (host : Host) (h : registry.IsExtension) (settings : Settings)
    (source : String) :
    let outcome := (calculate host registry settings source).1
    ((∃ value, outcome = .ok value) ∨ (∃ stage, reportedStage? source outcome = some stage) ∨
      ∃ fault, escapingFault? source outcome = some fault) ∧
    (reportedStage? source outcome = some .lexical ↔
      (settings.scan registry source).LexerFails (settings.rules host)) ∧
    (reportedStage? source outcome = some .grammar ↔
      (settings.scan registry source).ReaderFails (settings.rules host) ∧
        ¬ (isTooLong settings.nestingLimit = true ∧
          ¬ AdmitsNesting host registry settings source)) ∧
    (reportedStage? source outcome = some .evaluation ↔
      ∃ e cause, parse host registry settings source = .ok e ∧
        (evaluate host registry settings.depthLimit e).result = .error (.error cause) ∧
          ¬ (cause.namedLimit?.isSome = true ∧ isTooLong settings.depthLimit = true)) ∧
    reportedStage? source outcome ≠ some .configuration ∧
    ∀ fault, escapingFault? source outcome = some fault ↔
      (fault = .roundedTooLarge ∧ ∃ before arguments, Builtin.RoundsTooLarge arguments ∧
        (calculate host registry settings source).2 = before ++ [⟨"round", arguments⟩]) ∨
      (fault = .unwritable ∧
        ((isTooLong settings.nestingLimit = true ∧ ¬ AdmitsNesting host registry settings source) ∨
          isTooLong settings.depthLimit = true ∧
            ∃ e cause, parse host registry settings source = .ok e ∧
              (evaluate host registry settings.depthLimit e).result = .error (.error cause) ∧
                cause.namedLimit?.isSome = true)) := by
  obtain ⟨hlexical, hgrammar⟩ := reportedStage?_reading h.isWritable settings source
  exact ⟨outcome_cases source _, hlexical, hgrammar,
    reportedStage?_eq_evaluation_iff h.isWritable settings source,
    reportedStage?_ne_configuration h.isWritable settings source,
    fun _ => h.escapingFault?_eq_some_iff settings source⟩

end Outcomes

/-- With a constant added to the built-in ones, a stray character is a failure of the reader of
tokens, a missing operand one of the reader of expressions, and a division by zero one of the
evaluation. -/
theorem failed_stages_with_constant :
    ∃ registry : Registry, registry.IsExtension ∧ registry.isConstant "tau" = true ∧
      (Settings.scan registry {} "tau + $").LexerFails (Settings.rules {} .standard) ∧
      (Settings.scan registry {} "tau +").ReaderFails (Settings.rules {} .standard) ∧
      ∃ e cause, parse .standard registry {} "tau / 0" = .ok e ∧
        (evaluate .standard registry ({} : Settings).depthLimit e).result =
          .error (.error cause) := by
  let extra : List (String × Float) := [("tau", Float.ofBits 0x401921fb54442d18)]
  have hstages : (Registry.builtin.withConstants extra).toOption.any (fun r =>
      r.isConstant "tau" &&
        reportedStage? "tau + $" (calculate .standard r {} "tau + $").1 = some .lexical &&
        reportedStage? "tau +" (calculate .standard r {} "tau +").1 = some .grammar &&
        reportedStage? "tau / 0" (calculate .standard r {} "tau / 0").1 =
          some .evaluation) = true := by
    decide +kernel
  cases hlarger : Registry.builtin.withConstants extra with
  | error clash => rw [hlarger] at hstages; cases hstages
  | ok registry =>
      rw [hlarger] at hstages
      simp only [Except.toOption, Option.any_some, Bool.and_eq_true, decide_eq_true_eq] at hstages
      obtain ⟨⟨⟨hconstant, hlexical⟩, hgrammar⟩, hevaluation⟩ := hstages
      have h : registry.IsExtension := .withConstants .builtin hlarger
      obtain ⟨e, cause, hparse, hcause, -⟩ :=
        (reported_by_failed_stage .standard h {} "tau / 0").2.2.2.1.mp hevaluation
      exact ⟨registry, h, hconstant,
        (reported_by_failed_stage .standard h {} "tau + $").2.1.mp hlexical,
        ((reported_by_failed_stage .standard h {} "tau +").2.2.1.mp hgrammar).1,
        e, cause, hparse, hcause⟩

theorem Cursor.ofSource_around (before after : String) (text : List Char) :
    Cursor.ofSource (before ++ String.ofList text ++ after) =
      ⟨0, before.toList ++ text ++ after.toList⟩ := by
  simp only [Cursor.ofSource, String.toList_append, String.toList_ofList]

/-- The largest double, rounded to 308 places before the point, has no value, and no stage reports
a failure. -/
theorem unreported_rounding :
    let source := "round(17976931348623157" ++ String.ofList (List.replicate 292 '0') ++ ", -308)"
    let outcome := (calculate .standard Registry.builtin {} source).1
    ¬ ((∃ value, outcome = .ok value) ∨ ∃ stage, reportedStage? source outcome = some stage) := by
  intro source outcome
  -- the characters are taken from the list, as a text of this length is slow to take apart
  have hescapes : (escapingFault? source
      (calculate .standard Registry.builtin {} source).1).isSome = true := by
    rw [outcome_eq_bind, parse_eq_of_le_levels _ _ (by decide), Scan.ofSource,
      Cursor.ofSource_around]
    decide +kernel
  rintro (⟨value, hvalue⟩ | ⟨stage, hstage⟩)
  · have hnone : escapingFault? source outcome = none := by rw [hvalue]; rfl
    exact absurd hescapes (by rw [hnone]; simp)
  · have hnone := escapingFault?_of_reported hstage
    exact absurd hescapes (by rw [hnone]; simp)

end Calculator
