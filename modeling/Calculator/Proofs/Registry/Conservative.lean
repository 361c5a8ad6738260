import Calculator.Proofs.Evaluation.Stages
import Calculator.Proofs.Expr.Closed

/-!
# Further constants change nothing that was known

A source that is calculated under a registry without meeting an unknown name is calculated in the
same way under every larger registry: the tree, the value or the failure, and the calls are the same
(`calculate_withConstants`).

Each stage looks up only names that the smaller registry has. A token is read in the same way unless
its name is unknown (`Cursor.read_extend_or`), so that the scans are the same, or the one of the
smaller registry stops at an unknown name and is the beginning of the other one
(`Scan.ofSource_extend_or`). A grammar error before that name stands in both. A tree is over the
smaller registry, so that the evaluations agree at all of its names (`evaluate_eq_of_isOver`).
-/

set_option autoImplicit false

namespace Calculator

variable {host : Host}

variable {registry larger : Registry} (hlarger : larger.Extends registry)

/-! ## Tokens -/

/-- A name that is not registered. -/
def LexicalError.isUnknownName : LexicalError → Bool
  | .unknownName _ => true
  | _ => false

section Tokens

variable {limit : Int}

include hlarger

/-- A name has the same lexeme in the larger registry, unless it had none. -/
theorem Vocabulary.classify_extend_or (limit : Int) (name : List Char) :
    classify ⟨larger, limit⟩ name = classify ⟨registry, limit⟩ name ∨
      ∃ cause, classify ⟨registry, limit⟩ name = .error cause ∧ cause.isUnknownName = true := by
  cases hclassify : classify ⟨registry, limit⟩ name with
  | ok l =>
      refine Or.inl (classify_eq_ok_iff.mpr ?_)
      rcases classify_eq_ok_iff.mp hclassify with ⟨hconstant, hl⟩ | ⟨hfunction, hl⟩
      · exact Or.inl ⟨hlarger.isConstant hconstant, hl⟩
      · exact Or.inr ⟨hlarger.isFunction hfunction, hl⟩
  | error cause =>
      refine Or.inr ⟨cause, rfl, ?_⟩
      rw [classify_eq_error hclassify]
      rfl

/-- A cursor reads the same in the larger registry, unless it reads a name that is unknown. -/
theorem Cursor.read_extend_or (c : Cursor) :
    c.read ⟨larger, limit⟩ = c.read ⟨registry, limit⟩ ∨
      ∃ f, (c.read ⟨registry, limit⟩).1 = .fault f ∧ f.cause.isUnknownName = true := by
  unfold Cursor.read
  split
  · exact Or.inl rfl
  · next ch rest _ =>
      unfold Cursor.readLexeme
      split
      · exact Or.inl rfl
      · split
        · -- only a name is looked up
          rcases Vocabulary.classify_extend_or hlarger limit (c.skipBlanks.span Char.isAlphanum).1
            with heq | ⟨cause, hcause, hunknown⟩
          · left
            simp only [heq]
          · right
            simp only [hcause]
            exact ⟨⟨cause, _⟩, rfl, hunknown⟩
        · exact Or.inl rfl

/-- A run of the smaller registry is one of the larger registry. -/
theorem Cursor.Reads.extend {c after : Cursor} {ts : List Token}
    (h : Cursor.Reads ⟨registry, limit⟩ c ts after) : Cursor.Reads ⟨larger, limit⟩ c ts after := by
  induction h with
  | nil c => exact .nil c
  | @cons c next after t ts hread _ ih =>
      rcases Cursor.read_extend_or hlarger c with heq | ⟨f, hfault, -⟩
      · exact .cons (heq.trans hread) ih
      · rw [hread] at hfault
        cases hfault

/-- A run stops in the same way, unless it stops at an unknown name. -/
theorem Cursor.StopsAt.extend_or {c : Cursor} {stop : Stop}
    (h : c.StopsAt ⟨registry, limit⟩ stop) :
    c.StopsAt ⟨larger, limit⟩ stop ∨ ∃ f, stop = .fault f ∧ f.cause.isUnknownName = true := by
  cases h with
  | endOfInput hread =>
      rcases Cursor.read_extend_or hlarger c with heq | ⟨f, hfault, -⟩
      · exact Or.inl (.endOfInput (heq.trans hread))
      · rw [hread] at hfault
        cases hfault
  | @fault f after hread =>
      rcases Cursor.read_extend_or hlarger c with heq | ⟨other, hfault, hunknown⟩
      · exact Or.inl (.fault (heq.trans hread))
      · rw [hread] at hfault
        cases hfault
        exact Or.inr ⟨f, rfl, hunknown⟩

/-- The scan in the larger registry is the same, or it goes on from a name that was unknown. -/
theorem Scan.ofSource_extend_or (source : String) :
    ofSource ⟨larger, limit⟩ source = ofSource ⟨registry, limit⟩ source ∨
      (∃ f, (ofSource ⟨registry, limit⟩ source).stop = .fault f ∧ f.cause.isUnknownName = true) ∧
        (ofSource ⟨registry, limit⟩ source).tokens <+:
          (ofSource ⟨larger, limit⟩ source).tokens := by
  obtain ⟨after, hreads, hstops⟩ := exists_reads ⟨registry, limit⟩ source
  have hreads' := hreads.extend hlarger
  rcases hstops.extend_or hlarger with hstops' | hunknown
  · exact Or.inl (ofSource_eq hreads' hstops')
  · -- the larger registry has read the same tokens so far, and may go on from here
    refine Or.inr ⟨hunknown, ?_⟩
    have hon : ofSource ⟨larger, limit⟩ source = readOn ⟨larger, limit⟩
        ((ofSource ⟨registry, limit⟩ source).tokens.reverse ++ []) after :=
      readOn_of_reads hreads' []
    obtain ⟨more, last, -, htokens, -⟩ := exists_reads_readOn ⟨larger, limit⟩
      ((ofSource ⟨registry, limit⟩ source).tokens.reverse ++ []) after
    refine ⟨more, ?_⟩
    rw [hon, htokens]
    simp

end Tokens

/-! ## Trees -/

/-- A scan that goes on after a fault is refused for the same token, or the fault is reached. -/
theorem Scan.parse_prefix_or {s longer : Scan} {f : LexicalFault} (hstop : s.stop = .fault f)
    (hbegins : s.tokens <+: longer.tokens) (rules : Rules) :
    longer.parse rules = s.parse rules ∨ s.parse rules = .error (.lexical f) := by
  obtain ⟨more, hmore⟩ := hbegins
  unfold parse
  cases hrun : s.tokens.foldlM (Draft.step rules) Draft.start with
  | ok state =>
      right
      simp only [hstop]
  | error fault =>
      -- the token that is refused stands before those with which the longer scan goes on
      left
      rw [← hmore, List.foldlM_append, hrun]
      rfl

include hlarger in
/-- A source is read as the same tree or refused for the same reason, unless it has an unknown
name. -/
theorem parse_extend_or (settings : Settings) (source : String) :
    parse host larger settings source = parse host registry settings source ∨
      ∃ f, parse host registry settings source = .error (.lexical f) ∧
        f.cause.isUnknownName = true := by
  have hparse : ∀ rules,
      (Scan.ofSource ⟨larger, settings.nameLimit⟩ source).parse rules =
          (Scan.ofSource ⟨registry, settings.nameLimit⟩ source).parse rules ∨
        ∃ f, (Scan.ofSource ⟨registry, settings.nameLimit⟩ source).parse rules =
          .error (.lexical f) ∧ f.cause.isUnknownName = true := by
    intro rules
    rcases Scan.ofSource_extend_or hlarger source with heq | ⟨⟨f, hstop, hunknown⟩, hbegins⟩
    · exact Or.inl (by rw [heq])
    · exact (Scan.parse_prefix_or hstop hbegins rules).imp_right fun h => ⟨f, h, hunknown⟩
  unfold parse
  dsimp only
  split
  · exact hparse _
  · -- a lexical error keeps its words under a limit beyond the capacity
    rcases hparse ⟨settings.conventionalPower, host.levels⟩ with heq | ⟨f, hf, hunknown⟩
    · exact Or.inl (by rw [heq])
    · exact Or.inr ⟨f, by rw [hf]; rfl, hunknown⟩

/-! ## Evaluation -/

section Evaluation

include hlarger

theorem constantValue_eq_of_isConstant {name : String} (h : registry.isConstant name = true) :
    constantValue larger name = constantValue registry name := by
  rw [← Registry.isSome_constant?, Option.isSome_iff_exists] at h
  obtain ⟨value, hvalue⟩ := h
  simp only [constantValue_eq, hvalue, hlarger.constant name value hvalue]

theorem callFunction_eq_of_isFunction {name : String} (h : registry.isFunction name = true)
    (arguments : List Float) :
    callFunction host larger name arguments = callFunction host registry name arguments := by
  rw [← Registry.isSome_function?, Option.isSome_iff_exists] at h
  obtain ⟨f, hf⟩ := h
  simp only [callFunction_eq, hf, hlarger.function name f hf]

omit hlarger in
theorem evaluatePlainlyList_congr {limit depth : Int} {arguments : List Expr}
    (h : ∀ a ∈ arguments,
      evaluatePlainly host larger limit depth a = evaluatePlainly host registry limit depth a) :
    evaluatePlainlyList host larger limit depth arguments =
      evaluatePlainlyList host registry limit depth arguments := by
  induction arguments with
  | nil => rfl
  | cons e rest ih =>
      rw [evaluatePlainlyList, evaluatePlainlyList, h e (by simp),
        ih fun a ha => h a (List.mem_cons_of_mem _ ha)]

/-- A tree over the smaller registry is evaluated in the same way in the larger one. -/
theorem evaluatePlainly_eq_of_isOver {e : Expr} (h : e.IsOver registry) (limit depth : Int) :
    evaluatePlainly host larger limit depth e = evaluatePlainly host registry limit depth e := by
  -- each name of the tree comes with the fact that the smaller registry has it
  induction h generalizing depth with
  | number _ => rw [evaluatePlainly, evaluatePlainly]
  | constant hname =>
      rw [evaluatePlainly, evaluatePlainly, constantValue_eq_of_isConstant hlarger hname]
  | unary _ _ ih => rw [evaluatePlainly, evaluatePlainly, ih]
  | binary _ _ _ ihl ihr => rw [evaluatePlainly, evaluatePlainly, ihl, ihr]
  | call hname _ ih =>
      rw [evaluatePlainly, evaluatePlainly, evaluatePlainlyList_congr fun a ha => ih a ha _]
      simp only [callFunction_eq_of_isFunction hlarger hname]

theorem evaluate_eq_of_isOver {e : Expr} (h : e.IsOver registry) (limit : Int) :
    evaluate host larger limit e = evaluate host registry limit e := by
  rw [evaluate_eq_ite, evaluate_eq_ite, evaluatePlainly_eq_of_isOver hlarger h,
    evaluatePlainly_eq_of_isOver hlarger h]

end Evaluation

/-! ## Calculations -/

/-- A calculation that does not fail for an unknown name is the same with further constants: the
tree or the reason why there is none, the value or the failure, and the calls in order. -/
theorem calculate_withConstants {extra : List (String × Float)}
    (hextra : registry.withConstants extra = .ok larger) (settings : Settings) (source : String)
    (hknown : ∀ name pos, (calculate host registry settings source).1 ≠
      .error (.parse (.lexical ⟨.unknownName name, pos⟩))) :
    parse host larger settings source = parse host registry settings source ∧
      calculate host larger settings source = calculate host registry settings source := by
  have hlarger := Registry.extends_withConstants hextra
  have hparse : parse host larger settings source = parse host registry settings source := by
    refine (parse_extend_or hlarger settings source).resolve_right ?_
    rintro ⟨⟨cause, pos⟩, hcause, hunknown⟩
    cases cause with
    | unknownName name => exact hknown name pos (by simp only [calculate, hcause])
    | _ => cases hunknown
  refine ⟨hparse, ?_⟩
  cases hread : parse host registry settings source with
  | error cause => rw [calculate_of_error hread, calculate_of_error (hparse.trans hread)]
  | ok e =>
      rw [calculate_of_ok hread, calculate_of_ok (hparse.trans hread),
        evaluate_eq_of_isOver hlarger (isOver_of_parse hread)]

/-- Where names are cut to three characters, a constant whose name is longer than that of a function
and begins with it does not stand in the way of the function. -/
theorem calculate_withConstants_sine :
    ∃ larger, Registry.builtin.withConstants [("sine", 0.5), ("sqrt2", 1.5)] = .ok larger ∧
      (∀ name pos, (calculate .standard Registry.builtin ⟨100, 300, 3, false⟩ "sine(2, pi)").1 ≠
        .error (.parse (.lexical ⟨.unknownName name, pos⟩))) ∧
      parse .standard larger ⟨100, 300, 3, false⟩ "sine(2, pi)" =
        parse .standard Registry.builtin ⟨100, 300, 3, false⟩ "sine(2, pi)" ∧
      calculate .standard larger ⟨100, 300, 3, false⟩ "sine(2, pi)" =
        calculate .standard Registry.builtin ⟨100, 300, 3, false⟩ "sine(2, pi)" := by
  have hadmits : Registry.builtin.Admits [("sine", 0.5), ("sqrt2", 1.5)] := by
    unfold Registry.Admits
    decide
  obtain ⟨larger, hlarger⟩ := Registry.exists_withConstants hadmits
  have hstage : reportedStage? "sine(2, pi)" (calculate .standard Registry.builtin
      ⟨100, 300, 3, false⟩ "sine(2, pi)").1 = some .evaluation := by decide +kernel
  have hknown : ∀ name pos, (calculate .standard Registry.builtin ⟨100, 300, 3, false⟩
      "sine(2, pi)").1 ≠ .error (.parse (.lexical ⟨.unknownName name, pos⟩)) := by
    intro name pos h
    rw [h] at hstage
    cases hstage
  exact ⟨larger, hlarger, hknown, calculate_withConstants hlarger _ _ hknown⟩

end Calculator
