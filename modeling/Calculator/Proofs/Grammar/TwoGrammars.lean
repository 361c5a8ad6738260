import Mathlib.Data.List.Chain
import Calculator.Proofs.Grammar.Threshold
import Calculator.Proofs.Token.Words

/-!
# The two grammars

Powers with a tier of their own change how operands are joined, but not what may come next. In
outline the two grammars take the same steps once the levels of powers are left out
(`Outline.withoutPowers_advance`), so that they accept the same sources with the same parts, and
refuse the others at the same token for the same reason (`Scan.readParts_eq`). The levels of powers
are the only ones that differ: what is open at once without them is never more than with them
(`Scan.mostLevels_false_le`).

The outlines agree because a power never stands directly inside a sign: an operand closes the signs
in front of it before `^` is read (`Outline.IsLayered`).
-/

set_option autoImplicit false

namespace Calculator

variable {host : Host}

/-! ## Leaving out the levels of powers -/

/-- Levels without those of powers. -/
def levelsWithoutPowers (levels : List Level) : List Level :=
  levels.filter fun level => !level.isPower

theorem levelsWithoutPowers_cons {level : Level} (h : level ≠ .power) (levels : List Level) :
    levelsWithoutPowers (level :: levels) = level :: levelsWithoutPowers levels := by
  cases level with
  | power => exact absurd rfl h
  | _ => rfl

/-- A power is not directly inside a sign. -/
def LevelsInOrder (levels : List Level) : Prop :=
  levels.IsChain fun inner outer => inner = .power → outer ≠ .sign

theorem levelsInOrder_cons {level : Level} {levels : List Level} (hlevel : level ≠ .power)
    (h : LevelsInOrder levels) : LevelsInOrder (level :: levels) :=
  List.isChain_cons.mpr ⟨fun _ _ hpower => absurd hpower hlevel, h⟩

theorem dropWhile_of_head? {p : Level → Bool} {levels : List Level}
    (h : ∀ level ∈ levels.head?, p level = false) : levels.dropWhile p = levels := by
  cases levels with
  | nil => rfl
  | cons level outer => simp [h level rfl]

theorem head?_dropWhile_isSign (levels : List Level) :
    ∀ level ∈ (levels.dropWhile Level.isSign).head?, level ≠ .sign := by
  intro level hlevel hsign
  have hnot := List.head?_dropWhile_not Level.isSign levels
  rw [Option.mem_def.mp hlevel, hsign] at hnot
  cases hnot

/-- Powers that stand innermost are left out, whether they are closed or not. -/
theorem levelsWithoutPowers_dropWhile (levels : List Level) :
    levelsWithoutPowers (levels.dropWhile Level.isPower) = levelsWithoutPowers levels := by
  induction levels with
  | nil => rfl
  | cons level outer ih =>
      cases level with
      | power => exact ih
      | _ => rfl

/-- Without powers, there is none to close. -/
theorem dropWhile_levelsWithoutPowers (levels : List Level) :
    (levelsWithoutPowers levels).dropWhile Level.isPower = levelsWithoutPowers levels := by
  refine dropWhile_of_head? fun level hlevel => ?_
  have hmem := List.mem_of_mem_head? hlevel
  simpa using (List.mem_filter.mp hmem).2

/-- Where no sign stands innermost, none does when powers are left out. -/
theorem head?_levelsWithoutPowers {levels : List Level} (horder : LevelsInOrder levels)
    (hhead : ∀ level ∈ levels.head?, level ≠ .sign) :
    ∀ level ∈ (levelsWithoutPowers levels).head?, level.isSign = false := by
  induction levels with
  | nil =>
      intro level hlevel
      cases hlevel
  | cons level outer ih =>
      cases level with
      | power => exact ih horder.tail fun next hnext => horder.rel_head? hnext rfl
      | sign => exact absurd rfl (hhead .sign rfl)
      | group pos =>
          rintro level ⟨⟩
          rfl
      | call name =>
          rintro level ⟨⟩
          rfl

/-- An operand closes the same signs with powers and without them. -/
theorem levelsWithoutPowers_closeSigns {levels : List Level} (h : LevelsInOrder levels) :
    levelsWithoutPowers (levels.dropWhile Level.isSign) =
      (levelsWithoutPowers levels).dropWhile Level.isSign := by
  induction levels with
  | nil => rfl
  | cons level outer ih =>
      cases level with
      | sign => exact ih h.tail
      | power =>
          have hhead : ∀ next ∈ (Level.power :: outer).head?, next ≠ .sign := by
            rintro next ⟨⟩
            simp
          exact (dropWhile_of_head? (head?_levelsWithoutPowers h hhead)).symm
      | group pos => rfl
      | call name => rfl

namespace Outline

/-! ## Steps in the two grammars -/

/-- An outline without the levels of powers. -/
def withoutPowers (o : Outline) : Outline := { o with levels := levelsWithoutPowers o.levels }

/-- No power is directly inside a sign, nor can one come to be. -/
structure IsLayered (o : Outline) : Prop where
  levels : LevelsInOrder o.levels
  /-- An operand that is complete has closed its signs. -/
  more : o.expected = .more → ∀ level ∈ o.levels.head?, level ≠ .sign
  /-- Arguments stand directly inside their parenthesis. -/
  arguments : o.expected = .arguments → ∀ level ∈ o.levels.head?, level ≠ .power

variable {o after : Outline} {t : Token} {levels : List Level} {parts : List Part}

theorem isLayered_start : start.IsLayered :=
  ⟨List.isChain_nil, nofun, nofun⟩

theorem isLayered_operand (h : LevelsInOrder levels) : IsLayered ⟨levels, .operand, parts⟩ :=
  ⟨h, nofun, nofun⟩

theorem isLayered_operandRead (h : LevelsInOrder levels) : (operandRead levels parts).IsLayered :=
  ⟨h.suffix (List.dropWhile_suffix _), fun _ => head?_dropWhile_isSign levels, nofun⟩

theorem isLayered_beginOperand (ho : LevelsInOrder o.levels) (h : o.beginOperand t = .ok after) :
    after.IsLayered := by
  unfold beginOperand at h
  split at h
  · cases h
    exact isLayered_operandRead ho
  · cases h
    exact isLayered_operandRead ho
  · cases h
    exact ⟨ho, nofun, nofun⟩
  · cases h
    exact isLayered_operand (levelsInOrder_cons (by simp) ho)
  · cases h
    exact isLayered_operand (levelsInOrder_cons (by simp) ho)
  · cases h
    exact isLayered_operand (levelsInOrder_cons (by simp) ho)
  · cases h

theorem isLayered_endExpression (ho : LevelsInOrder o.levels) (h : o.endExpression t = .ok after) :
    after.IsLayered := by
  have hpowers : LevelsInOrder (o.levels.dropWhile Level.isPower) :=
    List.IsChain.suffix ho (List.dropWhile_suffix _)
  unfold endExpression at h
  split at h
  · next hlevels _ =>
      cases h
      rw [hlevels] at hpowers
      exact isLayered_operandRead hpowers.tail
  · cases h
  · next hlevels _ =>
      cases h
      rw [hlevels] at hpowers
      exact isLayered_operandRead hpowers.tail
  · next hlevels _ =>
      cases h
      rw [hlevels] at hpowers
      exact isLayered_operand hpowers
  · cases h
  · cases h

theorem isLayered_advance {conventional : Bool} (ho : o.IsLayered)
    (h : o.advance conventional t = .ok after) : after.IsLayered := by
  obtain ⟨levels, expected, parts⟩ := o
  cases expected with
  | operand => exact isLayered_beginOperand ho.levels h
  | callee name =>
      unfold advance at h
      dsimp only at h
      split at h
      · cases h
        refine ⟨levelsInOrder_cons (by simp) ho.levels, nofun, fun _ => ?_⟩
        rintro level ⟨⟩
        simp
      · cases h
  | arguments =>
      unfold advance at h
      dsimp only at h
      split at h
      · cases h
        exact isLayered_operandRead ho.levels.tail
      · exact isLayered_beginOperand ho.levels h
  | more =>
      unfold advance at h
      dsimp only at h
      split at h
      · next op _ =>
          cases h
          refine isLayered_operand ?_
          unfold levelsAfter
          split
          · exact List.isChain_cons.mpr ⟨fun next hnext _ => ho.more rfl next hnext, ho.levels⟩
          · exact ho.levels.suffix (List.dropWhile_suffix _)
      · exact isLayered_endExpression ho.levels h

theorem withoutPowers_operandRead (h : LevelsInOrder levels) (parts : List Part) :
    (operandRead levels parts).withoutPowers = operandRead (levelsWithoutPowers levels) parts := by
  simp only [withoutPowers, operandRead, levelsWithoutPowers_closeSigns h]

theorem withoutPowers_beginOperand (ho : LevelsInOrder o.levels) (t : Token) :
    (o.beginOperand t).map withoutPowers = o.withoutPowers.beginOperand t := by
  obtain ⟨lexeme, pos⟩ := t
  cases lexeme with
  | number text value => exact congrArg Except.ok (withoutPowers_operandRead ho _)
  | constant name => exact congrArg Except.ok (withoutPowers_operandRead ho _)
  | operator op => cases op <;> rfl
  | _ => rfl

theorem withoutPowers_endExpression (ho : LevelsInOrder o.levels) (t : Token) :
    (o.endExpression t).map withoutPowers = o.withoutPowers.endExpression t := by
  obtain ⟨levels, expected, parts⟩ := o
  obtain ⟨lexeme, pos⟩ := t
  have hpowers : LevelsInOrder (levels.dropWhile Level.isPower) :=
    List.IsChain.suffix ho (List.dropWhile_suffix _)
  have hlevels : (levelsWithoutPowers levels).dropWhile Level.isPower =
      levelsWithoutPowers (levels.dropWhile Level.isPower) := by
    rw [dropWhile_levelsWithoutPowers, levelsWithoutPowers_dropWhile]
  simp only [endExpression, withoutPowers, hlevels]
  have hinnermost := List.head?_dropWhile_not Level.isPower levels
  cases hdrop : levels.dropWhile Level.isPower with
  | nil => rfl
  | cons level outer =>
      rw [hdrop] at hpowers hinnermost
      cases level with
      | power => cases hinnermost
      | sign => rfl
      | group opened =>
          cases lexeme with
          | rightParen => exact congrArg Except.ok (withoutPowers_operandRead hpowers.tail _)
          | _ => rfl
      | call name =>
          cases lexeme with
          | rightParen => exact congrArg Except.ok (withoutPowers_operandRead hpowers.tail _)
          | _ => rfl

/-- An operator after an operand does to the levels of the two grammars the same, but for the one
of a power. -/
theorem levelsWithoutPowers_levelsAfter (levels : List Level) (op : Operator) :
    levelsWithoutPowers (levelsAfter true levels op) =
      levelsAfter false (levelsWithoutPowers levels) op := by
  have hfalse : levelsAfter false (levelsWithoutPowers levels) op = levelsWithoutPowers levels :=
    dropWhile_levelsWithoutPowers levels
  rw [hfalse]
  unfold levelsAfter
  split
  · rfl
  · exact levelsWithoutPowers_dropWhile levels

/-- Without the levels of powers, a token does the same in the two grammars. -/
theorem withoutPowers_advance (ho : o.IsLayered) (t : Token) :
    (o.advance true t).map withoutPowers = o.withoutPowers.advance false t := by
  have hbegin := withoutPowers_beginOperand ho.levels t
  have hend := withoutPowers_endExpression ho.levels t
  obtain ⟨levels, expected, parts⟩ := o
  cases expected with
  | operand => exact hbegin
  | callee name =>
      cases hlexeme : t.lexeme <;> simp only [advance, withoutPowers, hlexeme] <;> rfl
  | arguments =>
      cases hlexeme : t.lexeme with
      | rightParen =>
          have htail : levelsWithoutPowers levels.tail = (levelsWithoutPowers levels).tail := by
            cases levels with
            | nil => rfl
            | cons level outer =>
                have hlevel : level ≠ .power := ho.arguments rfl level rfl
                rw [levelsWithoutPowers_cons hlevel]
                rfl
          simp only [advance, withoutPowers, hlexeme, ← htail]
          exact congrArg Except.ok (withoutPowers_operandRead ho.levels.tail _)
      | _ => simpa only [advance, withoutPowers, hlexeme] using hbegin
  | more =>
      cases hlexeme : t.lexeme with
      | operator op =>
          simp only [advance, withoutPowers, hlexeme, ← levelsWithoutPowers_levelsAfter]
          rfl
      | _ => simpa only [advance, withoutPowers, hlexeme] using hend

theorem withoutPowers_conclude (o : Outline) (pos : Nat) :
    o.withoutPowers.conclude pos = o.conclude pos := by
  obtain ⟨levels, expected, parts⟩ := o
  have hlevels : (levelsWithoutPowers levels).dropWhile Level.isPower =
      levelsWithoutPowers (levels.dropWhile Level.isPower) := by
    rw [dropWhile_levelsWithoutPowers, levelsWithoutPowers_dropWhile]
  cases expected with
  | more =>
      simp only [conclude, withoutPowers, hlevels]
      have hinnermost := List.head?_dropWhile_not Level.isPower levels
      cases hdrop : levels.dropWhile Level.isPower with
      | nil => rfl
      | cons level outer =>
          rw [hdrop] at hinnermost
          cases level with
          | power => cases hinnermost
          | _ => rfl
  | _ => rfl

/-! ## Runs in the two grammars -/

theorem withoutPowers_foldlM (ho : o.IsLayered) (ts : List Token) :
    (ts.foldlM (advance true) o).map withoutPowers = ts.foldlM (advance false) o.withoutPowers := by
  induction ts generalizing o with
  | nil => rfl
  | cons t rest ih =>
      have hstep := withoutPowers_advance ho t
      rw [List.foldlM_cons, List.foldlM_cons, ← hstep]
      cases ht : o.advance true t with
      | error fault => rfl
      | ok next => exact ih (isLayered_advance ho ht)

/-- A level that is opened where powers open none is opened where they do, and there at least as
many are open with it. -/
theorem exists_opening_withPowers {stop : Stop} {ts : List Token} (ho : o.IsLayered)
    {opening : Opening} (h : opening ∈ o.withoutPowers.openings false stop ts) :
    ∃ outer ∈ o.openings true stop ts, opening.number ≤ outer.number := by
  induction ts generalizing o with
  | nil => cases h
  | cons t rest ih =>
      have hstep := withoutPowers_advance ho t
      rw [openings, ← hstep] at h
      rw [openings]
      cases ht : o.advance true t with
      | error fault => rw [ht] at h; cases h
      | ok next =>
          rw [ht] at h
          rcases List.mem_append.mp h with hfirst | hrest
          · obtain ⟨hopens, hnumber, hnext⟩ :=
              opening?_eq_some_iff.mp (Option.mem_toList.mp hfirst)
            have hgrows : o.levels.length < next.levels.length := by
              rcases levels_advance ht with ⟨level, hlevels, -⟩ | hlevels
              · rw [hlevels]
                exact Nat.lt_succ_self _
              · exact absurd (hlevels.filter _).length_le (Nat.not_le.mpr hopens)
            have houter : o.opening? next (nextPosition? stop rest) =
                some ⟨next.levels.length, opening.next⟩ :=
              opening?_eq_some_iff.mpr ⟨hgrows, rfl, hnext⟩
            refine ⟨_, List.mem_append_left _ (Option.mem_toList.mpr houter), ?_⟩
            rw [hnumber]
            exact List.length_filter_le _ _
          · obtain ⟨outer, hmem, hnumber⟩ := ih (isLayered_advance ho ht) hrest
            exact ⟨outer, List.mem_append_right _ hmem, hnumber⟩

end Outline

namespace Scan

variable {s : Scan}

/-- The two grammars read the same parts, or refuse for the same reason. -/
theorem readParts_eq (s : Scan) : s.readParts true = s.readParts false := by
  have hrun := Outline.withoutPowers_foldlM Outline.isLayered_start s.tokens
  rw [show Outline.start.withoutPowers = Outline.start from rfl] at hrun
  rw [readParts, readParts, ← hrun]
  cases hts : s.tokens.foldlM (Outline.advance true) Outline.start with
  | error fault => rfl
  | ok o =>
      simp only [Except.map, Outline.withoutPowers_conclude]

/-- Where powers open no level, no more are open at once. -/
theorem mostLevels_false_le (s : Scan) : s.mostLevels false ≤ s.mostLevels true := by
  refine mostLevels_le_iff.mpr fun opening hmem => ?_
  obtain ⟨outer, houter, hnumber⟩ :=
    Outline.exists_opening_withPowers Outline.isLayered_start hmem
  exact Nat.le_trans hnumber (mostLevels_le_iff.mp (Nat.le_refl _) outer houter)

/-! ## Scans without powers -/

/-- Without a power sign, the two grammars take the same steps. -/
theorem foldlM_advance_eq {ts : List Token} (h : ∀ t ∈ ts, t.lexeme ≠ .operator .power)
    (state : Draft) :
    ts.foldlM (Draft.advance true) state = ts.foldlM (Draft.advance false) state := by
  induction ts generalizing state with
  | nil => rfl
  | cons t rest ih =>
      have ht : t.lexeme ≠ .operator .power := h t (by simp)
      have hstep : state.advance true t = state.advance false t := by
        obtain ⟨pending, enclosing, focus⟩ := state
        cases focus with
        | operand => simp
        | callee name => simp
        | arguments name => simp
        | complete value =>
            simp only [Draft.advance, Draft.step]
            cases hlexeme : t.lexeme with
            | operator op =>
                cases op with
                | power => exact absurd hlexeme ht
                | _ => rfl
            | _ => rfl
      rw [List.foldlM_cons, List.foldlM_cons, hstep]
      cases state.advance false t with
      | error fault => rfl
      | ok next => exact ih (fun u hu => h u (List.mem_cons_of_mem _ hu)) next

theorem conclude_eq (state : Draft) (pos : Nat) :
    state.conclude true pos = state.conclude false pos := by
  obtain ⟨pending, enclosing, focus⟩ := state
  cases focus <;> rfl

theorem read_eq_of_no_power (h : ∀ t ∈ s.tokens, t.lexeme ≠ .operator .power) :
    s.read true = s.read false := by
  simp only [read, foldlM_advance_eq h, conclude_eq]

end Scan

/-! ## Sources -/

/-- The two grammars agree on which sources are expressions. A source that is not nested too deeply
with powers of their own tier is not nested too deeply without them, and it is read by both, as
trees with the same operands, signs, calls and operations in the order of the source, or refused by
both with the same error at the same position. Without a power sign the trees are the same. -/
theorem parse_conventional_agrees (host : Host) (registry : Registry) (settings : Settings)
    (source : String)
    (h : AdmitsNesting host registry { settings with conventionalPower := true } source) :
    AdmitsNesting host registry { settings with conventionalPower := false } source ∧
      ((∃ conventional plain,
          parse host registry { settings with conventionalPower := true } source = .ok conventional ∧
          parse host registry { settings with conventionalPower := false } source = .ok plain ∧
          conventional.parts = plain.parts ∧
          ('^' ∉ source.toList → conventional = plain)) ∨
        ∃ cause,
          parse host registry { settings with conventionalPower := true } source = .error cause ∧
          parse host registry { settings with conventionalPower := false } source = .error cause) := by
  have hadmits :
      AdmitsNesting host registry { settings with conventionalPower := false } source := by
    have hlevels := admitsNesting_iff.mp h
    exact admitsNesting_iff.mpr (Nat.le_trans (Scan.mostLevels_false_le _) hlevels)
  refine ⟨hadmits, ?_⟩
  rw [parse_eq_read h, parse_eq_read hadmits]
  dsimp only
  have hparts := Scan.readParts_eq (Scan.ofSource ⟨registry, settings.nameLimit⟩ source)
  rw [← Scan.map_parts_read, ← Scan.map_parts_read] at hparts
  have htrees : '^' ∉ source.toList →
      (Scan.ofSource ⟨registry, settings.nameLimit⟩ source).read true =
        (Scan.ofSource ⟨registry, settings.nameLimit⟩ source).read false := by
    intro hnone
    refine Scan.read_eq_of_no_power fun t hmem ht => hnone ?_
    exact List.mem_of_getElem? (Scan.getElem?_of_operator hmem ht)
  cases hconventional : (Scan.ofSource ⟨registry, settings.nameLimit⟩ source).read true with
  | ok conventional =>
      cases hplain : (Scan.ofSource ⟨registry, settings.nameLimit⟩ source).read false with
      | ok plain =>
          rw [hconventional, hplain] at hparts htrees
          refine Or.inl ⟨conventional, plain, rfl, rfl, Except.ok.inj hparts, fun hnone => ?_⟩
          exact Except.ok.inj (htrees hnone)
      | error cause =>
          rw [hconventional, hplain] at hparts
          cases hparts
  | error cause =>
      cases hplain : (Scan.ofSource ⟨registry, settings.nameLimit⟩ source).read false with
      | ok plain =>
          rw [hconventional, hplain] at hparts
          cases hparts
      | error other =>
          rw [hconventional, hplain] at hparts
          obtain rfl : cause = other := Except.error.inj hparts
          exact Or.inr ⟨cause, rfl, rfl⟩

/-- A chain of powers behind a sign, which associates to the right in one grammar and to the left in
the other, has the same parts in both. -/
theorem parts_power_chain :
    AdmitsNesting .standard Registry.builtin ⟨2, 300, 31, true⟩ "-2^2^3" ∧
      ∃ conventional plain,
        parse .standard Registry.builtin ⟨2, 300, 31, true⟩ "-2^2^3" = .ok conventional ∧
        parse .standard Registry.builtin ⟨2, 300, 31, false⟩ "-2^2^3" = .ok plain ∧
        conventional.parts = plain.parts := by
  have hlevels : sourceLevels Registry.builtin ⟨2, 300, 31, true⟩ "-2^2^3" = 2 := by
    decide +kernel
  have hadmits : AdmitsNesting .standard Registry.builtin ⟨2, 300, 31, true⟩ "-2^2^3" :=
    admitsNesting_iff.mpr (Nat.le_of_eq hlevels)
  have hread : (parse .standard Registry.builtin ⟨2, 300, 31, true⟩
      "-2^2^3").toOption.isSome = true := by decide +kernel
  refine ⟨hadmits, ?_⟩
  rcases (parse_conventional_agrees .standard Registry.builtin ⟨2, 300, 31, true⟩ "-2^2^3"
      hadmits).2 with
    ⟨conventional, plain, hconventional, hplain, hparts, -⟩ | ⟨cause, herror, -⟩
  · exact ⟨conventional, plain, hconventional, hplain, hparts⟩
  · rw [herror] at hread
    cases hread

end Calculator
