import Calculator.Proofs.Expr.Nesting
import Calculator.Registry.Builtin

/-!
# Reading printed expressions

Reading undoes printing: a printable tree is read back from its text exactly when its numbers are
written positionally and the nesting limit admits its levels; in every other case its text is
refused (`parse_print`). No other tree is ever read from it.
-/

set_option autoImplicit false

namespace Calculator

variable {host : Host}

variable {v : Vocabulary} {conventional : Bool}

/-! ## Texts that are refused -/

open Draft

/-- After a number an operand is complete. -/
theorem focus_of_advance_number {s next : Draft} {t : Token} {text : String} {value : Float}
    (ht : t.lexeme = .number text value) (h : s.advance conventional t = .ok next) :
    ∃ e, next.focus = .complete e := by
  obtain ⟨pending, enclosing, focus⟩ := s
  cases focus with
  | operand =>
      rw [advance_number ht] at h
      cases h
      exact ⟨_, rfl⟩
  | arguments name =>
      rw [advance_arguments_of_ne (by simp [ht]), advance_number ht] at h
      cases h
      exact ⟨_, rfl⟩
  | callee name =>
      rw [advance_callee, ht] at h
      cases h
  | complete e =>
      simp only [advance, step, ht, endExpression] at h
      split at h <;> cases h

/-- After an operand no name can follow. -/
theorem advance_name_of_complete {s : Draft} {e : Expr} (hs : s.focus = .complete e) {t : Token}
    (ht : t.lexeme.isName = true) : ∃ fault, s.advance conventional t = .error fault := by
  obtain ⟨pending, enclosing, focus⟩ := s
  obtain rfl : focus = .complete e := hs
  obtain ⟨lexeme, pos⟩ := t
  cases lexeme with
  | constant name | function name =>
      simp only [advance, step, endExpression]
      split <;> exact ⟨_, rfl⟩
  | _ => cases ht

/-- A run to the end of the input goes through every token. -/
theorem Cursor.Reads.exists_cons {c next after : Cursor} {t : Token} {ts : List Token} {pos : Nat}
    (hts : c.Reads v ts after) (hend : after.StopsAt v (.endOfInput pos))
    (ht : c.read v = (.token t, next)) : ∃ us, ts = t :: us ∧ next.Reads v us after := by
  cases hts with
  | nil =>
      cases hend with
      | endOfInput hend => cases ht.symm.trans hend
  | cons hread hrest =>
      cases ht.symm.trans hread
      exact ⟨_, rfl, hrest⟩

/-- A reader that stumbles comes to no end of the input at which its tokens are accepted. -/
theorem Cursor.Stumbles.exists_error {c after : Cursor} {ts : List Token} {pos : Nat}
    (h : c.Stumbles v) (hts : c.Reads v ts after) (hend : after.StopsAt v (.endOfInput pos))
    (s : Draft) : ∃ fault, ts.foldlM (advance conventional) s = .error fault := by
  induction h generalizing ts s with
  | fault hfault =>
      cases hts with
      | nil =>
          cases hend with
          | endOfInput hend => cases hfault.symm.trans hend
      | cons hread _ => cases hfault.symm.trans hread
  | @name c next after' t u text value ht htext hu hname =>
      obtain ⟨us, rfl, hus⟩ := hts.exists_cons hend ht
      obtain ⟨ws, rfl, -⟩ := hus.exists_cons hend hu
      rw [List.foldlM_cons]
      cases hstep : s.advance conventional t with
      | error fault => exact ⟨fault, rfl⟩
      | ok state =>
          -- the name comes right after the number, so that it is refused whatever was open before
          obtain ⟨e, hfocus⟩ := focus_of_advance_number htext hstep
          obtain ⟨fault, hfault⟩ : ∃ fault, state.advance conventional u = .error fault :=
            advance_name_of_complete hfocus hname
          refine ⟨fault, ?_⟩
          show (u :: ws).foldlM (advance conventional) state = .error fault
          rw [List.foldlM_cons, hfault]
          rfl
  | @later c next t ht _ ih =>
      obtain ⟨us, rfl, hus⟩ := hts.exists_cons hend ht
      rw [List.foldlM_cons]
      cases hstep : s.advance conventional t with
      | error fault => exact ⟨fault, rfl⟩
      | ok state => exact ih hus state

/-- A source over which the reader stumbles is no expression. -/
theorem Scan.read_ne_ok {source : String} (h : (Cursor.ofSource source).Stumbles v) (e : Expr) :
    (Scan.ofSource v source).read conventional ≠ .ok e := by
  intro hread
  obtain ⟨after, hts, hstop⟩ := Scan.exists_reads v source
  unfold Scan.read at hread
  split at hread
  · cases hread
  · next state hrun =>
      split at hread
      · cases hread
      · next pos hend =>
          rw [hend] at hstop
          obtain ⟨fault, hfault⟩ : ∃ fault, (Scan.ofSource v source).tokens.foldlM
              (advance conventional) start = .error fault := h.exists_error hts hstop start
          cases hfault.symm.trans hrun

/-- A text over which the reader stumbles is refused, under any settings. -/
theorem exists_parse_error_of_stumbles {registry : Registry} {settings : Settings} {source : String}
    (h : Stumbles ⟨registry, settings.nameLimit⟩ source.toList) :
    ∃ cause, parse host registry settings source = .error cause := by
  rcases parse_eq_or host registry settings source with ⟨cause, hcause, -⟩ | hread
  · exact ⟨cause, hcause⟩
  · cases hparse : parse host registry settings source with
    | error cause => exact ⟨cause, rfl⟩
    | ok e =>
        exact absurd (hread.symm.trans hparse)
          (Scan.read_ne_ok (h (Cursor.ofSource source) rfl) e)

/-! ## Texts that are read -/

namespace Expr

variable {e : Expr}

theorem toList_print (e : Expr) : e.print.toList = e.chars := by
  rw [print, String.toList_ofList]

/-- The text of a printable tree with plain numbers is an expression as a whole, with that tree and
the levels of its nesting. -/
theorem nests_ofSource_print (conventional : Bool) (h : e.IsPrintable v) (hplain : e.IsPlain) :
    Nests conventional (e.nesting conventional) .expression (Scan.ofSource v e.print).lexemes e ∧
      (Scan.ofSource v e.print).IsWhole := by
  have hlexes : Lexes v e.print.toList e.lexemes [] := by
    have hchars := lexes_chars h hplain isBoundary_nil
    rw [List.append_nil] at hchars
    rw [toList_print]
    exact hchars
  obtain ⟨ts, pos, hscan, hts⟩ := hlexes.ofSource
  rw [hscan, Scan.lexemes, hts]
  exact ⟨h.nests.expression_of_factor, Scan.isWhole_iff.mpr ⟨pos, rfl⟩⟩

/-- The levels of a tree are within a limit. -/
def FitsNesting (conventional : Bool) (limit : Int) (e : Expr) : Prop :=
  e.nesting conventional = 0 ∨ (e.nesting conventional : Int) ≤ limit

theorem fitsNesting_iff {limit : Int} :
    e.FitsNesting conventional limit ↔ exceeds limit (e.nesting conventional) = false := by
  simp only [FitsNesting, exceeds, Bool.and_eq_false_iff, decide_eq_false_iff_not]
  omega

/-- A printable tree with plain numbers is read back if its levels fit, and else its text is nested
too deeply, under the limit or for the reader itself. -/
theorem parse_print_cases {registry : Registry} {settings : Settings}
    (h : e.IsPrintable ⟨registry, settings.nameLimit⟩) (hplain : e.IsPlain) :
    parse host registry settings e.print = .ok e ∧
        e.FitsNesting settings.conventionalPower settings.nestingLimit ∨
      (∃ fault, parse host registry settings e.print = .error (.grammar fault)) ∧
        ¬ e.FitsNesting settings.conventionalPower settings.nestingLimit ∨
      parse host registry settings e.print = .error (.tooDeep settings.nestingLimit) := by
  obtain ⟨hnests, hwhole⟩ := nests_ofSource_print settings.conventionalPower h hplain
  by_cases hcapacity : settings.nestingLimit ≤ host.levels
  · rw [parse_eq_of_le_levels registry _ hcapacity]
    have hparse := hnests.parse_eq hwhole settings.nestingLimit
    split at hparse
    · next hexceeds =>
        obtain ⟨place, hparse⟩ := hparse
        refine Or.inr (Or.inl ⟨⟨_, hparse⟩, ?_⟩)
        rw [fitsNesting_iff, hexceeds]
        decide
    · next hexceeds =>
        exact Or.inl ⟨hparse, fitsNesting_iff.mpr (Bool.eq_false_iff.mpr hexceeds)⟩
  · rw [parse_eq_of_levels_lt registry _ (Int.not_le.mp hcapacity)]
    have hparse := hnests.parse_eq hwhole host.levels
    split at hparse
    · obtain ⟨place, hparse⟩ := hparse
      exact Or.inr (Or.inr (by rw [hparse]; rfl))
    · next hexceeds =>
        refine Or.inl ⟨by rw [hparse]; rfl, ?_⟩
        -- what the reader can hold is less than the limit
        have hfits : e.FitsNesting settings.conventionalPower host.levels :=
          fitsNesting_iff.mpr (Bool.eq_false_iff.mpr hexceeds)
        unfold FitsNesting at hfits ⊢
        omega

end Expr

/-- From the text of a printable tree no other tree is read, under any settings. Unless the reader
itself can hold no more levels, the tree is read back exactly when its numbers are written
positionally and the limit admits its levels. -/
theorem parse_print (host : Host) (registry : Registry) (settings : Settings) (e : Expr)
    (h : e.IsPrintable ⟨registry, settings.nameLimit⟩) :
    (∀ t, parse host registry settings e.print = .ok t → t = e) ∧
      (parse host registry settings e.print ≠ .error (.tooDeep settings.nestingLimit) →
        (parse host registry settings e.print = .ok e ↔
          e.IsPlain ∧ (e.nesting settings.conventionalPower = 0 ∨
            (e.nesting settings.conventionalPower : Int) ≤ settings.nestingLimit))) := by
  by_cases hplain : e.IsPlain
  · rcases Expr.parse_print_cases h hplain with ⟨hparse, hfits⟩ | ⟨⟨fault, hparse⟩, hfits⟩ | hparse
    · rw [hparse]
      refine ⟨fun t ht => (Except.ok.inj ht).symm, fun _ => ?_⟩
      exact ⟨fun _ => ⟨hplain, hfits⟩, fun _ => rfl⟩
    · rw [hparse]
      refine ⟨fun t ht => (by cases ht), fun _ => ?_⟩
      exact ⟨fun ht => (by cases ht), fun hall => absurd hall.2 hfits⟩
    · rw [hparse]
      exact ⟨fun t ht => (by cases ht), fun hdeep => absurd rfl hdeep⟩
  · have hrefused : ∀ t, parse host registry settings e.print ≠ .ok t := by
      intro t ht
      have hstumbles := Expr.stumbles_chars h hplain []
      rw [List.append_nil, ← Expr.toList_print] at hstumbles
      obtain ⟨cause, hcause⟩ : ∃ cause, parse host registry settings e.print = .error cause :=
        exists_parse_error_of_stumbles hstumbles
      cases hcause.symm.trans ht
    exact ⟨fun t ht => absurd ht (hrefused t),
      fun _ => ⟨fun ht => absurd ht (hrefused e), fun hall => absurd hall.1 hplain⟩⟩

/-- The tree of `-(2.0 ^ sin(pi))`. -/
def negatedPower : Expr :=
  .unary .neg (.binary .pow (.number (Double.withSign false 0x4000000000000000))
    (.call "sin" [.constant "pi"]))

theorem ofFloat_two :
    Double.ofFloat (Double.withSign false 0x4000000000000000) =
      .finite false 0x4000000000000000 := by decide +kernel

theorem isPrintable_negatedPower : negatedPower.IsPrintable ⟨Registry.builtin, 31⟩ := by
  have hconstant : Expr.IsPrintable ⟨Registry.builtin, 31⟩ (.constant "pi") :=
    .constant (by decide +kernel) (by decide) (by decide +kernel)
  have hcall : Expr.IsPrintable ⟨Registry.builtin, 31⟩ (.call "sin" [.constant "pi"]) := by
    refine .call (by decide +kernel) (by decide) (by decide +kernel) fun a ha => ?_
    rw [List.mem_singleton.mp ha]
    exact hconstant
  exact .unary rfl (.binary rfl (.number ofFloat_two) hcall)

theorem isPlain_negatedPower : negatedPower.IsPlain := by
  intro value hvalue negative bits hbits
  rw [List.mem_singleton.mp hvalue, ofFloat_two] at hbits
  cases hbits
  exact (isPositional_shortest_iff (by decide)).mp (by decide +kernel)

/-- With conventional power, four levels are needed to read a negated power of a call back. -/
theorem parse_print_negatedPower :
    negatedPower.IsPrintable ⟨Registry.builtin, 31⟩ ∧
      parse .standard Registry.builtin ⟨4, 300, 31, true⟩ negatedPower.print = .ok negatedPower ∧
      parse .standard Registry.builtin ⟨3, 300, 31, true⟩ negatedPower.print ≠ .ok negatedPower := by
  have hnesting : negatedPower.nesting true = 4 := by decide +kernel
  have hfour := (parse_print .standard Registry.builtin ⟨4, 300, 31, true⟩ negatedPower
    isPrintable_negatedPower).2 (parse_ne_tooDeep (by decide) _ _)
  have hthree := (parse_print .standard Registry.builtin ⟨3, 300, 31, true⟩ negatedPower
    isPrintable_negatedPower).2 (parse_ne_tooDeep (by decide) _ _)
  simp only [hnesting] at hfour hthree
  refine ⟨isPrintable_negatedPower, hfour.mpr ⟨isPlain_negatedPower, by decide⟩, ?_⟩
  intro hread
  exact absurd (hthree.mp hread).2 (by decide)

end Calculator
