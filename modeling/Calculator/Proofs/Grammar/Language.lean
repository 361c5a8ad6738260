import Calculator.Proofs.Grammar.Awaited
import Calculator.Proofs.Grammar.Completeness
import Calculator.Registry.Builtin
import Calculator.Token.Listing

/-!
# The language of the parser

What is read is what the grammar derives: the tree that a source is read as is the one tree that
the grammar gives its tokens, and a source whose tokens have none is refused.
-/

set_option autoImplicit false

namespace Calculator

variable {host : Host}

/-- The lexemes of a scan, in order. -/
def Scan.lexemes (s : Scan) : List Lexeme := s.tokens.map Token.lexeme

/-- All tokens of the source can be listed: there is no fault among them. -/
def Scan.IsWhole (s : Scan) : Prop := ∃ entries, s.entries = .ok entries

/-- A scan is whole when reading ended at the end of the source. -/
theorem Scan.isWhole_iff {s : Scan} : s.IsWhole ↔ ∃ pos, s.stop = .endOfInput pos := by
  constructor
  · rintro ⟨listed, h⟩
    unfold entries at h
    split at h
    · next pos hstop => exact ⟨pos, hstop⟩
    · cases h
  · rintro ⟨pos, hstop⟩
    exact ⟨s.tokens.map Token.entry ++ [Entry.endOfInput pos], by simp only [entries, hstop]⟩

/-- A phrase has one tree. -/
theorem Derives.unique {conventional : Bool} {w : List Lexeme} {e₁ e₂ : Expr}
    (h₁ : Derives conventional .expression w e₁) (h₂ : Derives conventional .expression w e₂) :
    e₁ = e₂ := by
  have hts : (w.map (Token.mk · 0)).map Token.lexeme = w := by simp [Function.comp_def]
  obtain ⟨after₁, hread₁, hend₁⟩ := h₁.leads hts 0
  obtain ⟨after₂, hread₂, hend₂⟩ := h₂.leads hts 0
  obtain rfl : after₁ = after₂ := Except.ok.inj (hread₁.symm.trans hread₂)
  exact Except.ok.inj (hend₁.symm.trans hend₂)

/-- Without a limit, a scan is read as a tree exactly when it is whole and the grammar gives its
lexemes that tree. -/
theorem Scan.read_eq_ok_iff {conventional : Bool} {s : Scan} {e : Expr} :
    s.read conventional = .ok e ↔
      s.IsWhole ∧ Derives conventional .expression s.lexemes e := by
  constructor
  · intro h
    unfold read at h
    split at h
    · cases h
    · next state hrun =>
        split at h
        · cases h
        · next pos hstop =>
            refine ⟨isWhole_iff.mpr ⟨pos, hstop⟩, ?_⟩
            have haccounts := Draft.accounts_start.foldlM hrun
            cases hend : state.conclude conventional pos with
            | error fault => rw [hend] at h; cases h
            | ok e' =>
                rw [hend] at h
                cases h
                exact haccounts.derives_of_conclude hend
  · rintro ⟨hwhole, h⟩
    obtain ⟨pos, hstop⟩ := isWhole_iff.mp hwhole
    obtain ⟨after, hread, hend⟩ := h.leads rfl pos
    unfold Draft.Leads at hread
    simp only [read, hread, hstop, hend]
    rfl

/-- A source that is not nested too deeply is read as a tree exactly when all of it has tokens and
the grammar gives them that tree; in every other case it is refused. Lexemes have one tree at most,
in either grammar. -/
theorem parse_eq_ok_iff (host : Host) (registry : Registry) (settings : Settings)
    (source : String) :
    (AdmitsNesting host registry settings source →
      (∀ e, parse host registry settings source = .ok e ↔
        (Scan.ofSource ⟨registry, settings.nameLimit⟩ source).IsWhole ∧
          Derives settings.conventionalPower .expression
            (Scan.ofSource ⟨registry, settings.nameLimit⟩ source).lexemes e) ∧
      (¬ (∃ e, (Scan.ofSource ⟨registry, settings.nameLimit⟩ source).IsWhole ∧
          Derives settings.conventionalPower .expression
            (Scan.ofSource ⟨registry, settings.nameLimit⟩ source).lexemes e) →
        ∃ cause, parse host registry settings source = .error cause)) ∧
    ∀ conventional w e₁ e₂, Derives conventional .expression w e₁ →
      Derives conventional .expression w e₂ → e₁ = e₂ := by
  refine ⟨fun hadmits => ?_, fun conventional w e₁ e₂ => Derives.unique⟩
  rw [parse_eq_read hadmits]
  refine ⟨fun e => Scan.read_eq_ok_iff, fun hnone => ?_⟩
  cases hread : (Scan.ofSource ⟨registry, settings.nameLimit⟩ source).read
      settings.conventionalPower with
  | ok e => exact absurd ⟨e, Scan.read_eq_ok_iff.mp hread⟩ hnone
  | error cause => exact ⟨cause, rfl⟩

/-- A tree that is read is one that the grammar gives the tokens, whatever the limit. -/
theorem derives_of_parse {registry : Registry} {settings : Settings} {source : String} {e : Expr}
    (h : parse host registry settings source = .ok e) :
    Derives settings.conventionalPower .expression
      (Scan.ofSource ⟨registry, settings.nameLimit⟩ source).lexemes e := by
  rcases parse_eq_or host registry settings source with ⟨cause, herror, -⟩ | hread
  · cases herror.symm.trans h
  · exact (Scan.read_eq_ok_iff.mp (hread.symm.trans h)).2

/-- Powers, a sign and a call inside each other are read under the least limit that admits them, so
that the grammar derives them. -/
theorem derives_nested_powers :
    AdmitsNesting .standard Registry.builtin ⟨3, 300, 31, true⟩ "2^-3^pow(2, pi) / (1)" ∧
      ∃ e, Derives true .expression
        (Scan.ofSource ⟨Registry.builtin, 31⟩ "2^-3^pow(2, pi) / (1)").lexemes e := by
  have hsome : (parse .standard Registry.builtin ⟨3, 300, 31, true⟩
      "2^-3^pow(2, pi) / (1)").toOption.isSome = true := by decide +kernel
  cases hparse : parse .standard Registry.builtin ⟨3, 300, 31, true⟩ "2^-3^pow(2, pi) / (1)" with
  | error cause => rw [hparse] at hsome; cases hsome
  | ok e =>
      have hadmits : AdmitsNesting .standard Registry.builtin ⟨3, 300, 31, true⟩
          "2^-3^pow(2, pi) / (1)" := by
        intro cause herror
        rw [hparse] at herror
        cases herror
      have hiff := ((parse_eq_ok_iff Host.standard Registry.builtin ⟨3, 300, 31, true⟩
        "2^-3^pow(2, pi) / (1)").1 hadmits).1 e
      exact ⟨hadmits, e, (hiff.mp hparse).2⟩

end Calculator
