import Mathlib
import Calculator.Config.Loader
import Calculator.Proofs.Token.Reads

/-!
# Texts and their lexemes

`Lexes v text w rest` says that from any cursor in front of `text` the lexemes `w` are read, and
that the cursor then stands in front of `rest`. Runs of digits and names are the longest possible,
so `text` has the characters of `rest` at its end, and these must not go on with the run
(`IsBoundary`). `Stumbles v text` says that reading `text` does not end well: it comes to a fault, or
to a name right after a number.
-/

set_option autoImplicit false

namespace Calculator

variable {v : Vocabulary}

/-! ## Blanks -/

namespace Cursor

theorem skipBlanks_of_not_isBlank {c : Cursor} {ch : Char} {rest : List Char}
    (hrest : c.rest = ch :: rest) (hch : isBlank ch = false) : c.skipBlanks = c := by
  obtain ⟨pos, text⟩ := c
  simp only at hrest
  have hne : ¬ isBlank ch = true := by simp [hch]
  simp [skipBlanks, span, hrest, List.takeWhile_cons_of_neg hne, List.dropWhile_cons_of_neg hne]

/-- In front of a character that is not blank its lexeme is read. -/
theorem read_of_not_isBlank {c : Cursor} {ch : Char} {rest : List Char}
    (hrest : c.rest = ch :: rest) (hch : isBlank ch = false) :
    c.read v = c.readLexeme v ch := by
  rw [read, skipBlanks_of_not_isBlank hrest hch, hrest]

/-- Blanks are skipped. -/
theorem skipBlanks_blanks {blanks rest : List Char} (hblanks : ∀ ch ∈ blanks, isBlank ch = true)
    (pos : Nat) :
    skipBlanks ⟨pos, blanks ++ rest⟩ = skipBlanks ⟨pos + blanks.length, rest⟩ := by
  simp only [skipBlanks, span, List.takeWhile_append_of_pos hblanks,
    List.dropWhile_append_of_pos hblanks, List.length_append, Nat.add_assoc]

theorem read_blanks {blanks rest : List Char} (hblanks : ∀ ch ∈ blanks, isBlank ch = true)
    (pos : Nat) :
    Cursor.read v ⟨pos, blanks ++ rest⟩ = Cursor.read v ⟨pos + blanks.length, rest⟩ := by
  rw [read, read, skipBlanks_blanks hblanks]

/-- A blank is skipped. -/
theorem read_blank {c : Cursor} {rest : List Char} (hrest : c.rest = ' ' :: rest) :
    c.read v = Cursor.read v ⟨c.pos + 1, rest⟩ := by
  obtain ⟨pos, text⟩ := c
  obtain rfl : text = [' '] ++ rest := hrest
  have hblanks : ∀ ch ∈ [' '], isBlank ch = true := by simp [isBlank]
  exact read_blanks hblanks pos

end Cursor

/-! ## Classes of characters -/

/-- A blank belongs to no run of digits and to no name. -/
theorem class_of_isBlank {ch : Char} (h : isBlank ch = true) :
    isNumeralChar ch = false ∧ ch.isAlpha = false := by
  simp only [isBlank, Bool.or_eq_true, decide_eq_true_eq] at h
  rcases h with ((rfl | rfl) | rfl) | rfl <;> exact ⟨rfl, rfl⟩

theorem not_isBlank_of_isNumeralChar {ch : Char} (h : isNumeralChar ch = true) :
    isBlank ch = false := by
  rw [Bool.eq_false_iff]
  intro hblank
  rw [(class_of_isBlank hblank).1] at h
  cases h

theorem not_isBlank_of_isAlpha {ch : Char} (h : ch.isAlpha = true) : isBlank ch = false := by
  rw [Bool.eq_false_iff]
  intro hblank
  rw [(class_of_isBlank hblank).2] at h
  cases h

theorem not_isNumeralChar_of_isAlpha {ch : Char} (h : ch.isAlpha = true) :
    isNumeralChar ch = false := by
  rw [Bool.eq_false_iff]
  intro hnumeral
  rcases Bool.or_eq_true_iff.mp hnumeral with hdigit | hpoint
  · -- digits stand below the letters
    have hbelow : ch.toNat ≤ 57 := (Char.isDigit_iff_toNat.mp hdigit).2
    have habove : 65 ≤ ch.toNat := by
      simp only [Char.isAlpha, Char.isUpper, Char.isLower, Bool.or_eq_true, Bool.and_eq_true,
        decide_eq_true_eq, ge_iff_le, UInt32.le_iff_toNat_le] at h
      rcases h with h | h
      · exact h.1
      · exact Nat.le_trans (by decide) h.1
    omega
  · rw [of_decide_eq_true hpoint] at h
    cases h

/-! ## Boundaries -/

/-- What follows does not go on with a run of digits or a name. -/
def IsBoundary (text : List Char) : Prop :=
  ∀ ch ∈ text.head?, isNumeralChar ch = false ∧ ch.isAlphanum = false

theorem isBoundary_nil : IsBoundary [] := by
  rintro ch ⟨⟩

theorem isBoundary_cons (c : Char) (text : List Char)
    (h : isNumeralChar c = false ∧ c.isAlphanum = false) : IsBoundary (c :: text) := by
  rintro ch ⟨⟩
  exact h

theorem span_of_boundary {p : Char → Bool} {run rest : List Char} (hrun : ∀ ch ∈ run, p ch = true)
    (hrest : ∀ ch ∈ rest.head?, p ch = false) {c : Cursor} (hc : c.rest = run ++ rest) :
    c.span p = (run, ⟨c.pos + run.length, rest⟩) := by
  have htake : rest.takeWhile p = [] := by
    cases rest with
    | nil => rfl
    | cons ch rest => exact List.takeWhile_cons_of_neg (by simp [hrest ch rfl])
  have hdrop : rest.dropWhile p = rest := by
    cases rest with
    | nil => rfl
    | cons ch rest => exact List.dropWhile_cons_of_neg (by simp [hrest ch rfl])
  simp only [Cursor.span, hc, List.takeWhile_append_of_pos hrun, List.dropWhile_append_of_pos hrun,
    htake, hdrop, List.append_nil]

/-- Two runs of one class that end where the class ends are the same, and so is what follows. -/
theorem append_inj_of_boundary {p : Char → Bool} {run run' rest rest' : List Char}
    (hrun : ∀ ch ∈ run, p ch = true) (hrun' : ∀ ch ∈ run', p ch = true)
    (hrest : ∀ ch ∈ rest.head?, p ch = false) (hrest' : ∀ ch ∈ rest'.head?, p ch = false)
    (h : run ++ rest = run' ++ rest') : run = run' ∧ rest = rest' := by
  have hspan := span_of_boundary hrun hrest (c := ⟨0, run ++ rest⟩) rfl
  have hspan' := span_of_boundary hrun' hrest' (c := ⟨0, run ++ rest⟩) h
  obtain ⟨hruns, hcursors⟩ := Prod.mk.inj (hspan.symm.trans hspan')
  exact ⟨hruns, (Cursor.mk.inj hcursors).2⟩

/-- A name is made of letters and digits. -/
theorem isAlphanum_of_isName {name : List Char} (h : isName name = true) :
    ∀ ch ∈ name, ch.isAlphanum = true := by
  cases name with
  | nil => cases h
  | cons first rest =>
      obtain ⟨hfirst, hrest⟩ := Bool.and_eq_true_iff.mp h
      intro ch hch
      rcases List.mem_cons.mp hch with rfl | hch
      · simp [Char.isAlphanum, hfirst]
      · exact List.all_eq_true.mp hrest ch hch

namespace Cursor

variable {c : Cursor} {run rest : List Char}

theorem read_numeral (hrun : ∀ ch ∈ run, isNumeralChar ch = true) (hne : run ≠ [])
    (hrest : ∀ ch ∈ rest.head?, isNumeralChar ch = false) (hc : c.rest = run ++ rest) :
    c.read v = (.ofLexeme c.pos (Lexeme.ofNumeral run), ⟨c.pos + run.length, rest⟩) := by
  cases run with
  | nil => exact absurd rfl hne
  | cons ch run =>
      have hnumeral : isNumeralChar ch = true := hrun ch (by simp)
      rw [read_of_not_isBlank hc (not_isBlank_of_isNumeralChar hnumeral), readLexeme,
        if_pos hnumeral, span_of_boundary hrun hrest hc]

theorem read_name (hrun : isName run = true) (hrest : ∀ ch ∈ rest.head?, ch.isAlphanum = false)
    (hc : c.rest = run ++ rest) :
    c.read v = (.ofLexeme c.pos (v.classify run), ⟨c.pos + run.length, rest⟩) := by
  cases run with
  | nil => cases hrun
  | cons ch run =>
      have halpha : ch.isAlpha = true := (Bool.and_eq_true_iff.mp hrun).1
      have hnumeral : ¬ isNumeralChar ch = true := by simp [not_isNumeralChar_of_isAlpha halpha]
      rw [read_of_not_isBlank hc (not_isBlank_of_isAlpha halpha), readLexeme, if_neg hnumeral,
        if_pos halpha, span_of_boundary (isAlphanum_of_isName hrun) hrest hc]

/-- An operator, a parenthesis or a comma is read by itself. -/
theorem read_sign {ch : Char} {lexeme : Lexeme} (hblank : isBlank ch = false)
    (hnumeral : isNumeralChar ch = false) (halpha : ch.isAlpha = false)
    (hlexeme : ((Operator.ofChar? ch).map Lexeme.operator <|> Lexeme.ofPunctuation? ch) =
      some lexeme) (hc : c.rest = ch :: rest) :
    c.read v = (.token ⟨lexeme, c.pos⟩, ⟨c.pos + 1, rest⟩) := by
  rw [read_of_not_isBlank hc hblank]
  simp [readLexeme, hnumeral, halpha, hlexeme, hc]

end Cursor

/-! ## Lexemes of a text -/

/-- From any cursor in front of the text these lexemes are read, up to the rest. -/
def Lexes (v : Vocabulary) (text : List Char) (w : List Lexeme) (rest : List Char) : Prop :=
  ∀ c : Cursor, c.rest = text →
    ∃ ts after, c.Reads v ts after ∧ ts.map Token.lexeme = w ∧ after.rest = rest

namespace Lexes

variable {text next rest : List Char} {lexeme : Lexeme} {w u : List Lexeme}

theorem trans (hw : Lexes v text w next) (hu : Lexes v next u rest) :
    Lexes v text (w ++ u) rest := by
  intro c hc
  obtain ⟨ts, mid, hts, rfl, hmid⟩ := hw c hc
  obtain ⟨us, after, hus, rfl, hafter⟩ := hu mid hmid
  exact ⟨ts ++ us, after, hts.append hus, by simp, hafter⟩

theorem of_read (hread : ∀ c : Cursor, c.rest = text →
      ∃ pos after, c.read v = (.token ⟨lexeme, pos⟩, after) ∧ after.rest = rest) :
    Lexes v text [lexeme] rest := by
  intro c hc
  obtain ⟨pos, after, htoken, hafter⟩ := hread c hc
  exact ⟨[⟨lexeme, pos⟩], after, .cons htoken (.nil after), rfl, hafter⟩

/-- A blank in front of a lexeme does not matter. -/
theorem blank (h : Lexes v text w rest) (hw : w ≠ []) : Lexes v (' ' :: text) w rest := by
  intro c hc
  obtain ⟨ts, after, hts, rfl, hafter⟩ := h ⟨c.pos + 1, text⟩ rfl
  cases hts with
  | nil => exact absurd rfl hw
  | cons hread hmore =>
      exact ⟨_, after, .cons ((Cursor.read_blank hc).trans hread) hmore, rfl, hafter⟩

/-- A sign or a parenthesis is read. -/
theorem symbol {ch : Char} (hblank : isBlank ch = false) (hnumeral : isNumeralChar ch = false)
    (halpha : ch.isAlpha = false)
    (hlexeme : ((Operator.ofChar? ch).map Lexeme.operator <|> Lexeme.ofPunctuation? ch) =
      some lexeme) (rest : List Char) :
    Lexes v (ch :: rest) [lexeme] rest :=
  of_read fun c hc => ⟨c.pos, ⟨c.pos + 1, rest⟩, Cursor.read_sign hblank hnumeral halpha hlexeme hc,
    rfl⟩

theorem operator (op : Operator) (rest : List Char) :
    Lexes v (op.symbol :: rest) [.operator op] rest := by
  cases op <;> exact symbol rfl rfl rfl rfl rest

theorem leftParen (rest : List Char) : Lexes v ('(' :: rest) [.leftParen] rest :=
  symbol rfl rfl rfl rfl rest

theorem rightParen (rest : List Char) : Lexes v (')' :: rest) [.rightParen] rest :=
  symbol rfl rfl rfl rfl rest

theorem comma (rest : List Char) : Lexes v (',' :: rest) [.comma] rest :=
  symbol rfl rfl rfl rfl rest

/-- A run of digits and points is read up to its end. -/
theorem numeral {run : List Char} (hrun : ∀ ch ∈ run, isNumeralChar ch = true) (hne : run ≠ [])
    (hlexeme : Lexeme.ofNumeral run = .ok lexeme) (hrest : IsBoundary rest) :
    Lexes v (run ++ rest) [lexeme] rest := by
  refine of_read fun c hc => ⟨c.pos, ⟨c.pos + run.length, rest⟩, ?_, rfl⟩
  rw [Cursor.read_numeral hrun hne (fun ch hch => (hrest ch hch).1) hc, hlexeme]
  rfl

/-- A name is read up to its end. -/
theorem name {run : List Char} (hrun : isName run = true) (hlexeme : v.classify run = .ok lexeme)
    (hrest : IsBoundary rest) : Lexes v (run ++ rest) [lexeme] rest := by
  refine of_read fun c hc => ⟨c.pos, ⟨c.pos + run.length, rest⟩, ?_, rfl⟩
  rw [Cursor.read_name hrun (fun ch hch => (hrest ch hch).2) hc, hlexeme]
  rfl

/-- The tokens of a text that is read to its end. -/
theorem ofSource {source : String} (h : Lexes v source.toList w []) :
    ∃ ts pos, Scan.ofSource v source = ⟨ts, .endOfInput pos⟩ ∧ ts.map Token.lexeme = w := by
  obtain ⟨ts, after, hts, hlexemes, hafter⟩ := h (Cursor.ofSource source) rfl
  have hend : after.read v = (.endOfInput after.skipBlanks.pos, after.skipBlanks) := by
    have hnil : after.skipBlanks.rest = [] := by simp [Cursor.skipBlanks, Cursor.span, hafter]
    rw [Cursor.read, hnil]
  exact ⟨ts, _, Scan.ofSource_eq hts (.endOfInput hend), hlexemes⟩

end Lexes

/-! ## Texts that are not read to their end -/

/-- A constant or a function. -/
def Lexeme.isName : Lexeme → Bool
  | .constant _ => true
  | .function _ => true
  | _ => false

theorem Lexeme.isName_of_classify {name : List Char} {lexeme : Lexeme}
    (h : v.classify name = .ok lexeme) : lexeme.isName = true := by
  rcases Vocabulary.classify_eq_ok_iff.mp h with ⟨-, rfl⟩ | ⟨-, rfl⟩ <;> rfl

/-- At a letter there is a name or a fault. -/
theorem Cursor.read_letter {c : Cursor} {letter : Char} {rest : List Char}
    (hletter : letter.isAlpha = true) (hc : c.rest = letter :: rest) :
    (∃ f after, c.read v = (.fault f, after)) ∨
      ∃ u after, c.read v = (.token u, after) ∧ u.lexeme.isName = true := by
  have hnumeral : ¬ isNumeralChar letter = true := by simp [not_isNumeralChar_of_isAlpha hletter]
  rw [read_of_not_isBlank hc (not_isBlank_of_isAlpha hletter), readLexeme, if_neg hnumeral,
    if_pos hletter]
  cases hclass : v.classify (c.span Char.isAlphanum).1 with
  | error cause => exact Or.inl ⟨_, _, by simp only [hclass]; rfl⟩
  | ok lexeme =>
      exact Or.inr ⟨_, _, by simp only [hclass]; rfl, Lexeme.isName_of_classify hclass⟩

/-- Reading on comes to a fault, or to a name right after a number. -/
inductive Cursor.Stumbles (v : Vocabulary) : Cursor → Prop
  | fault {c after : Cursor} {f : LexicalFault} : c.read v = (.fault f, after) → Stumbles v c
  | name {c next after : Cursor} {t u : Token} {text : String} {value : Float} :
      c.read v = (.token t, next) → t.lexeme = .number text value →
      next.read v = (.token u, after) → u.lexeme.isName = true → Stumbles v c
  | later {c next : Cursor} {t : Token} : c.read v = (.token t, next) → Stumbles v next →
      Stumbles v c

/-- Reading the text comes to a fault, or to a name right after a number. -/
def Stumbles (v : Vocabulary) (text : List Char) : Prop :=
  ∀ c : Cursor, c.rest = text → c.Stumbles v

namespace Stumbles

variable {text rest : List Char} {w : List Lexeme}

theorem blank (h : Stumbles v text) : Stumbles v (' ' :: text) := by
  intro c hc
  have hread := Cursor.read_blank (v := v) hc
  cases h ⟨c.pos + 1, text⟩ rfl with
  | fault hfault => exact .fault (hread.trans hfault)
  | name ht htext hu hname => exact .name (hread.trans ht) htext hu hname
  | later ht hnext => exact .later (hread.trans ht) hnext

/-- What comes before does not matter. -/
theorem of_lexes (hw : Lexes v text w rest) (h : Stumbles v rest) : Stumbles v text := by
  intro c hc
  obtain ⟨ts, after, hts, -, hafter⟩ := hw c hc
  have hstumbles := h after hafter
  clear hw hc hafter
  induction hts with
  | nil c => exact hstumbles
  | cons hread _ ih => exact .later hread (ih hstumbles)

/-- A numeral with a letter right after it is not read. -/
theorem numeral {run : List Char} (hrun : ∀ ch ∈ run, isNumeralChar ch = true) (hne : run ≠ [])
    {letter : Char} (hletter : letter.isAlpha = true) (rest : List Char) :
    Stumbles v (run ++ letter :: rest) := by
  intro c hc
  have hboundary : ∀ ch ∈ (letter :: rest).head?, isNumeralChar ch = false := by
    rintro ch ⟨⟩
    exact not_isNumeralChar_of_isAlpha hletter
  have hread := Cursor.read_numeral (v := v) hrun hne hboundary hc
  unfold Lexeme.ofNumeral at hread
  -- the run may be no number, as `1.2.3` is none; else the letter begins a name, or a fault
  cases hnumber : Decimal.ofChars? run with
  | none =>
      rw [hnumber] at hread
      exact .fault hread
  | some d =>
      rw [hnumber] at hread
      rcases Cursor.read_letter (v := v) (c := ⟨c.pos + run.length, letter :: rest⟩) hletter rfl with
        ⟨f, after, hfault⟩ | ⟨u, after, hname, hisName⟩
      · exact .later hread (.fault hfault)
      · exact .name hread rfl hname hisName

/-- A name without a lexeme is not read. -/
theorem unknown {run : List Char} (hrun : isName run = true) {cause : LexicalError}
    (hcause : v.classify run = .error cause) (hrest : IsBoundary rest) :
    Stumbles v (run ++ rest) := by
  intro c hc
  have hread := Cursor.read_name (v := v) hrun (fun ch hch => (hrest ch hch).2) hc
  rw [hcause] at hread
  exact .fault hread

end Stumbles

end Calculator
