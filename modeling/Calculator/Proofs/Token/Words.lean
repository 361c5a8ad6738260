import Mathlib
import Calculator.Proofs.Number.Numerals
import Calculator.Proofs.Registry.Lookups
import Calculator.Proofs.Token.Lexes
import Calculator.Token.Listing

/-!
# Words

A source is made of words: numerals, names and single signs. `Word.lexeme v` is the lexeme of a
word, or the fault that it is, and `Word.entry v` says how the word is listed.

In front of a word, whatever blanks come first, the reader reads just this word, unless the next
character goes on with it (`Piece.read`). Conversely every token that is read is one of a word with
blanks in front of it, and the next character does not go on with it (`Cursor.exists_piece`).
-/

set_option autoImplicit false

namespace Calculator

/-! ## Words -/

/-- A word of a source. -/
inductive Word where
  | number (text : List Char) (isNumeral : IsNumeral text)
  | name (text : List Char) (isName : isName text = true)
  | operator (op : Operator)
  | leftParen
  | rightParen
  | comma

namespace Word

/-- The characters of a word. -/
def chars : Word → List Char
  | number text _ => text
  | name text _ => text
  | operator op => [op.symbol]
  | leftParen => ['(']
  | rightParen => [')']
  | comma => [',']

theorem chars_ne_nil (w : Word) : w.chars ≠ [] := by
  cases w with
  | number text hnumeral =>
      obtain ⟨digit, hdigit, -⟩ := hnumeral.2.2
      exact List.ne_nil_of_mem hdigit
  | name text hname =>
      rintro rfl
      cases hname
  | _ => simp [chars]

/-- A name must be registered, as it is looked up; other words are always known. -/
def IsKnown (v : Vocabulary) : Word → Prop
  | name text _ =>
      v.registry.isConstant (v.cut text) = true ∨ v.registry.isFunction (v.cut text) = true
  | _ => True

/-- How a known word at a position is listed. -/
def entry (v : Vocabulary) (pos : Nat) : Word → Entry
  | number text _ => ⟨"number", String.ofList text, pos, readFloat? text⟩
  | name text _ =>
      ⟨if v.registry.isConstant (v.cut text) then "constant" else "function", v.cut text, pos, none⟩
  | operator op => ⟨"operator", op.symbol.toString, pos, none⟩
  | leftParen => ⟨"lparen", "(", pos, none⟩
  | rightParen => ⟨"rparen", ")", pos, none⟩
  | comma => ⟨"comma", ",", pos, none⟩

/-- The lexeme of a word, or why it has none. -/
def lexeme (v : Vocabulary) : Word → Except LexicalError Lexeme
  | number text _ => Lexeme.ofNumeral text
  | name text _ => v.classify text
  | operator op => .ok (.operator op)
  | leftParen => .ok .leftParen
  | rightParen => .ok .rightParen
  | comma => .ok .comma

variable {v : Vocabulary} {w : Word}

theorem isNumeralChar_of_isNumeral {text : List Char} (h : IsNumeral text) :
    ∀ c ∈ text, isNumeralChar c = true :=
  fun c hc => isNumeralChar_iff.mpr (h.1 c hc)

/-- A name begins with a letter. -/
theorem isAlpha_of_head? {text : List Char} (h : isName text = true) :
    ∀ ch ∈ text.head?, ch.isAlpha = true := by
  cases text with
  | nil => cases h
  | cons first rest =>
      rintro ch ⟨⟩
      exact (Bool.and_eq_true_iff.mp h).1

/-- No word begins with a blank. -/
theorem not_isBlank_of_head? (w : Word) : ∀ ch ∈ w.chars.head?, isBlank ch = false := by
  intro ch hch
  cases w with
  | number text hnumeral =>
      have hmem : ch ∈ text := List.mem_of_mem_head? hch
      exact not_isBlank_of_isNumeralChar (isNumeralChar_of_isNumeral hnumeral ch hmem)
  | name text hname => exact not_isBlank_of_isAlpha (isAlpha_of_head? hname ch hch)
  | operator op =>
      cases hch
      cases op <;> rfl
  | _ =>
      cases hch
      rfl

/-- A known word has a lexeme, which is listed as the word is. -/
theorem exists_lexeme (h : w.IsKnown v) :
    ∃ l, w.lexeme v = .ok l ∧ ∀ pos, Token.entry ⟨l, pos⟩ = w.entry v pos := by
  cases w with
  | number text hnumeral =>
      have hchars := isNumeralChar_of_isNumeral hnumeral
      obtain ⟨d, hd⟩ :=
        Option.isSome_iff_exists.mp ((Decimal.isSome_ofChars?_iff hchars).mpr hnumeral)
      refine ⟨.number (String.ofList text) (d.toFloat false), ?_, fun pos => ?_⟩
      · simp only [lexeme, Lexeme.ofNumeral, hd]
      · rw [entry, readFloat?_eq hchars, hd]
        rfl
  | name text hname =>
      rcases h with hconstant | hfunction
      · refine ⟨_, Vocabulary.classify_eq_ok_iff.mpr (Or.inl ⟨hconstant, rfl⟩), fun pos => ?_⟩
        rw [entry, if_pos hconstant]
        rfl
      · refine ⟨_, Vocabulary.classify_eq_ok_iff.mpr (Or.inr ⟨hfunction, rfl⟩), fun pos => ?_⟩
        rw [entry, if_neg (Registry.not_isConstant_of_isFunction hfunction)]
        rfl
  | operator op => exact ⟨.operator op, rfl, fun _ => rfl⟩
  | leftParen => exact ⟨.leftParen, rfl, fun _ => rfl⟩
  | rightParen => exact ⟨.rightParen, rfl, fun _ => rfl⟩
  | comma => exact ⟨.comma, rfl, fun _ => rfl⟩

/-- A word that has a lexeme is known. -/
theorem isKnown_of_lexeme {l : Lexeme} (h : w.lexeme v = .ok l) : w.IsKnown v := by
  cases w with
  | name text hname =>
      rcases Vocabulary.classify_eq_ok_iff.mp h with ⟨hconstant, -⟩ | ⟨hfunction, -⟩
      · exact Or.inl hconstant
      · exact Or.inr hfunction
  | _ => trivial

/-! ## Where a word ends -/

/-- The characters that would go on with a word. -/
def goesOn : Word → Char → Bool
  | number _ _ => isNumeralChar
  | name _ _ => Char.isAlphanum
  | _ => fun _ => false

/-- The rest does not go on with the word. -/
def EndsBefore (w : Word) (rest : List Char) : Prop := ∀ ch ∈ rest.head?, w.goesOn ch = false

/-- In front of a word that ends where the rest begins, the word is read. -/
theorem read {c : Cursor} {rest : List Char} (hend : w.EndsBefore rest)
    (hc : c.rest = w.chars ++ rest) :
    c.read v = (.ofLexeme c.pos (w.lexeme v), ⟨c.pos + w.chars.length, rest⟩) := by
  cases w with
  | number text hnumeral =>
      obtain ⟨digit, hdigit, -⟩ := hnumeral.2.2
      exact Cursor.read_numeral (isNumeralChar_of_isNumeral hnumeral) (List.ne_nil_of_mem hdigit)
        hend hc
  | name text hname => exact Cursor.read_name hname hend hc
  | operator op => cases op <;> exact Cursor.read_sign rfl rfl rfl rfl hc
  | leftParen => exact Cursor.read_sign rfl rfl rfl rfl hc
  | rightParen => exact Cursor.read_sign rfl rfl rfl rfl hc
  | comma => exact Cursor.read_sign rfl rfl rfl rfl hc

end Word

/-! ## Words with blanks in front of them -/

/-- A word with the blanks in front of it. -/
structure Piece where
  blanks : List Char
  word : Word
  isBlank_of_mem : ∀ c ∈ blanks, isBlank c = true

/-- The characters of a piece. -/
def Piece.chars (p : Piece) : List Char := p.blanks ++ p.word.chars

/-- In front of a piece its word is read, if the rest does not go on with it. -/
theorem Piece.read {v : Vocabulary} (p : Piece) {rest : List Char} (hend : p.word.EndsBefore rest)
    (pos : Nat) :
    Cursor.read v ⟨pos, p.chars ++ rest⟩ =
      (.ofLexeme (pos + p.blanks.length) (p.word.lexeme v), ⟨pos + p.chars.length, rest⟩) := by
  have hword : Cursor.read v ⟨pos + p.blanks.length, p.word.chars ++ rest⟩ =
      (.ofLexeme (pos + p.blanks.length) (p.word.lexeme v),
        ⟨pos + p.blanks.length + p.word.chars.length, rest⟩) := p.word.read hend rfl
  rw [Piece.chars, List.append_assoc, Cursor.read_blanks p.isBlank_of_mem, hword,
    List.length_append, Nat.add_assoc]

/-! ## What has been read -/

/-- A run ends where its class ends. -/
theorem head?_dropWhile_eq_false {p : Char → Bool} {text : List Char} :
    ∀ ch ∈ (text.dropWhile p).head?, p ch = false := by
  intro ch hch
  have hhead := List.head?_dropWhile_not p text
  rw [Option.mem_def.mp hch] at hhead
  simpa using hhead

theorem Operator.symbol_of_ofChar? {ch : Char} {op : Operator}
    (h : Operator.ofChar? ch = some op) : ch = op.symbol := by
  unfold ofChar? at h
  split at h <;> cases h <;> rfl

/-- An operator, a parenthesis or a comma is a word of its own. -/
theorem Word.exists_of_sign {ch : Char} {l : Lexeme}
    (h : ((Operator.ofChar? ch).map Lexeme.operator <|> Lexeme.ofPunctuation? ch) = some l) :
    ∃ w : Word, w.chars = [ch] ∧ (∀ v, w.lexeme v = .ok l) ∧ ∀ other, w.goesOn other = false := by
  cases hop : Operator.ofChar? ch with
  | some op =>
      rw [hop] at h
      cases h
      rw [Operator.symbol_of_ofChar? hop]
      exact ⟨.operator op, rfl, fun _ => rfl, fun _ => rfl⟩
  | none =>
      rw [hop] at h
      unfold Lexeme.ofPunctuation? at h
      split at h <;> cases h
      · exact ⟨.leftParen, rfl, fun _ => rfl, fun _ => rfl⟩
      · exact ⟨.rightParen, rfl, fun _ => rfl, fun _ => rfl⟩
      · exact ⟨.comma, rfl, fun _ => rfl, fun _ => rfl⟩

/-- What is read of a text that ends before the rest: a word as its lexeme, and a numeral or a name
that cannot be used as a fault. -/
inductive Reports (v : Vocabulary) (text rest : List Char) (start : Nat) : Reading → Prop
  | word {w : Word} {l : Lexeme} : w.chars = text → w.EndsBefore rest → w.lexeme v = .ok l →
      Reports v text rest start (.token ⟨l, start⟩)
  | malformedNumber : text ≠ [] → (∀ ch ∈ text, isNumeralChar ch = true) →
      (∀ ch ∈ rest.head?, isNumeralChar ch = false) → ¬ IsNumeral text →
      Reports v text rest start (.fault ⟨.malformedNumber (String.ofList text), start⟩)
  | unknownName (hname : isName text = true) : (∀ ch ∈ rest.head?, ch.isAlphanum = false) →
      ¬ (Word.name text hname).IsKnown v →
      Reports v text rest start (.fault ⟨.unknownName (v.cut text), start⟩)

theorem reports_numeral {v : Vocabulary} {text rest : List Char} (hne : text ≠ [])
    (htext : ∀ ch ∈ text, isNumeralChar ch = true)
    (hrest : ∀ ch ∈ rest.head?, isNumeralChar ch = false) (start : Nat) :
    Reports v text rest start (.ofLexeme start (Lexeme.ofNumeral text)) := by
  by_cases hnumeral : IsNumeral text
  · obtain ⟨l, hl, -⟩ := (Word.number text hnumeral).exists_lexeme (v := v) trivial
    have hlexeme : Lexeme.ofNumeral text = .ok l := hl
    rw [hlexeme]
    exact .word (w := .number text hnumeral) rfl hrest hl
  · have hnone : Decimal.ofChars? text = none := by
      rwa [← Decimal.isSome_ofChars?_iff htext, Option.not_isSome_iff_eq_none] at hnumeral
    simp only [Lexeme.ofNumeral, hnone]
    exact .malformedNumber hne htext hrest hnumeral

theorem reports_name {v : Vocabulary} {text rest : List Char} (hname : isName text = true)
    (hrest : ∀ ch ∈ rest.head?, ch.isAlphanum = false) (start : Nat) :
    Reports v text rest start (.ofLexeme start (v.classify text)) := by
  by_cases hknown : (Word.name text hname).IsKnown v
  · obtain ⟨l, hl, -⟩ := Word.exists_lexeme hknown
    have hlexeme : v.classify text = .ok l := hl
    rw [hlexeme]
    exact .word (w := .name text hname) rfl hrest hl
  · cases hclass : v.classify text with
    | ok l => exact absurd (Word.isKnown_of_lexeme (w := .name text hname) hclass) hknown
    | error cause =>
        rw [Vocabulary.classify_eq_error hclass]
        exact .unknownName hname hrest hknown

namespace Cursor

variable {v : Vocabulary} {c after : Cursor} {t : Token}

/-- In front of a character that is not blank a text is read as far as it goes, unless no text
begins with this character. -/
theorem reports_readLexeme {ch : Char} {rest : List Char} (hrest : c.rest = ch :: rest)
    {reading : Reading} (h : c.readLexeme v ch = (reading, after)) :
    (∃ text, c.rest = text ++ after.rest ∧ after.pos = c.pos + text.length ∧
        Reports v text after.rest c.pos reading) ∨
      (isNumeralChar ch = false ∧ ch.isAlpha = false ∧
        ((Operator.ofChar? ch).map Lexeme.operator <|> Lexeme.ofPunctuation? ch) = none ∧
        reading = .fault ⟨.unknownCharacter ch, c.pos⟩ ∧ after = c) := by
  unfold readLexeme at h
  split at h
  · next hnumeral =>
      cases h
      left
      refine ⟨_, List.takeWhile_append_dropWhile.symm, rfl, reports_numeral ?_
        (fun other hother => List.mem_takeWhile_imp hother) head?_dropWhile_eq_false c.pos⟩
      rw [hrest, List.takeWhile_cons_of_pos hnumeral]
      exact List.cons_ne_nil _ _
  · next hnumeral =>
      split at h
      · next halpha =>
          cases h
          left
          refine ⟨_, List.takeWhile_append_dropWhile.symm, rfl, reports_name ?_
            head?_dropWhile_eq_false c.pos⟩
          have halnum : ch.isAlphanum = true := by simp [Char.isAlphanum, halpha]
          rw [hrest, List.takeWhile_cons_of_pos halnum, isName, halpha, Bool.true_and]
          exact List.all_eq_true.mpr fun other hother => List.mem_takeWhile_imp hother
      · next halpha =>
          split at h
          · next l hsome =>
              cases h
              left
              obtain ⟨w, hchars, hlexeme, hends⟩ := Word.exists_of_sign hsome
              exact ⟨[ch], by rw [hrest]; rfl, rfl, .word hchars (fun ch _ => hends ch) (hlexeme v)⟩
          · next hnone =>
              cases h
              exact Or.inr ⟨by simpa using hnumeral, by simpa using halpha, hnone, rfl, rfl⟩

/-- A token that is read where no blank stands is a word. -/
theorem exists_word {ch : Char} {rest : List Char} (hrest : c.rest = ch :: rest)
    (h : c.readLexeme v ch = (.token t, after)) :
    ∃ w : Word, c.rest = w.chars ++ after.rest ∧ after.pos = c.pos + w.chars.length ∧
      w.EndsBefore after.rest ∧ w.lexeme v = .ok t.lexeme ∧ t.pos = c.pos := by
  rcases reports_readLexeme hrest h with ⟨text, htext, hafter, hreports⟩ | ⟨-, -, -, hfault, -⟩
  · cases hreports with
    | @word w l hchars hends hlexeme =>
        rw [← hchars] at htext hafter
        exact ⟨w, htext, hafter, hends, hlexeme, rfl⟩
  · cases hfault

/-- Every token that is read is a word behind blanks, up to a character that does not go on with
it. -/
theorem exists_piece (h : c.read v = (.token t, after)) :
    ∃ p : Piece, c.rest = p.chars ++ after.rest ∧ after.pos = c.pos + p.chars.length ∧
      p.word.EndsBefore after.rest ∧ p.word.lexeme v = .ok t.lexeme ∧
      t.pos = c.pos + p.blanks.length := by
  unfold Cursor.read at h
  split at h
  · cases h
  · next ch rest hrest =>
      obtain ⟨w, hchars, hafter, hends, hlexeme, hpos⟩ := exists_word hrest h
      let p : Piece := ⟨c.rest.takeWhile isBlank, w, fun c' hc' => List.mem_takeWhile_imp hc'⟩
      have hsplit : c.rest = c.rest.takeWhile isBlank ++ c.skipBlanks.rest :=
        List.takeWhile_append_dropWhile.symm
      refine ⟨p, ?_, ?_, hends, hlexeme, hpos⟩
      · rw [hchars] at hsplit
        rw [Piece.chars, List.append_assoc]
        exact hsplit
      · rw [hafter, Piece.chars, List.length_append, ← Nat.add_assoc]
        rfl

variable {source : List Char} {ts : List Token}

/-- At the position of every token of a run its word stands. -/
theorem At.exists_word_of_reads (h : c.At source) (hts : Reads v c ts after) (hmem : t ∈ ts) :
    ∃ w : Word, w.lexeme v = .ok t.lexeme ∧ w.chars <+: source.drop t.pos := by
  induction hts with
  | nil c => cases hmem
  | @cons c next after u us hread _ ih =>
      rcases List.mem_cons.mp hmem with rfl | hmem
      · obtain ⟨p, hrest, -, -, hlexeme, hpos⟩ := exists_piece hread
        refine ⟨p.word, hlexeme, next.rest, ?_⟩
        have hdrop : c.rest.drop p.blanks.length = p.word.chars ++ next.rest := by
          rw [hrest, Piece.chars, List.append_assoc, List.drop_left]
        rw [hpos, ← List.drop_drop, ← h.2, hdrop]
      · have hnext := h.read (v := v)
        rw [hread] at hnext
        exact ih hnext hmem

end Cursor

/-! ## Tokens of a source -/

/-- The character of a lexeme that is a single sign. -/
def Lexeme.sign? : Lexeme → Option Char
  | .operator op => some op.symbol
  | .leftParen => some '('
  | .rightParen => some ')'
  | .comma => some ','
  | _ => none

/-- Only a sign itself is read as this sign. -/
theorem Word.chars_of_sign {v : Vocabulary} {w : Word} {l : Lexeme} {sign : Char}
    (hl : w.lexeme v = .ok l) (hsign : l.sign? = some sign) : w.chars = [sign] := by
  cases w with
  | number text hnumeral =>
      simp only [lexeme, Lexeme.ofNumeral] at hl
      split at hl <;> cases hl
      cases hsign
  | name text hname =>
      rcases Vocabulary.classify_eq_ok_iff.mp hl with ⟨-, rfl⟩ | ⟨-, rfl⟩ <;> cases hsign
  | _ =>
      cases hl
      cases hsign
      rfl

namespace Scan

variable {v : Vocabulary} {source : String} {t : Token}

theorem exists_word (hmem : t ∈ (ofSource v source).tokens) :
    ∃ w : Word, w.lexeme v = .ok t.lexeme ∧ w.chars <+: source.toList.drop t.pos := by
  obtain ⟨after, hreads, -⟩ := exists_reads v source
  exact (Cursor.at_ofSource source).exists_word_of_reads hreads hmem

/-- Every token begins in front of the end of the source. -/
theorem pos_lt_length (hmem : t ∈ (ofSource v source).tokens) : t.pos < source.toList.length := by
  obtain ⟨w, -, hprefix⟩ := exists_word hmem
  have hlength : w.chars.length ≤ source.toList.length - t.pos := by
    rw [← List.length_drop]
    exact hprefix.length_le
  have hword : 0 < w.chars.length := List.length_pos_of_ne_nil w.chars_ne_nil
  omega

/-- A sign that is read stands in the source, at its position. -/
theorem getElem?_of_sign {sign : Char} (hmem : t ∈ (ofSource v source).tokens)
    (hsign : t.lexeme.sign? = some sign) : source.toList[t.pos]? = some sign := by
  obtain ⟨w, hlexeme, rest, hrest⟩ := exists_word hmem
  rw [Word.chars_of_sign hlexeme hsign] at hrest
  calc source.toList[t.pos]? = (source.toList.drop t.pos)[0]? := by
        rw [List.getElem?_drop, Nat.add_zero]
    _ = some sign := by
        rw [← hrest]
        rfl

/-- Every operator of a source is one of its characters. -/
theorem getElem?_of_operator {op : Operator} (hmem : t ∈ (ofSource v source).tokens)
    (ht : t.lexeme = .operator op) : source.toList[t.pos]? = some op.symbol :=
  getElem?_of_sign hmem (by rw [ht]; rfl)

end Scan

end Calculator
