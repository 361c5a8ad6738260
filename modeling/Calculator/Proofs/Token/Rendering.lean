import Mathlib
import Calculator.Proofs.Grammar.Language
import Calculator.Proofs.Token.Words

/-!
# Sources as renderings of words

A source is read to its end exactly when it is a list of known words with blanks before, between and
after them. Words that would run together need a blank between them: two numerals, two names, and a
name and a numeral that begins with a digit. The tokens are then the words, in order, each at the
position of its first character (`Scan.entries_eq_ok_iff`).

Words are apart exactly when no word goes on with the one before it (`isChain_cons_iff`), so that the
longest match finds the words again.
-/

set_option autoImplicit false

namespace Calculator

/-! ## Renderings -/

/-- The second word would go on with the first one. -/
def Word.RunsInto : Word → Word → Prop
  | .number _ _, .number _ _ => True
  | .name _ _, .name _ _ => True
  | .name _ _, .number text _ => ∃ ch ∈ text.head?, ch.isDigit = true
  | _, _ => False

/-- There is a blank between words that would run together. -/
def Piece.Apart (p q : Piece) : Prop := p.word.RunsInto q.word → q.blanks ≠ []

/-- The characters of several pieces. -/
def piecesText (pieces : List Piece) : List Char := pieces.flatMap Piece.chars

theorem piecesText_cons (p : Piece) (pieces : List Piece) :
    piecesText (p :: pieces) = p.chars ++ piecesText pieces := List.flatMap_cons

/-- The source is made of these pieces, with blanks after the last one. -/
structure IsRendering (source : List Char) (pieces : List Piece) (trailing : List Char) : Prop where
  source_eq : source = piecesText pieces ++ trailing
  isBlank_of_mem : ∀ ch ∈ trailing, isBlank ch = true
  isChain : pieces.IsChain Piece.Apart

/-- The pieces that begin at a position, as they are listed. -/
def listing (v : Vocabulary) : Nat → List Piece → List Entry
  | _, [] => []
  | pos, p :: rest =>
      p.word.entry v (pos + p.blanks.length) :: listing v (pos + p.chars.length) rest

/-! ## Words next to each other -/

/-- A blank goes on with no word. -/
theorem Word.goesOn_of_isBlank (w : Word) {ch : Char} (h : isBlank ch = true) :
    w.goesOn ch = false := by
  obtain ⟨hnumeral, halpha⟩ := class_of_isBlank h
  cases w with
  | number _ _ => exact hnumeral
  | name _ _ =>
      have hdigit : ch.isDigit = false := (Bool.or_eq_false_iff.mp hnumeral).1
      show (ch.isAlpha || ch.isDigit) = false
      rw [halpha, hdigit]
      rfl
  | _ => rfl

/-- No sign goes on with a word. -/
theorem Word.goesOn_iff_of_sign (w : Word) {next : Word} {ch : Char}
    (hnumeral : isNumeralChar ch = false) (halphanum : ch.isAlphanum = false)
    (hnext : ¬ w.RunsInto next) : w.goesOn ch = true ↔ w.RunsInto next := by
  have hnot : w.goesOn ch = false := by
    cases w with
    | number _ _ => exact hnumeral
    | name _ _ => exact halphanum
    | _ => rfl
  rw [hnot]
  exact iff_of_false Bool.false_ne_true hnext

/-- A character of a numeral goes on with a name only if it is a digit. -/
theorem isAlphanum_of_isNumeralChar {ch : Char} (h : isNumeralChar ch = true) :
    ch.isAlphanum = true ↔ ch.isDigit = true := by
  rcases isNumeralChar_iff.mp h with hdigit | rfl
  · simp [Char.isAlphanum, hdigit]
  · decide

/-- The next word goes on with a word exactly when the two would run together. -/
theorem Word.goesOn_iff (w : Word) {next : Word} {ch : Char} (hch : ch ∈ next.chars.head?) :
    w.goesOn ch = true ↔ w.RunsInto next := by
  cases next with
  | number text hnumeral =>
      have hchar : isNumeralChar ch = true :=
        isNumeralChar_of_isNumeral hnumeral ch (List.mem_of_mem_head? hch)
      cases w with
      | number _ _ => exact iff_of_true hchar trivial
      | name _ _ =>
          refine (isAlphanum_of_isNumeralChar hchar).trans ⟨fun h => ⟨ch, hch, h⟩, ?_⟩
          rintro ⟨digit, hdigit, h⟩
          rw [Option.mem_unique hch hdigit]
          exact h
      | _ => exact iff_of_false (by simp [goesOn]) id
  | name text hname =>
      have halpha : ch.isAlpha = true := isAlpha_of_head? hname ch hch
      cases w with
      | number _ _ =>
          exact iff_of_false (by simp [goesOn, not_isNumeralChar_of_isAlpha halpha]) id
      | name _ _ => exact iff_of_true (by simp [goesOn, Char.isAlphanum, halpha]) trivial
      | _ => exact iff_of_false (by simp [goesOn]) id
  | operator op =>
      cases hch
      cases op <;> exact w.goesOn_iff_of_sign rfl rfl (by cases w <;> exact id)
  | leftParen =>
      cases hch
      exact w.goesOn_iff_of_sign rfl rfl (by cases w <;> exact id)
  | rightParen =>
      cases hch
      exact w.goesOn_iff_of_sign rfl rfl (by cases w <;> exact id)
  | comma =>
      cases hch
      exact w.goesOn_iff_of_sign rfl rfl (by cases w <;> exact id)

/-- A word ends before the blanks that follow it. -/
theorem Word.endsBefore_blanks (w : Word) {blanks : List Char}
    (h : ∀ ch ∈ blanks, isBlank ch = true) (rest : List Char) (hne : blanks ≠ []) :
    w.EndsBefore (blanks ++ rest) := by
  intro ch hch
  rw [List.head?_append_of_ne_nil _ hne] at hch
  exact w.goesOn_of_isBlank (h ch (List.mem_of_mem_head? hch))

/-- A word ends before a piece exactly when there is a blank between them if there has to be. -/
theorem Word.endsBefore_piece_iff (w : Word) (q : Piece) (rest : List Char) :
    w.EndsBefore (q.chars ++ rest) ↔ (w.RunsInto q.word → q.blanks ≠ []) := by
  rw [Piece.chars, List.append_assoc]
  by_cases hblanks : q.blanks = []
  · -- the next character is the first one of the word
    obtain ⟨ch, tail, hchars⟩ := List.exists_cons_of_ne_nil q.word.chars_ne_nil
    have hiff : w.goesOn ch = true ↔ w.RunsInto q.word := w.goesOn_iff (by simp [hchars])
    have hends : w.EndsBefore (q.blanks ++ (q.word.chars ++ rest)) ↔ w.goesOn ch = false := by
      simp [EndsBefore, hblanks, hchars]
    rw [hends, ← Bool.not_eq_true, hiff]
    exact ⟨fun hnot hruns => absurd hruns hnot, fun h hruns => h hruns hblanks⟩
  · exact iff_of_true (w.endsBefore_blanks q.isBlank_of_mem _ hblanks) fun _ => hblanks

section

variable {trailing : List Char} (htrailing : ∀ ch ∈ trailing, isBlank ch = true)
include htrailing

/-- Pieces are apart when each word ends before what follows it. -/
theorem isChain_cons_iff (p : Piece) (pieces : List Piece) :
    (p :: pieces).IsChain Piece.Apart ↔
      p.word.EndsBefore (piecesText pieces ++ trailing) ∧ pieces.IsChain Piece.Apart := by
  cases pieces with
  | nil =>
      have hends : p.word.EndsBefore trailing := by
        intro ch hch
        exact p.word.goesOn_of_isBlank (htrailing ch (List.mem_of_mem_head? hch))
      exact iff_of_true (List.isChain_singleton p) ⟨hends, List.isChain_nil⟩
  | cons q rest =>
      rw [List.isChain_cons_cons, piecesText_cons, List.append_assoc,
        Word.endsBefore_piece_iff]
      rfl

/-! ## Runs through pieces -/

/-- Known words that are apart are read one after the other, and listed as they stand. -/
theorem reads_of_pieces {v : Vocabulary} {pieces : List Piece}
    (hchain : pieces.IsChain Piece.Apart) (hknown : ∀ p ∈ pieces, p.word.IsKnown v) (pos : Nat) :
    ∃ ts last, Cursor.Reads v ⟨pos, piecesText pieces ++ trailing⟩ ts ⟨last, trailing⟩ ∧
      ts.map Token.entry = listing v pos pieces ∧
      pieces.map (fun p => p.word.lexeme v) = ts.map fun t => .ok t.lexeme := by
  induction pieces generalizing pos with
  | nil => exact ⟨[], pos, .nil _, rfl, rfl⟩
  | cons p rest ih =>
      obtain ⟨hends, hrest⟩ := (isChain_cons_iff htrailing p rest).mp hchain
      obtain ⟨l, hl, hentry⟩ := Word.exists_lexeme (hknown p (by simp))
      obtain ⟨ts, last, hreads, hlisting, hlexemes⟩ :=
        ih hrest (fun q hq => hknown q (List.mem_cons_of_mem _ hq)) (pos + p.chars.length)
      refine ⟨⟨l, pos + p.blanks.length⟩ :: ts, last, .cons ?_ hreads, ?_, ?_⟩
      · rw [piecesText_cons, List.append_assoc, p.read hends, hl]
        rfl
      · rw [List.map_cons, hentry, hlisting, listing]
      · rw [List.map_cons, List.map_cons, hl, hlexemes]

/-- A run up to blanks goes through known words that are apart. -/
theorem exists_pieces {v : Vocabulary} {c after : Cursor} {ts : List Token}
    (h : Cursor.Reads v c ts after) (hafter : after.rest = trailing) :
    ∃ pieces, c.rest = piecesText pieces ++ trailing ∧ pieces.IsChain Piece.Apart ∧
      ∀ p ∈ pieces, p.word.IsKnown v := by
  induction h with
  | nil c => exact ⟨[], hafter, List.isChain_nil, by simp⟩
  | @cons c next after t ts hread _ ih =>
      obtain ⟨pieces, hnext, hchain, hknown⟩ := ih hafter
      obtain ⟨p, hrest, -, hends, hlexeme, -⟩ := Cursor.exists_piece hread
      rw [hnext] at hrest hends
      refine ⟨p :: pieces, ?_, (isChain_cons_iff htrailing p pieces).mpr ⟨hends, hchain⟩, ?_⟩
      · rw [hrest, piecesText_cons, List.append_assoc]
      · exact List.forall_mem_cons.mpr ⟨Word.isKnown_of_lexeme hlexeme, hknown⟩

end

/-! ## Positions -/

/-- The tokens of a run stand one after the other, none of them before the cursor. -/
theorem Cursor.Reads.ascending {v : Vocabulary} {c after : Cursor} {ts : List Token}
    (h : Cursor.Reads v c ts after) :
    (∀ t ∈ ts, c.pos ≤ t.pos) ∧ (ts.map Token.pos).Pairwise (· < ·) := by
  induction h with
  | nil c => exact ⟨by simp, List.Pairwise.nil⟩
  | @cons c next after t ts hread _ ih =>
      obtain ⟨hbehind, hascending⟩ := ih
      obtain ⟨p, -, hnext, -, -, hpos⟩ := Cursor.exists_piece hread
      have hword : 0 < p.word.chars.length := List.length_pos_of_ne_nil p.word.chars_ne_nil
      rw [Piece.chars, List.length_append] at hnext
      refine ⟨fun u hu => ?_, ?_⟩
      · rcases List.mem_cons.mp hu with rfl | hu
        · omega
        · have hlater := hbehind u hu
          omega
      · rw [List.map_cons, List.pairwise_cons]
        refine ⟨fun pos hmem => ?_, hascending⟩
        obtain ⟨u, hu, rfl⟩ := List.mem_map.mp hmem
        have hlater := hbehind u hu
        omega

/-- The tokens of a source stand in it in their order. -/
theorem Scan.pairwise_pos (v : Vocabulary) (source : String) :
    ((Scan.ofSource v source).tokens.map Token.pos).Pairwise (· < ·) := by
  obtain ⟨after, hreads, -⟩ := Scan.exists_reads v source
  exact hreads.ascending.2

/-! ## Sources -/

/-- The end of the input is found exactly where only blanks are left. -/
theorem Cursor.read_eq_endOfInput_iff {v : Vocabulary} {c : Cursor} :
    (∃ pos after, c.read v = (.endOfInput pos, after)) ↔ ∀ ch ∈ c.rest, isBlank ch = true := by
  rw [← List.dropWhile_eq_nil_iff]
  show _ ↔ c.skipBlanks.rest = []
  constructor
  · rintro ⟨pos, after, h⟩
    unfold Cursor.read at h
    split at h
    · next hnil => exact hnil
    · exact absurd (congrArg Prod.fst h) (readLexeme_ne_endOfInput v _ _ pos)
  · intro hnil
    exact ⟨c.skipBlanks.pos, c.skipBlanks, by rw [Cursor.read, hnil]⟩

namespace Scan

variable {v : Vocabulary} {source : String}

/-- A rendering of known words is read to its end, as these words. -/
theorem exists_ofSource_eq {pieces : List Piece} {trailing : List Char}
    (h : IsRendering source.toList pieces trailing) (hknown : ∀ p ∈ pieces, p.word.IsKnown v) :
    ∃ ts, ofSource v source = ⟨ts, .endOfInput source.toList.length⟩ ∧
      ts.map Token.entry = listing v 0 pieces ∧
      pieces.map (fun p => p.word.lexeme v) = ts.map fun t => .ok t.lexeme := by
  obtain ⟨ts, last, hreads, hlisting, hlexemes⟩ :=
    reads_of_pieces h.isBlank_of_mem h.isChain hknown 0
  rw [← h.source_eq] at hreads
  obtain ⟨pos, after, hread⟩ :=
    (Cursor.read_eq_endOfInput_iff (v := v) (c := ⟨last, trailing⟩)).mpr h.isBlank_of_mem
  have hpos : pos = source.toList.length :=
    ((Cursor.at_ofSource source).reads hreads).pos_endOfInput hread
  exact ⟨ts, by rw [ofSource_eq hreads (.endOfInput hread), hpos], hlisting, hlexemes⟩

/-- The entries of a rendering of known words. -/
theorem entries_of_rendering {pieces : List Piece} {trailing : List Char}
    (h : IsRendering source.toList pieces trailing) (hknown : ∀ p ∈ pieces, p.word.IsKnown v) :
    (ofSource v source).entries =
      .ok (listing v 0 pieces ++ [Entry.endOfInput source.toList.length]) := by
  obtain ⟨ts, hscan, hlisting, -⟩ := exists_ofSource_eq h hknown
  rw [hscan, entries, hlisting]

/-- The lexemes of a rendering are those of its words. -/
theorem lexemes_of_rendering {pieces : List Piece} {trailing : List Char} {w : List Lexeme}
    (h : IsRendering source.toList pieces trailing)
    (hw : pieces.map (fun p => p.word.lexeme v) = w.map Except.ok) :
    (ofSource v source).IsWhole ∧ (ofSource v source).lexemes = w := by
  have hknown : ∀ p ∈ pieces, p.word.IsKnown v := by
    intro p hp
    have hmem : p.word.lexeme v ∈ w.map Except.ok := hw ▸ List.mem_map_of_mem hp
    obtain ⟨l, -, hl⟩ := List.mem_map.mp hmem
    exact Word.isKnown_of_lexeme hl.symm
  obtain ⟨ts, hscan, -, hlexemes⟩ := exists_ofSource_eq h hknown
  refine ⟨isWhole_iff.mpr ⟨_, by rw [hscan]⟩, ?_⟩
  have hsame : (ts.map Token.lexeme).map Except.ok =
      w.map (Except.ok : Lexeme → Except LexicalError Lexeme) := by
    rw [List.map_map, ← hw, hlexemes]
    rfl
  rw [hscan]
  exact List.map_injective_iff.mpr (fun _ _ => Except.ok.inj) hsame

/-- A source is read to its end exactly when it is a rendering of known words, and then its entries
are these words, each at the place where it stands, and the end of the input. -/
theorem entries_eq_ok_iff (v : Vocabulary) (source : String) (entries : List Entry) :
    (ofSource v source).entries = .ok entries ↔
      ∃ pieces trailing, IsRendering source.toList pieces trailing ∧
        (∀ p ∈ pieces, p.word.IsKnown v) ∧
        entries = listing v 0 pieces ++ [Entry.endOfInput source.toList.length] := by
  constructor
  · intro h
    obtain ⟨pos, hstop⟩ := isWhole_iff.mp ⟨entries, h⟩
    obtain ⟨after, hreads, hstops⟩ := exists_reads v source
    rw [hstop] at hstops
    cases hstops with
    | @endOfInput pos next hread =>
        have hblank := Cursor.read_eq_endOfInput_iff.mp ⟨pos, next, hread⟩
        obtain ⟨pieces, hsource, hchain, hknown⟩ := exists_pieces hblank hreads rfl
        have hrendering : IsRendering source.toList pieces after.rest := ⟨hsource, hblank, hchain⟩
        refine ⟨pieces, after.rest, hrendering, hknown, ?_⟩
        exact Except.ok.inj (h.symm.trans (entries_of_rendering hrendering hknown))
  · rintro ⟨pieces, trailing, hrendering, hknown, rfl⟩
    exact entries_of_rendering hrendering hknown

/-- A numeral ends before a letter, and a name before a point, but not before a digit. -/
example :
    (ofSource ⟨Registry.builtin, 31⟩ "2pi\te.5 ").entries.toOption.map (·.map Entry.text) =
        some ["2", "pi", "e", ".5", ""] ∧
      (ofSource ⟨Registry.builtin, 31⟩ "e5").entries.toOption.isNone = true := by
  decide +kernel

end Scan

end Calculator
