import Calculator.Proofs.Token.Words

/-!
# Successive readings

A reader can be asked for one reading after the other, also after a fault and after the end. What
one reading does to its position is `ReadsFrom`: it goes past the whole lexeme that it reports, be
it a token or a fault, and it stays at the end of the source and in front of an unknown character.

So the position never goes back, and a reader that stays once stays for good. Every character that
has been passed and is not blank belongs to exactly one lexeme, and a source without unknown
characters is read to its end (`reads_on_through_faults`).
-/

set_option autoImplicit false

namespace Calculator

/-! ## Characters -/

/-- The characters that are lexemes by themselves. -/
def signs : List Char := ['+', '-', '*', '/', '^', '(', ')', ',']

/-- A blank, or a character with which a lexeme can begin. -/
def isKnownChar (ch : Char) : Bool :=
  isBlank ch || isNumeralChar ch || ch.isAlpha || signs.contains ch

theorem not_mem_signs {ch : Char}
    (h : ((Operator.ofChar? ch).map Lexeme.operator <|> Lexeme.ofPunctuation? ch) = none) :
    ch ∉ signs := by
  intro hmem
  simp only [signs, List.mem_cons, List.not_mem_nil, or_false] at hmem
  rcases hmem with rfl | rfl | rfl | rfl | rfl | rfl | rfl | rfl <;> cases h

/-! ## One reading -/

/-- A token, or a numeral or a name that cannot be used. -/
def Reading.isLexeme : Reading → Bool
  | .token _ => true
  | .endOfInput _ => false
  | .fault f =>
      match f.cause with
      | .unknownCharacter _ => false
      | _ => true

/-- What is read from a position on, and the position from which the next reading goes on. -/
inductive ReadsFrom (v : Vocabulary) (source : List Char) (pos : Nat) : Reading → Nat → Prop
  | lexeme {blanks text rest : List Char} {reading : Reading} :
      source.drop pos = blanks ++ (text ++ rest) → (∀ ch ∈ blanks, isBlank ch = true) →
      Reports v text rest (pos + blanks.length) reading →
      ReadsFrom v source pos reading (pos + blanks.length + text.length)
  | endOfInput : (∀ ch ∈ source.drop pos, isBlank ch = true) →
      ReadsFrom v source pos (.endOfInput source.length) source.length
  | unknownCharacter {blanks rest : List Char} {ch : Char} :
      source.drop pos = blanks ++ ch :: rest → (∀ ch ∈ blanks, isBlank ch = true) →
      isKnownChar ch = false →
      ReadsFrom v source pos (.fault ⟨.unknownCharacter ch, pos + blanks.length⟩)
        (pos + blanks.length)

/-- The first position from another one on where no blank stands, or the end of the source. -/
structure IsNextNonBlank (source : List Char) (pos start : Nat) : Prop where
  le : pos ≤ start
  le_length : start ≤ source.length
  isBlank_of_lt : ∀ i, pos ≤ i → i < start → ∀ ch ∈ source[i]?, isBlank ch = true
  not_isBlank : ∀ ch ∈ source[start]?, isBlank ch = false

section

variable {v : Vocabulary} {text rest source : List Char} {start pos next : Nat} {reading : Reading}

namespace Reports

theorem pos_eq (h : Reports v text rest start reading) : reading.pos = start := by
  cases h <;> rfl

theorem isLexeme (h : Reports v text rest start reading) : reading.isLexeme = true := by
  cases h <;> rfl

theorem text_ne_nil (h : Reports v text rest start reading) : text ≠ [] := by
  cases h with
  | @word w _ hchars _ _ => exact hchars ▸ w.chars_ne_nil
  | malformedNumber hne _ _ _ => exact hne
  | unknownName hname _ _ =>
      rintro rfl
      cases hname

theorem not_isBlank (h : Reports v text rest start reading) :
    ∀ ch ∈ text.head?, isBlank ch = false := by
  intro ch hch
  cases h with
  | @word w _ hchars _ _ => exact w.not_isBlank_of_head? ch (hchars ▸ hch)
  | malformedNumber _ htext _ _ =>
      exact not_isBlank_of_isNumeralChar (htext ch (List.mem_of_mem_head? hch))
  | unknownName hname _ _ => exact not_isBlank_of_isAlpha (Word.isAlpha_of_head? hname ch hch)

end Reports

/-- The position behind blanks, where something else stands or nothing. -/
theorem isNextNonBlank_of_drop {blanks : List Char} (hpos : pos ≤ source.length)
    (hdrop : source.drop pos = blanks ++ rest) (hblanks : ∀ ch ∈ blanks, isBlank ch = true)
    (hrest : ∀ ch ∈ rest.head?, isBlank ch = false) :
    IsNextNonBlank source pos (pos + blanks.length) where
  le := Nat.le_add_right _ _
  le_length := by
    have hlength := congrArg List.length hdrop
    rw [List.length_drop, List.length_append] at hlength
    omega
  isBlank_of_lt i hle hlt ch hch := by
    have hget : source[i]? = (source.drop pos)[i - pos]? := by
      rw [List.getElem?_drop, Nat.add_sub_cancel' hle]
    rw [hget, hdrop, List.getElem?_append_left (by omega)] at hch
    exact hblanks ch (List.mem_of_getElem? hch)
  not_isBlank ch hch := by
    rw [← List.getElem?_drop, hdrop, List.getElem?_append_right (Nat.le_refl _), Nat.sub_self,
      ← List.head?_eq_getElem?] at hch
    exact hrest ch hch

namespace ReadsFrom

/-- The reading stands at the first character that is not blank. -/
theorem isNextNonBlank (h : ReadsFrom v source pos reading next) (hpos : pos ≤ source.length) :
    IsNextNonBlank source pos reading.pos := by
  cases h with
  | @lexeme blanks text rest _ hdrop hblanks hreports =>
      rw [hreports.pos_eq]
      refine isNextNonBlank_of_drop hpos hdrop hblanks fun ch hch => hreports.not_isBlank ch ?_
      rwa [List.head?_append_of_ne_nil _ hreports.text_ne_nil] at hch
  | endOfInput hblanks =>
      have hend : source.length = pos + (source.drop pos).length := by
        rw [List.length_drop]
        omega
      have hnext : IsNextNonBlank source pos (pos + (source.drop pos).length) :=
        isNextNonBlank_of_drop hpos (List.append_nil _).symm hblanks (by simp)
      rwa [← hend] at hnext
  | @unknownCharacter blanks rest ch hdrop hblanks hunknown =>
      refine isNextNonBlank_of_drop hpos hdrop hblanks ?_
      rintro other ⟨⟩
      simp only [isKnownChar, Bool.or_eq_false_iff] at hunknown
      exact hunknown.1.1.1

/-- Only behind a lexeme does the reader go on, and then past the whole of it. -/
theorem pos_lt_iff (h : ReadsFrom v source pos reading next) :
    reading.pos < next ↔ reading.isLexeme = true := by
  cases h with
  | @lexeme blanks text rest _ hdrop hblanks hreports =>
      have htext : 0 < text.length := List.length_pos_of_ne_nil hreports.text_ne_nil
      rw [hreports.pos_eq]
      exact iff_of_true (by omega) hreports.isLexeme
  | endOfInput _ => exact iff_of_false (Nat.lt_irrefl _) Bool.false_ne_true
  | unknownCharacter _ _ _ => exact iff_of_false (Nat.lt_irrefl _) Bool.false_ne_true

theorem pos_le (h : ReadsFrom v source pos reading next) : reading.pos ≤ next := by
  cases h with
  | lexeme _ _ hreports =>
      rw [hreports.pos_eq]
      exact Nat.le_add_right _ _
  | endOfInput _ => exact Nat.le_refl _
  | unknownCharacter _ _ _ => exact Nat.le_refl _

/-- The end is found at the end of the source, and the reader stays there. -/
theorem of_endOfInput {found : Nat} (h : ReadsFrom v source pos (.endOfInput found) next) :
    found = source.length ∧ next = source.length := by
  cases h with
  | lexeme _ _ hreports => cases hreports
  | endOfInput _ => exact ⟨rfl, rfl⟩

/-- An unknown character stands where the reader stays. -/
theorem of_unknownCharacter {ch : Char} {found : Nat}
    (h : ReadsFrom v source pos (.fault ⟨.unknownCharacter ch, found⟩) next) :
    next = found ∧ source[found]? = some ch ∧ isKnownChar ch = false := by
  cases h with
  | lexeme _ _ hreports => cases hreports
  | @unknownCharacter blanks rest _ hdrop _ hunknown =>
      refine ⟨rfl, ?_, hunknown⟩
      rw [← List.getElem?_drop, hdrop, List.getElem?_append_right (Nat.le_refl _), Nat.sub_self]
      rfl

/-- Where all characters are known, every reading is a lexeme or the end. -/
theorem eq_endOfInput (h : ReadsFrom v source pos reading next)
    (hknown : ∀ ch ∈ source, isKnownChar ch = true) (hlexeme : reading.isLexeme = false) :
    reading = .endOfInput source.length := by
  cases h with
  | lexeme _ _ hreports => cases hreports.isLexeme.symm.trans hlexeme
  | endOfInput _ => rfl
  | @unknownCharacter blanks rest ch hdrop _ hunknown =>
      have hmem : ch ∈ source := List.mem_of_mem_drop (by rw [hdrop]; simp)
      cases (hknown ch hmem).symm.trans hunknown

end ReadsFrom

namespace Cursor

variable {c : Cursor}

/-- What a reader finds from its position on. -/
theorem At.readsFrom (h : c.At source) :
    ReadsFrom v source c.pos (c.read v).1 (c.read v).2.pos := by
  have hsplit : source.drop c.pos = c.rest.takeWhile isBlank ++ c.skipBlanks.rest := by
    rw [← h.2]
    exact List.takeWhile_append_dropWhile.symm
  have hblanks : ∀ ch ∈ c.rest.takeWhile isBlank, isBlank ch = true :=
    fun ch hch => List.mem_takeWhile_imp hch
  cases hrest : c.skipBlanks.rest with
  | nil =>
      have hread : c.read v = (.endOfInput c.skipBlanks.pos, c.skipBlanks) := by
        rw [Cursor.read, hrest]
      have hpos : c.skipBlanks.pos = source.length := h.pos_endOfInput hread
      rw [hread, hpos]
      refine .endOfInput fun ch hch => hblanks ch ?_
      rwa [hsplit, hrest, List.append_nil] at hch
  | cons ch rest =>
      have hread : c.read v = c.skipBlanks.readLexeme v ch := by rw [Cursor.read, hrest]
      cases hlexeme : c.skipBlanks.readLexeme v ch with
      | mk reading after =>
          rw [hread, hlexeme]
          rcases reports_readLexeme hrest hlexeme with
            ⟨text, htext, hafter, hreports⟩ | ⟨hnumeral, halpha, hnone, rfl, rfl⟩
          · rw [hafter]
            rw [htext] at hsplit
            exact .lexeme hsplit hblanks hreports
          · rw [hrest] at hsplit
            refine .unknownCharacter hsplit hblanks ?_
            have hhead : ch ∈ (c.rest.dropWhile isBlank).head? := by
              show ch ∈ c.skipBlanks.rest.head?
              rw [hrest]
              rfl
            have hblank : isBlank ch = false := head?_dropWhile_eq_false ch hhead
            have hsign : signs.contains ch = false := by simpa using not_mem_signs hnone
            rw [isKnownChar, hblank, hnumeral, halpha, hsign]
            rfl

/-- A reader that stays behind the blanks finds the same again. -/
theorem read_eq_of_stays (h : (c.read v).2 = c.skipBlanks) :
    (c.read v).2.read v = c.read v := by
  have hblanks : ∀ ch ∈ c.rest.takeWhile isBlank, isBlank ch = true :=
    fun ch hch => List.mem_takeWhile_imp hch
  have hsplit : c = ⟨c.pos, c.rest.takeWhile isBlank ++ c.rest.dropWhile isBlank⟩ := by
    rw [List.takeWhile_append_dropWhile]
  calc (c.read v).2.read v = c.skipBlanks.read v := by rw [h]
    _ = Cursor.read v ⟨c.pos, c.rest.takeWhile isBlank ++ c.rest.dropWhile isBlank⟩ :=
        (read_blanks hblanks c.pos).symm
    _ = c.read v := by rw [← hsplit]

/-- A reading that is no lexeme leaves the reader behind the blanks. -/
theorem read_eq_self (h : (c.read v).1.isLexeme = false) : (c.read v).2.read v = c.read v := by
  refine read_eq_of_stays ?_
  cases hrest : c.skipBlanks.rest with
  | nil => rw [Cursor.read, hrest]
  | cons ch rest =>
      have hread : c.read v = c.skipBlanks.readLexeme v ch := by rw [Cursor.read, hrest]
      cases hlexeme : c.skipBlanks.readLexeme v ch with
      | mk reading after =>
          rw [hread, hlexeme] at h ⊢
          rcases reports_readLexeme hrest hlexeme with ⟨_, -, -, hreports⟩ | ⟨-, -, -, -, hafter⟩
          · cases hreports.isLexeme.symm.trans h
          · exact hafter

/-! ## Many readings -/

/-- The cursor after so many readings. -/
def afterReadings (v : Vocabulary) : Nat → Cursor → Cursor
  | 0, c => c
  | k + 1, c => afterReadings v k (c.read v).2

theorem afterReadings_succ (v : Vocabulary) (k : Nat) (c : Cursor) :
    afterReadings v (k + 1) c = ((afterReadings v k c).read v).2 := by
  induction k generalizing c with
  | zero => rfl
  | succ k ih => exact ih (c.read v).2

theorem readMany_eq (v : Vocabulary) (n : Nat) (c : Cursor) :
    readMany v n c = (List.range n).map fun k => (afterReadings v k c).read v := by
  induction n generalizing c with
  | zero => rfl
  | succ n ih =>
      rw [readMany, ih, List.range_succ_eq_map, List.map_cons, List.map_map]
      rfl

theorem At.afterReadings (h : c.At source) (k : Nat) : (afterReadings v k c).At source := by
  induction k generalizing c with
  | zero => exact h
  | succ k ih => exact ih h.read

/-- From a reading on that is no lexeme, all readings are the same. -/
theorem read_afterReadings_of_le {k j : Nat} (hle : k ≤ j)
    (h : ((afterReadings v k c).read v).1.isLexeme = false) :
    (afterReadings v j c).read v = (afterReadings v k c).read v := by
  induction hle with
  | refl => rfl
  | @step j _ ih =>
      have hstays : ((afterReadings v j c).read v).1.isLexeme = false := by rw [ih, h]
      rw [afterReadings_succ, read_eq_self hstays, ih]

end Cursor

end

/-! ## Readings of a source -/

/-- The position from which a reading of a source goes on, counted from the first one on. -/
def positionBefore (v : Vocabulary) (source : String) (k : Nat) : Nat :=
  (Cursor.afterReadings v k (Cursor.ofSource source)).pos

/-- A reading of a source, counted from the first one on. -/
def nthReading (v : Vocabulary) (source : String) (k : Nat) : Reading :=
  ((Cursor.afterReadings v k (Cursor.ofSource source)).read v).1

/-- The character with this index belongs to the lexeme of the reading. -/
structure Covers (v : Vocabulary) (source : String) (k i : Nat) : Prop where
  isLexeme : (nthReading v source k).isLexeme = true
  le : (nthReading v source k).pos ≤ i
  lt : i < positionBefore v source (k + 1)

section

variable {v : Vocabulary} {source : String}

theorem at_afterReadings (v : Vocabulary) (source : String) (k : Nat) :
    (Cursor.afterReadings v k (Cursor.ofSource source)).At source.toList :=
  (Cursor.at_ofSource source).afterReadings k

theorem readsFrom_nthReading (v : Vocabulary) (source : String) (k : Nat) :
    ReadsFrom v source.toList (positionBefore v source k) (nthReading v source k)
      (positionBefore v source (k + 1)) := by
  have hreads := (at_afterReadings v source k).readsFrom (v := v)
  rwa [← Cursor.afterReadings_succ] at hreads

theorem positionBefore_le_length (v : Vocabulary) (source : String) (k : Nat) :
    positionBefore v source k ≤ source.toList.length := (at_afterReadings v source k).1

theorem isNextNonBlank_nthReading (v : Vocabulary) (source : String) (k : Nat) :
    IsNextNonBlank source.toList (positionBefore v source k) (nthReading v source k).pos :=
  (readsFrom_nthReading v source k).isNextNonBlank (positionBefore_le_length v source k)

theorem monotone_positionBefore (v : Vocabulary) (source : String) :
    Monotone (positionBefore v source) := by
  refine monotone_nat_of_le_succ fun k => ?_
  calc positionBefore v source k ≤ (nthReading v source k).pos :=
        (isNextNonBlank_nthReading v source k).le
    _ ≤ positionBefore v source (k + 1) := (readsFrom_nthReading v source k).pos_le

theorem positionBefore_lt (k : Nat) (h : (nthReading v source k).isLexeme = true) :
    positionBefore v source k < positionBefore v source (k + 1) := by
  calc positionBefore v source k ≤ (nthReading v source k).pos :=
        (isNextNonBlank_nthReading v source k).le
    _ < positionBefore v source (k + 1) := (readsFrom_nthReading v source k).pos_lt_iff.mpr h

/-- From a reading on that is no lexeme, the reader stays. -/
theorem nthReading_of_le {k j : Nat} (hle : k ≤ j)
    (h : (nthReading v source k).isLexeme = false) :
    nthReading v source j = nthReading v source k ∧
      positionBefore v source (j + 1) = positionBefore v source (k + 1) := by
  have hread := Cursor.read_afterReadings_of_le hle h
  refine ⟨congrArg Prod.fst hread, ?_⟩
  rw [positionBefore, positionBefore, Cursor.afterReadings_succ, Cursor.afterReadings_succ, hread]

/-- As long as lexemes are read, each of them takes a character at least. -/
theorem le_positionBefore {n : Nat} (h : ∀ k < n, (nthReading v source k).isLexeme = true) :
    n ≤ positionBefore v source n := by
  induction n with
  | zero => exact Nat.zero_le _
  | succ n ih =>
      have hbefore := ih fun k hk => h k (Nat.lt_succ_of_lt hk)
      have hforward := positionBefore_lt n (h n (Nat.lt_succ_self n))
      omega

theorem exists_endOfInput (hknown : ∀ ch ∈ source.toList, isKnownChar ch = true) :
    ∃ k ≤ source.toList.length, nthReading v source k = .endOfInput source.toList.length := by
  by_contra hnone
  simp only [not_exists, not_and] at hnone
  have hlexemes : ∀ k < source.toList.length + 1, (nthReading v source k).isLexeme = true := by
    intro k hk
    by_contra hlexeme
    exact hnone k (Nat.le_of_lt_succ hk)
      ((readsFrom_nthReading v source k).eq_endOfInput hknown (by simpa using hlexeme))
  -- as many lexemes do not fit into the source
  have hmore := le_positionBefore hlexemes
  have hless := positionBefore_le_length v source (source.toList.length + 1)
  omega

/-- A character that has been passed belongs to a lexeme, unless it is blank. -/
theorem exists_covers {n i : Nat} (hi : i < positionBefore v source n) {ch : Char}
    (hch : ch ∈ source.toList[i]?) (hblank : isBlank ch = false) : ∃ k, Covers v source k i := by
  -- on the number of readings: the last one is the first that has passed the character
  induction n with
  | zero => exact absurd hi (Nat.not_lt_zero i)
  | succ n ih =>
      by_cases hbefore : i < positionBefore v source n
      · exact ih hbefore
      · have hle : (nthReading v source n).pos ≤ i := by
          by_contra hlt
          have hskipped := (isNextNonBlank_nthReading v source n).isBlank_of_lt i
            (Nat.not_lt.mp hbefore) (Nat.not_le.mp hlt) ch hch
          cases hblank.symm.trans hskipped
        have hlexeme := (readsFrom_nthReading v source n).pos_lt_iff.mp (Nat.lt_of_le_of_lt hle hi)
        exact ⟨n, hlexeme, hle, hi⟩

/-- A later lexeme begins behind an earlier one. -/
theorem Covers.le_of_covers {i j k : Nat} (hk : Covers v source k i) (hj : Covers v source j i) :
    j ≤ k := by
  by_contra hlt
  have hbehind : i < i :=
    calc i < positionBefore v source (k + 1) := hk.lt
      _ ≤ positionBefore v source j := monotone_positionBefore v source (Nat.not_le.mp hlt)
      _ ≤ (nthReading v source j).pos := (isNextNonBlank_nthReading v source j).le
      _ ≤ i := hj.le
  exact Nat.lt_irrefl i hbehind

theorem existsUnique_covers {n i : Nat} (hi : i < positionBefore v source n) {ch : Char}
    (hch : ch ∈ source.toList[i]?) (hblank : isBlank ch = false) : ∃! k, Covers v source k i := by
  obtain ⟨k, hk⟩ := exists_covers hi hch hblank
  exact ⟨k, hk, fun j hj => Nat.le_antisymm (hk.le_of_covers hj) (hj.le_of_covers hk)⟩

end

/-- All readings of a source, one after the other, each of them from where the one before has left
the reader. -/
structure ReadsOn (v : Vocabulary) (source : String) : Prop where
  readMany : ∀ n, (Cursor.readMany v n (Cursor.ofSource source)).map
      (fun found => (found.1, found.2.pos)) =
    (List.range n).map fun k => (nthReading v source k, positionBefore v source (k + 1))
  readsFrom : ∀ k, ReadsFrom v source.toList (positionBefore v source k) (nthReading v source k)
    (positionBefore v source (k + 1))
  /-- A reading stands at the first character that is not blank. -/
  isNextNonBlank : ∀ k, IsNextNonBlank source.toList (positionBefore v source k)
    (nthReading v source k).pos
  monotone : Monotone (positionBefore v source)
  le_length : ∀ k, positionBefore v source k ≤ source.toList.length
  /-- A lexeme brings the reader forward. -/
  lt_of_isLexeme : ∀ k, (nthReading v source k).isLexeme = true →
    positionBefore v source k < positionBefore v source (k + 1)
  /-- After the end nothing but the end is found. -/
  of_endOfInput : ∀ k pos, nthReading v source k = .endOfInput pos → ∀ j, k ≤ j →
    nthReading v source j = .endOfInput source.toList.length ∧
      positionBefore v source (j + 1) = source.toList.length
  /-- Behind an unknown character nothing is found. -/
  of_unknownCharacter : ∀ k ch pos, nthReading v source k = .fault ⟨.unknownCharacter ch, pos⟩ →
    source.toList[pos]? = some ch ∧ ∀ j, k ≤ j →
      nthReading v source j = .fault ⟨.unknownCharacter ch, pos⟩ ∧
        positionBefore v source (j + 1) = pos
  /-- A source without unknown characters is read to its end. -/
  reaches_end : (∀ ch ∈ source.toList, isKnownChar ch = true) →
    ∃ k ≤ source.toList.length, nthReading v source k = .endOfInput source.toList.length
  /-- What has been passed belongs to one lexeme, unless it is blank. -/
  covered : ∀ n i, i < positionBefore v source n →
    ∀ ch ∈ source.toList[i]?, isBlank ch = false → ∃! k, Covers v source k i
  /-- Without unknown characters, all characters belong to one lexeme, unless they are blank. -/
  all_covered : (∀ ch ∈ source.toList, isKnownChar ch = true) →
    ∀ i, ∀ ch ∈ source.toList[i]?, isBlank ch = false → ∃! k, Covers v source k i

/-- A reader goes past every lexeme, and stays at the end and in front of an unknown character,
however often it is asked. -/
theorem reads_on_through_faults (v : Vocabulary) (source : String) : ReadsOn v source where
  readMany n := by
    rw [Cursor.readMany_eq, List.map_map]
    refine List.map_congr_left fun k _ => ?_
    rw [Function.comp_apply, positionBefore, Cursor.afterReadings_succ]
    rfl
  readsFrom := readsFrom_nthReading v source
  isNextNonBlank := isNextNonBlank_nthReading v source
  monotone := monotone_positionBefore v source
  le_length := positionBefore_le_length v source
  lt_of_isLexeme k h := positionBefore_lt k h
  of_endOfInput k pos h j hle := by
    have hreads := readsFrom_nthReading v source k
    rw [h] at hreads
    obtain ⟨rfl, hnext⟩ := hreads.of_endOfInput
    obtain ⟨hsame, hstays⟩ := nthReading_of_le hle (by rw [h]; rfl)
    exact ⟨hsame.trans h, hstays.trans hnext⟩
  of_unknownCharacter k ch pos h := by
    have hreads := readsFrom_nthReading v source k
    rw [h] at hreads
    obtain ⟨hnext, hch, -⟩ := hreads.of_unknownCharacter
    refine ⟨hch, fun j hle => ?_⟩
    obtain ⟨hsame, hstays⟩ := nthReading_of_le hle (by rw [h]; rfl)
    exact ⟨hsame.trans h, hstays.trans hnext⟩
  reaches_end := exists_endOfInput
  covered n i hi ch hch hblank := existsUnique_covers hi hch hblank
  all_covered hknown i ch hch hblank := by
    obtain ⟨k, -, hend⟩ := exists_endOfInput (v := v) hknown
    have hreads := readsFrom_nthReading v source k
    rw [hend] at hreads
    refine existsUnique_covers (n := k + 1) ?_ hch hblank
    rw [hreads.of_endOfInput.2]
    exact (List.getElem?_eq_some_iff.mp hch).1

/-- With names cut to nothing every name is unknown, and still it is passed as a whole. -/
example :
    (Cursor.readMany ⟨Registry.builtin, 0⟩ 4 (Cursor.ofSource "pi 1..2$")).map
        (fun found => (found.1.pos, found.2.pos)) = [(0, 2), (3, 7), (7, 7), (7, 7)] := by
  decide +kernel

end Calculator
