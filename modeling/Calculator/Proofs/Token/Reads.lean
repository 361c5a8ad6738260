import Calculator.Proofs.Registry.Lookups
import Calculator.Token.Lexer

/-!
# Runs of the reader of tokens

`Cursor.Reads v c ts after` says that reading on from the cursor `c` gives the tokens `ts` and
leads to the cursor `after`. A scan is such a run up to the end of the source or the first fault
(`Scan.exists_reads`). A cursor of a source stands at its position in that source, and every reading
reports the position of the first character that is not blank (`Cursor.At.read`).

A name is read as the constant or the function under which it is looked up
(`Vocabulary.classify_eq_ok_iff`).
-/

set_option autoImplicit false

namespace Calculator

namespace Cursor

/-- Reading from one cursor on gives these tokens and leads to the other cursor. -/
inductive Reads (v : Vocabulary) : Cursor → List Token → Cursor → Prop
  | nil (c : Cursor) : Reads v c [] c
  | cons {c next after : Cursor} {t : Token} {ts : List Token} :
      c.read v = (.token t, next) → Reads v next ts after → Reads v c (t :: ts) after

namespace Reads

variable {v : Vocabulary} {c next after : Cursor} {t : Token} {ts us : List Token}

theorem append (hts : Reads v c ts next) (hus : Reads v next us after) :
    Reads v c (ts ++ us) after := by
  induction hts with
  | nil c => exact hus
  | cons hread _ ih => exact .cons hread (ih hus)

theorem of_append (h : Reads v c (ts ++ us) after) :
    ∃ next, Reads v c ts next ∧ Reads v next us after := by
  induction ts generalizing c with
  | nil => exact ⟨c, .nil c, h⟩
  | cons t ts ih =>
      cases h with
      | cons hread hrest =>
          obtain ⟨next, hts, hus⟩ := ih hrest
          exact ⟨next, .cons hread hts, hus⟩

end Reads

/-- Where a scan stops: at a reading that is no token. -/
inductive StopsAt (v : Vocabulary) (c : Cursor) : Stop → Prop
  | endOfInput {pos : Nat} {after : Cursor} :
      c.read v = (.endOfInput pos, after) → StopsAt v c (.endOfInput pos)
  | fault {f : LexicalFault} {after : Cursor} :
      c.read v = (.fault f, after) → StopsAt v c (.fault f)

end Cursor

/-! ## Scans as runs -/

namespace Scan

variable {v : Vocabulary} {c next after : Cursor} {ts : List Token}

theorem readOn_of_token {t : Token} (h : c.read v = (.token t, next)) (sofar : List Token) :
    readOn v sofar c = readOn v (t :: sofar) next := by
  rw [readOn]
  split
  · next heq =>
      cases heq.symm.trans h
      rfl
  · next heq => cases heq.symm.trans h
  · next heq => cases heq.symm.trans h

theorem readOn_of_stopsAt {stop : Stop} (h : c.StopsAt v stop) (sofar : List Token) :
    readOn v sofar c = ⟨sofar.reverse, stop⟩ := by
  cases h with
  | endOfInput h =>
      rw [readOn]
      split
      · next heq => cases heq.symm.trans h
      · next heq =>
          cases heq.symm.trans h
          rfl
      · next heq => cases heq.symm.trans h
  | fault h =>
      rw [readOn]
      split
      · next heq => cases heq.symm.trans h
      · next heq => cases heq.symm.trans h
      · next heq =>
          cases heq.symm.trans h
          rfl

/-- A scan goes through every run from its cursor. -/
theorem readOn_of_reads (h : Cursor.Reads v c ts after) (sofar : List Token) :
    readOn v sofar c = readOn v (ts.reverse ++ sofar) after := by
  induction h generalizing sofar with
  | nil c => rfl
  | cons hread _ ih =>
      rw [readOn_of_token hread, ih]
      simp

/-- A scan is the run from its cursor up to the first reading that is no token. -/
theorem exists_reads_readOn (v : Vocabulary) (sofar : List Token) (c : Cursor) :
    ∃ ts after, Cursor.Reads v c ts after ∧ (readOn v sofar c).tokens = sofar.reverse ++ ts ∧
      after.StopsAt v (readOn v sofar c).stop := by
  induction sofar, c using readOn.induct v with
  | case1 sofar c t next hread ih =>
      obtain ⟨ts, after, hts, htokens, hstop⟩ := ih
      rw [readOn_of_token hread]
      exact ⟨t :: ts, after, .cons hread hts, by rw [htokens]; simp, hstop⟩
  | case2 sofar c pos after hread =>
      have hstop := Cursor.StopsAt.endOfInput hread
      rw [readOn_of_stopsAt hstop]
      exact ⟨[], c, .nil c, by simp, hstop⟩
  | case3 sofar c f after hread =>
      have hstop := Cursor.StopsAt.fault hread
      rw [readOn_of_stopsAt hstop]
      exact ⟨[], c, .nil c, by simp, hstop⟩

/-- The tokens of a source are read from its start up to the first reading that is no token. -/
theorem exists_reads (v : Vocabulary) (source : String) :
    ∃ after, Cursor.Reads v (Cursor.ofSource source) (ofSource v source).tokens after ∧
      after.StopsAt v (ofSource v source).stop := by
  obtain ⟨ts, after, hts, htokens, hstop⟩ := exists_reads_readOn v [] (Cursor.ofSource source)
  have heq : (ofSource v source).tokens = ts := htokens
  exact ⟨after, by rw [heq]; exact hts, hstop⟩

/-- A source that is read up to a reading that is no token has these tokens and stops there. -/
theorem ofSource_eq {source : String} {stop : Stop}
    (h : Cursor.Reads v (Cursor.ofSource source) ts after) (hstop : after.StopsAt v stop) :
    ofSource v source = ⟨ts, stop⟩ := by
  rw [ofSource, readOn_of_reads h, readOn_of_stopsAt hstop]
  simp

end Scan

/-! ## Positions -/

namespace Cursor

/-- The cursor stands in the source, at its position, in front of the rest. -/
def At (source : List Char) (c : Cursor) : Prop :=
  c.pos ≤ source.length ∧ c.rest = source.drop c.pos

theorem at_ofSource (source : String) : (ofSource source).At source.toList := by
  simp [At, ofSource]

variable {source : List Char} {v : Vocabulary} {c after : Cursor} {ts : List Token}

theorem At.span (h : c.At source) (p : Char → Bool) : (c.span p).2.At source := by
  obtain ⟨hpos, hrest⟩ := h
  have hsplit : c.rest.takeWhile p ++ c.rest.dropWhile p = c.rest := List.takeWhile_append_dropWhile
  have hlength : c.rest.length = source.length - c.pos := by rw [hrest, List.length_drop]
  have hrun : (c.rest.takeWhile p).length ≤ c.rest.length := (List.takeWhile_sublist p).length_le
  constructor
  · show c.pos + (c.rest.takeWhile p).length ≤ source.length
    omega
  · show c.rest.dropWhile p = source.drop (c.pos + (c.rest.takeWhile p).length)
    rw [← List.drop_drop, ← hrest]
    calc c.rest.dropWhile p
        = (c.rest.takeWhile p ++ c.rest.dropWhile p).drop (c.rest.takeWhile p).length :=
          List.drop_left.symm
      _ = c.rest.drop (c.rest.takeWhile p).length := by rw [hsplit]

theorem At.skipBlanks (h : c.At source) : c.skipBlanks.At source := h.span isBlank

theorem At.readLexeme (h : c.At source) {ch : Char} {rest : List Char} (hrest : c.rest = ch :: rest) :
    (c.readLexeme v ch).2.At source := by
  unfold Cursor.readLexeme
  split
  · exact h.span isNumeralChar
  · split
    · exact h.span Char.isAlphanum
    · split
      · obtain ⟨hpos, hdrop⟩ := h
        have hlength : c.rest.length = source.length - c.pos := by rw [hdrop, List.length_drop]
        rw [hrest, List.length_cons] at hlength
        refine ⟨?_, ?_⟩
        · show c.pos + 1 ≤ source.length
          omega
        · show c.rest.drop 1 = source.drop (c.pos + 1)
          rw [hdrop, List.drop_drop]
      · exact h

theorem At.read (h : c.At source) : (c.read v).2.At source := by
  unfold Cursor.read
  split
  · exact h.skipBlanks
  · next ch rest hrest => exact h.skipBlanks.readLexeme hrest

theorem At.reads (h : c.At source) (hts : Reads v c ts after) : after.At source := by
  induction hts with
  | nil c => exact h
  | @cons c next after t ts hread _ ih =>
      have hnext := h.read (v := v)
      rw [hread] at hnext
      exact ih hnext

end Cursor

/-- The position that a reading reports. -/
def Reading.pos : Reading → Nat
  | .token t => t.pos
  | .endOfInput pos => pos
  | .fault f => f.pos

theorem Reading.pos_ofLexeme (pos : Nat) (result : Except LexicalError Lexeme) :
    (ofLexeme pos result).pos = pos := by
  cases result <;> rfl

namespace Cursor

theorem pos_readLexeme (v : Vocabulary) (c : Cursor) (ch : Char) :
    (c.readLexeme v ch).1.pos = c.pos := by
  unfold readLexeme
  split
  · exact Reading.pos_ofLexeme _ _
  · split
    · exact Reading.pos_ofLexeme _ _
    · split <;> rfl

theorem readLexeme_ne_endOfInput (v : Vocabulary) (c : Cursor) (ch : Char) (pos : Nat) :
    (c.readLexeme v ch).1 ≠ .endOfInput pos := by
  have hlexeme : ∀ p result, Reading.ofLexeme p result ≠ .endOfInput pos := by
    intro p result
    cases result <;> simp [Reading.ofLexeme]
  unfold readLexeme
  split
  · exact hlexeme _ _
  · split
    · exact hlexeme _ _
    · split <;> simp

/-- A reading reports the position after the blanks. -/
theorem pos_read (v : Vocabulary) (c : Cursor) : (c.read v).1.pos = c.skipBlanks.pos := by
  unfold Cursor.read
  split
  · rfl
  · exact pos_readLexeme v c.skipBlanks _

variable {source : List Char} {v : Vocabulary} {c after : Cursor}

/-- The end of the input is found where nothing but blanks is left, at the end of the source. -/
theorem At.pos_endOfInput (h : c.At source) {pos : Nat}
    (hread : c.read v = (.endOfInput pos, after)) : pos = source.length := by
  have hpos : pos = c.skipBlanks.pos := by rw [← pos_read v c, hread, Reading.pos]
  have hnil : c.skipBlanks.rest = [] := by
    unfold Cursor.read at hread
    split at hread
    · next hnil => exact hnil
    · next ch _ _ => exact absurd (congrArg Prod.fst hread) (readLexeme_ne_endOfInput v _ ch pos)
  obtain ⟨hle, hdrop⟩ := h.skipBlanks
  have hge : source.length ≤ c.skipBlanks.pos := List.drop_eq_nil_iff.mp (hdrop.symm.trans hnil)
  omega

/-- A fault is found in front of a character that is not blank, at its position. -/
theorem At.skipBlanks_fault (h : c.At source) {f : LexicalFault}
    (hread : c.read v = (.fault f, after)) :
    f.pos < source.length ∧ c.skipBlanks = ⟨f.pos, source.drop f.pos⟩ := by
  have hpos : f.pos = c.skipBlanks.pos := by rw [← pos_read v c, hread, Reading.pos]
  obtain ⟨hle, hdrop⟩ := h.skipBlanks
  have hne : c.skipBlanks.rest ≠ [] := by
    intro hnil
    unfold Cursor.read at hread
    rw [hnil] at hread
    cases hread
  refine ⟨?_, ?_⟩
  · rw [hdrop, Ne, List.drop_eq_nil_iff] at hne
    omega
  · rw [hpos, ← hdrop]

end Cursor

/-- A scan that goes to the end of its source stops there. -/
theorem Scan.pos_of_stop {v : Vocabulary} {source : String} {pos : Nat}
    (h : (ofSource v source).stop = .endOfInput pos) : pos = source.toList.length := by
  obtain ⟨after, hreads, hstops⟩ := exists_reads v source
  rw [h] at hstops
  cases hstops with
  | endOfInput hread => exact ((Cursor.at_ofSource source).reads hreads).pos_endOfInput hread

/-! ## Names -/

/-- A name as it is looked up. -/
def Vocabulary.cut (v : Vocabulary) (name : List Char) : String :=
  String.ofList (cutName v.nameLimit name)

namespace Vocabulary

variable {v : Vocabulary} {name : List Char}

theorem classify_eq (v : Vocabulary) (name : List Char) :
    v.classify name =
      if v.registry.isConstant (v.cut name) then .ok (.constant (v.cut name))
      else if v.registry.isFunction (v.cut name) then .ok (.function (v.cut name))
      else .error (.unknownName (v.cut name)) := rfl

/-- A name is a constant or a function under which it is looked up, or it has no lexeme. -/
theorem classify_eq_ok_iff {l : Lexeme} :
    v.classify name = .ok l ↔
      (v.registry.isConstant (v.cut name) = true ∧ l = .constant (v.cut name)) ∨
        (v.registry.isFunction (v.cut name) = true ∧ l = .function (v.cut name)) := by
  rw [classify_eq]
  constructor
  · intro h
    split at h
    · next hconstant => exact Or.inl ⟨hconstant, (Except.ok.inj h).symm⟩
    · split at h
      · next hfunction => exact Or.inr ⟨hfunction, (Except.ok.inj h).symm⟩
      · cases h
  · rintro (⟨hconstant, rfl⟩ | ⟨hfunction, rfl⟩)
    · exact if_pos hconstant
    · rw [if_neg (Registry.not_isConstant_of_isFunction hfunction), if_pos hfunction]

/-- A name that has no lexeme is unknown, as it is looked up. -/
theorem classify_eq_error {cause : LexicalError} (h : v.classify name = .error cause) :
    cause = .unknownName (v.cut name) := by
  rw [classify_eq] at h
  split at h
  · cases h
  · split at h <;> cases h
    rfl

end Vocabulary

end Calculator
