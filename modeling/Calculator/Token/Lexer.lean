import Calculator.Token.Basic

/-!
# Reading tokens

A cursor stands in front of the characters not yet read. `Cursor.read` skips blanks and reads one
lexeme: the longest run of digits and points, the longest name, or a single sign. A number or name
that cannot be used is skipped as a whole; an unknown character is not skipped, so that the reader
stays in front of it. `Scan.ofSource` reads on to the end of the source or the first fault.
-/

set_option autoImplicit false

namespace Calculator

/-! ## Character classes -/

/-- Space, tab, line feed and carriage return separate tokens. -/
def isBlank (c : Char) : Bool := c = ' ' || c = '\t' || c = '\n' || c = '\r'

/-- Numbers are made of digits and points. -/
def isNumeralChar (c : Char) : Bool := c.isDigit || c = '.'

/-! ## Cursors -/

/-- A position in the source and the characters from there on. -/
structure Cursor where
  pos : Nat
  rest : List Char
deriving DecidableEq, Repr

namespace Cursor

/-- The cursor in front of a source. -/
def ofSource (source : String) : Cursor := ⟨0, source.toList⟩

/-- The longest run of characters of one class, and the cursor after it. -/
def span (p : Char → Bool) (c : Cursor) : List Char × Cursor :=
  let run := c.rest.takeWhile p
  (run, ⟨c.pos + run.length, c.rest.dropWhile p⟩)

/-- The cursor after the blanks in front of it. -/
def skipBlanks (c : Cursor) : Cursor := (c.span isBlank).2

theorem length_rest_span_le (p : Char → Bool) (c : Cursor) :
    (c.span p).2.rest.length ≤ c.rest.length :=
  (List.dropWhile_sublist p).length_le

/-- A run that begins with a character of its class is not empty. -/
theorem length_rest_span_lt {p : Char → Bool} {c : Cursor} {ch : Char} {rest : List Char}
    (hrest : c.rest = ch :: rest) (hch : p ch = true) :
    (c.span p).2.rest.length < c.rest.length := by
  have hdrop : c.rest.dropWhile p = rest.dropWhile p := by
    rw [hrest, List.dropWhile_cons_of_pos hch]
  have hle := (List.dropWhile_sublist p (l := rest)).length_le
  show (c.rest.dropWhile p).length < c.rest.length
  rw [hdrop, hrest, List.length_cons]
  omega

end Cursor

/-! ## One token -/

/-- What is found at a cursor. -/
inductive Reading where
  | token (t : Token)
  | endOfInput (pos : Nat)
  | fault (f : LexicalFault)

/-- A lexeme or its error, at a position. -/
def Reading.ofLexeme (pos : Nat) : Except LexicalError Lexeme → Reading
  | .ok lexeme => .token ⟨lexeme, pos⟩
  | .error cause => .fault ⟨cause, pos⟩

/-- Read one lexeme in front of a character that is not blank. -/
def Cursor.readLexeme (v : Vocabulary) (c : Cursor) (ch : Char) : Reading × Cursor :=
  if isNumeralChar ch then
    let (text, after) := c.span isNumeralChar
    (.ofLexeme c.pos (Lexeme.ofNumeral text), after)
  else if ch.isAlpha then
    let (name, after) := c.span Char.isAlphanum
    (.ofLexeme c.pos (v.classify name), after)
  else
    match (Operator.ofChar? ch).map Lexeme.operator <|> Lexeme.ofPunctuation? ch with
    | some lexeme => (.token ⟨lexeme, c.pos⟩, ⟨c.pos + 1, c.rest.drop 1⟩)
    | none => (.fault ⟨.unknownCharacter ch, c.pos⟩, c)

/-- Skip blanks and read one token. -/
def Cursor.read (v : Vocabulary) (c : Cursor) : Reading × Cursor :=
  match c.skipBlanks.rest with
  | [] => (.endOfInput c.skipBlanks.pos, c.skipBlanks)
  | ch :: _ => c.skipBlanks.readLexeme v ch

/-- A token is never empty. -/
theorem Cursor.length_rest_readLexeme_lt {v : Vocabulary} {c : Cursor} {ch : Char}
    {rest : List Char} (hrest : c.rest = ch :: rest) {t : Token} {after : Cursor}
    (h : c.readLexeme v ch = (.token t, after)) : after.rest.length < c.rest.length := by
  unfold readLexeme at h
  split at h
  · next hnum =>
      obtain ⟨_, rfl⟩ := Prod.mk.inj h
      exact length_rest_span_lt hrest hnum
  · split at h
    · next halpha =>
        obtain ⟨_, rfl⟩ := Prod.mk.inj h
        exact length_rest_span_lt hrest (by simp [Char.isAlphanum, halpha])
    · split at h
      · obtain ⟨_, rfl⟩ := Prod.mk.inj h
        simp [hrest]
      · simp at h

/-- Reading a token brings the cursor forward. -/
theorem Cursor.length_rest_read_lt {v : Vocabulary} {c : Cursor} {t : Token} {after : Cursor}
    (h : c.read v = (.token t, after)) : after.rest.length < c.rest.length := by
  have hle : c.skipBlanks.rest.length ≤ c.rest.length := length_rest_span_le isBlank c
  unfold read at h
  split at h
  · simp at h
  · next ch rest hrest =>
      have hlt := length_rest_readLexeme_lt hrest h
      omega

/-! ## All tokens -/

/-- Where reading stops. -/
inductive Stop where
  | endOfInput (pos : Nat)
  | fault (f : LexicalFault)

/-- The tokens up to the end of the source or the first fault. -/
structure Scan where
  tokens : List Token
  stop : Stop

/-- Read on from a cursor; the tokens read so far are given last first. -/
def Scan.readOn (v : Vocabulary) (sofar : List Token) (c : Cursor) : Scan :=
  match _h : c.read v with
  | (.token t, after) => Scan.readOn v (t :: sofar) after
  | (.endOfInput pos, _) => ⟨sofar.reverse, .endOfInput pos⟩
  | (.fault f, _) => ⟨sofar.reverse, .fault f⟩
termination_by c.rest.length
decreasing_by exact Cursor.length_rest_read_lt _h

/-- Read a source. -/
def Scan.ofSource (v : Vocabulary) (source : String) : Scan :=
  Scan.readOn v [] (Cursor.ofSource source)

/-- Several readings in a row, going on after faults and after the end, each with the cursor
after it. -/
def Cursor.readMany (v : Vocabulary) : Nat → Cursor → List (Reading × Cursor)
  | 0, _ => []
  | n + 1, c => c.read v :: readMany v n (c.read v).2

end Calculator
