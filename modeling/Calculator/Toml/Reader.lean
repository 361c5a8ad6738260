import Calculator.Toml.Value

/-!
# Readers

A reader takes what it reads off the front of a text, or fails. What exactly is wrong with a
document is not told. A whole number of too many digits is a failure of its own, which ends the
reading.
-/

set_option autoImplicit false

namespace Calculator.Toml

/-- Why a text cannot be read. -/
inductive ReadError where
  | malformed
  /-- A whole number with so many digits is not read. -/
  | numeralTooLong (digits : Nat)
  /-- Values stand too deep inside each other. -/
  | tooNested
deriving DecidableEq, Repr

/-- A reader of a value. -/
abbrev Reader (α : Type) := StateT (List Char) (Except ReadError) α

/-- Spaces and tabs. -/
def isSpace (c : Char) : Bool := c = ' ' || c = '\t'

/-- Spaces, tabs and line feeds. -/
def isSpaceOrNewline (c : Char) : Bool := isSpace c || c = '\n'

/-- Control characters, apart from the tab. -/
def isControl (c : Char) : Bool := (c.toNat < 32 || c.toNat = 127) && c ≠ '\t'

namespace Reader

/-- Nothing can be read. -/
def fail {α : Type} : Reader α := fun _ => .error .malformed

/-- A reader that is a partial function of the text. -/
def ofOption {α : Type} (f : List Char → Option (α × List Char)) : Reader α := fun text =>
  match f text with
  | some result => .ok result
  | none => .error .malformed

/-- The next character, which stays where it is. -/
def peek : Reader (Option Char) := fun text => .ok (text.head?, text)

/-- Drop a number of characters. -/
def drop (n : Nat) : Reader Unit := fun text => .ok ((), text.drop n)

/-- The longest run of characters of a class. -/
def takeWhile (p : Char → Bool) : Reader (List Char) := fun text =>
  .ok (text.takeWhile p, text.dropWhile p)

/-- Skip the longest run of characters of a class. -/
def skipWhile (p : Char → Bool) : Reader Unit := fun text => .ok ((), text.dropWhile p)

/-- Whether the text begins with given characters, which stay where they are. -/
def startsWith (start : List Char) : Reader Bool := fun text =>
  .ok (start.isPrefixOf text, text)

/-- Take given characters off the front. -/
def expect (start : List Char) : Reader Unit := fun text =>
  if start.isPrefixOf text then .ok ((), text.drop start.length) else .error .malformed

/-- Take a given character off the front if it is there. -/
def accept (c : Char) : Reader Bool := fun text =>
  match text with
  | d :: rest => if d = c then .ok (true, rest) else .ok (false, text)
  | [] => .ok (false, [])

/-- A character of a class. -/
def satisfy (p : Char → Bool) : Reader Char := fun text =>
  match text with
  | c :: rest => if p c then .ok (c, rest) else .error .malformed
  | [] => .error .malformed

/-- The first of two readers that can read the text. What one reader finds too long is not given to
the other. -/
def orElse {α : Type} (r s : Reader α) : Reader α := fun text =>
  match r text with
  | .error .malformed => s text
  | result => result

/-- The first of several readers that can read the text. -/
def firstOf {α : Type} (readers : List (Reader α)) : Reader α := readers.foldr orElse fail

/-- What is read, if it can be read. -/
def optional {α : Type} (r : Reader α) : Reader (Option α) := orElse (some <$> r) (pure none)

/-- A comment reaches to the end of the line and holds no control characters. -/
def skipComment : Reader Unit := do
  if ← accept '#' then
    let comment ← takeWhile (· ≠ '\n')
    if comment.any isControl then fail

end Reader

end Calculator.Toml
