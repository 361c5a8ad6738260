import Calculator.Toml.Reader

/-!
# Strings and keys

Basic strings stand between quotation marks and know escapes; literal strings stand between
apostrophes and know none. Both may be written with tripled quotes and then reach over several
lines. A key is a sequence of parts with points between them, each bare or a string on one line.
-/

set_option autoImplicit false

namespace Calculator.Toml

/-! ## Escapes -/

/-- A character that a letter stands for after a backslash. -/
def namedEscape? : Char → Option Char
  | 'b' => some '\x08'
  | 't' => some '\t'
  | 'n' => some '\n'
  | 'f' => some '\x0c'
  | 'r' => some '\r'
  | '"' => some '"'
  | '\\' => some '\\'
  | _ => none

/-- The value of a hexadecimal digit. -/
def hexValue? (c : Char) : Option Nat :=
  if c.isDigit then some (c.toNat - '0'.toNat)
  else if 'a' ≤ c && c ≤ 'f' then some (c.toNat - 'a'.toNat + 10)
  else if 'A' ≤ c && c ≤ 'F' then some (c.toNat - 'A'.toNat + 10)
  else none

/-- The number that hexadecimal digits stand for. -/
def hexNumber? (digits : List Char) : Option Nat :=
  digits.foldlM (fun n c => (hexValue? c).map (n * 16 + ·)) 0

/-- The character with a number of exactly `width` hexadecimal digits. -/
def numberedChar? (width : Nat) (text : List Char) : Option Char := do
  let digits := text.take width
  if digits.length ≠ width then none
  else
    let n ← hexNumber? digits
    if n.isValidChar then some (Char.ofNat n) else none

/-- What an escape stands for, and how many characters it has after the backslash. In a string of
several lines a backslash at the end of a line takes all blanks and line ends after it away. -/
def escape? (multiline : Bool) (text : List Char) : Option (List Char × Nat) :=
  match text with
  | [] => none
  | 'u' :: rest => (numberedChar? 4 rest).map fun c => ([c], 5)
  | 'U' :: rest => (numberedChar? 8 rest).map fun c => ([c], 9)
  | c :: _ =>
      match namedEscape? c with
      | some d => some ([d], 1)
      | none =>
          if multiline && (text.dropWhile isSpace).head? = some '\n' then
            some ([], (text.takeWhile isSpaceOrNewline).length)
          else none

/-! ## Strings -/

/-- The characters a string may hold as they are. -/
def isPlain (multiline : Bool) (c : Char) : Bool :=
  !isControl c || (multiline && c = '\n')

/-- Put characters in front of a text that has been read. -/
def prepend (cs : List Char) (r : List Char × List Char) : List Char × List Char :=
  (cs ++ r.1, r.2)

/-- The rest of a basic string and what follows it. -/
def basicBody (multiline : Bool) (text : List Char) : Option (List Char × List Char) :=
  match text with
  | [] => none
  | '"' :: rest =>
      if !multiline then some ([], rest)
      else if ['"', '"'].isPrefixOf rest then some ([], rest.drop 2)
      else (basicBody multiline rest).map (prepend ['"'])
  | '\\' :: rest =>
      match escape? multiline rest with
      | some (meaning, n) => (basicBody multiline (rest.drop n)).map (prepend meaning)
      | none => none
  | c :: rest =>
      if isPlain multiline c then (basicBody multiline rest).map (prepend [c]) else none
termination_by text.length

/-- The rest of a literal string and what follows it. -/
def literalBody (multiline : Bool) : List Char → Option (List Char × List Char)
  | [] => none
  | c :: rest =>
      if c = '\'' && !multiline then some ([], rest)
      else if c = '\'' && ['\'', '\''].isPrefixOf rest then some ([], rest.drop 2)
      else if isPlain multiline c then (literalBody multiline rest).map (prepend [c])
      else none

/-- A string on one line, after its opening quote. -/
def lineString (quote : Char) : Reader (List Char) := .ofOption fun text =>
  if quote = '"' then basicBody false text else literalBody false text

/-- A string of several lines, after its opening quotes. A line end right after them is dropped;
up to two quotes right before the closing ones belong to the string. -/
def multilineString (quote : Char) : Reader (List Char) := do
  let _ ← Reader.accept '\n'
  let body ← Reader.ofOption fun text =>
    if quote = '"' then basicBody true text else literalBody true text
  if ← Reader.accept quote then
    if ← Reader.accept quote then return body ++ [quote, quote]
    return body ++ [quote]
  return body

/-- A string in front of which its quote stands. -/
def readString (quote : Char) : Reader String := do
  let chars ←
    if ← Reader.startsWith [quote, quote, quote] then
      Reader.drop 3
      multilineString quote
    else
      Reader.drop 1
      lineString quote
  return String.ofList chars

/-! ## Keys -/

/-- The characters of a bare key. -/
def isBareKeyChar (c : Char) : Bool := c.isAlphanum || c = '-' || c = '_'

/-- The characters a key can begin with. -/
def beginsKey (c : Char) : Bool := isBareKeyChar c || c = '"' || c = '\''

/-- One part of a key. -/
def readKeyPart : Reader String := do
  match ← Reader.peek with
  | none => Reader.fail
  | some c =>
      if isBareKeyChar c then return String.ofList (← Reader.takeWhile isBareKeyChar)
      else if c = '"' || c = '\'' then
        Reader.drop 1
        return String.ofList (← lineString c)
      else Reader.fail

/-- The parts of a key, at most `fuel` of them, and the blanks after it. -/
def readKeyParts : Nat → Reader (List String)
  | 0 => Reader.fail
  | fuel + 1 => do
      let part ← readKeyPart
      Reader.skipWhile isSpace
      if ← Reader.accept '.' then
        Reader.skipWhile isSpace
        return part :: (← readKeyParts fuel)
      return [part]

/-- A key and the blanks after it. Every part but the last is followed by a point, so that there are
at most as many parts as characters. -/
def readKey : Reader (List String) := fun text => readKeyParts (text.length + 1) text

end Calculator.Toml
