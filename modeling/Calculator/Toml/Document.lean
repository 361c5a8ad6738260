import Calculator.Host
import Calculator.Toml.Scalar
import Calculator.Toml.Text

/-!
# Documents

A document is a sequence of lines, each an entry, the heading of a table or of an element of an
array of tables, or nothing. `Toml.parse` gives the table of the whole document.

Which tables may still be opened or added to is kept beside the tables: arrays and tables written
as values are closed for good, with everything below them; a table is opened by at most one heading;
a table made by the dotted key of an entry can be added to only until the next heading.
-/

set_option autoImplicit false

namespace Calculator.Toml

/-! ## Values -/

/-- Skip blanks, line ends and comments, at most `fuel` comments. -/
def skipFiller : Nat → Reader Unit
  | 0 => pure ()
  | fuel + 1 => do
      Reader.skipWhile isSpaceOrNewline
      if (← Reader.peek) = some '#' then
        Reader.skipComment
        skipFiller fuel

/-- Skip blanks, line ends and comments. -/
def skipAllFiller : Reader Unit := fun text => skipFiller (text.length + 1) text

/-- A path, as the keys that lead to a table. -/
abbrev Path := List String

/-- Whether a path leads into one of several tables, or to it. -/
def leadsInto (path : Path) (tables : List Path) : Bool :=
  !path.isEmpty && tables.any (·.isPrefixOf path)

/-- Whether a value is an array or a table. -/
def Value.isContainer : Value → Bool
  | .array _ => true
  | .table _ => true
  | _ => false

/-- A table being written as a value, and the arrays and tables in it that are closed. -/
structure InlineTable where
  entries : Table
  closed : List Path

/-- Add an entry to a table written as a value. -/
def InlineTable.add (t : InlineTable) (key : Path) (value : Value) : Option InlineTable :=
  if leadsInto key t.closed then none
  else
    (Table.change false (fun inner => Table.insertNew inner (key.getLastD "") value) key.dropLast
      t.entries).map
      fun entries => ⟨entries, if value.isContainer then key :: t.closed else t.closed⟩

mutual

/-- A value. Each level of an array or table costs two steps of fuel, and so does each item. -/
def readValue : Nat → Reader Value
  | 0 => Reader.fail
  | fuel + 1 => do
      match ← Reader.peek with
      | some '"' => return .string (← readString '"')
      | some '\'' => return .string (← readString '\'')
      | some '[' =>
          Reader.drop 1
          return .array (← readItems fuel)
      | some '\x7b' =>
          Reader.drop 1
          Reader.skipWhile isSpace
          if ← Reader.accept '\x7d' then return .table []
          return .table (← readEntries fuel ⟨[], []⟩)
      | _ => readScalar

/-- The items of an array, up to its end. A comma may stand after the last one. -/
def readItems : Nat → Reader (List Value)
  | 0 => Reader.fail
  | fuel + 1 => do
      skipAllFiller
      if ← Reader.accept ']' then return []
      let item ← readValue fuel
      skipAllFiller
      if ← Reader.accept ',' then return item :: (← readItems fuel)
      Reader.expect [']']
      return [item]

/-- The entries of a table written as a value, up to its end. No comma may stand after the last
one. -/
def readEntries : Nat → InlineTable → Reader Table
  | 0, _ => Reader.fail
  | fuel + 1, t => do
      let key ← readKey
      Reader.expect ['=']
      Reader.skipWhile isSpace
      let value ← readValue fuel
      match t.add key value with
      | none => Reader.fail
      | some t =>
          Reader.skipWhile isSpace
          if ← Reader.accept ',' then
            Reader.skipWhile isSpace
            readEntries fuel t
          else
            Reader.expect ['\x7d']
            return t.entries

end

/-! ## Building the document -/

/-- The document read so far. -/
structure Draft where
  root : Table
  /-- The table to which entries are added. -/
  heading : Path
  /-- Arrays and tables written as values; nothing below them can be changed. -/
  closed : List Path
  /-- Tables that no heading can open any more. -/
  opened : List Path
  /-- Tables made by dotted keys since the last heading, which the next heading closes. -/
  dotted : List Path

namespace Draft

/-- The empty document. -/
def empty : Draft := ⟨[], [], [], [], []⟩

/-- The proper beginnings of a key below a heading. -/
def waypoints (heading key : Path) : List Path :=
  (List.range (key.length - 1)).map fun i => heading ++ key.take (i + 1)

/-- Add an entry below the current heading. -/
def addEntry (d : Draft) (key : Path) (value : Value) : Option Draft :=
  let parent := d.heading ++ key.dropLast
  let waypoints := waypoints d.heading key
  if waypoints.any d.opened.contains || leadsInto parent d.closed then none
  else
    (Table.change true (fun t => t.insertNew (key.getLastD "") value) parent d.root).map fun root =>
      { d with
        root := root
        dotted := waypoints ++ d.dotted
        closed := if value.isContainer then (d.heading ++ key) :: d.closed else d.closed }

/-- A heading ends the tables made by dotted keys. -/
def endDotted (d : Draft) : Draft :=
  { d with opened := d.dotted ++ d.opened, dotted := [] }

/-- Open a table under a heading. -/
def openTable (d : Draft) (key : Path) : Option Draft :=
  let d := d.endDotted
  if d.opened.contains key || leadsInto key d.closed then none
  else
    (Table.change true some key d.root).map fun root =>
      { d with root := root, heading := key, opened := key :: d.opened }

/-- Open a further element of an array of tables under a heading. What was said of the tables below
the heading was said of the element before. -/
def openElement (d : Draft) (key : Path) : Option Draft :=
  let d := d.endDotted
  if leadsInto key d.closed then none
  else
    (Table.change true (fun t => t.appendTable (key.getLastD "")) key.dropLast d.root).map
      fun root =>
        { d with
          root := root
          heading := key
          closed := d.closed.filter (!key.isPrefixOf ·)
          opened := key :: d.opened.filter (!key.isPrefixOf ·) }

end Draft

/-! ## Lines -/

/-- An entry. -/
def readEntryLine (d : Draft) : Reader Draft := do
  let key ← readKey
  Reader.expect ['=']
  Reader.skipWhile isSpace
  let value ← fun text => readValue (2 * text.length + 2) text
  match d.addEntry key value with
  | some d => return d
  | none => Reader.fail

/-- A heading. -/
def readHeading (d : Draft) : Reader Draft := do
  Reader.drop 1
  let isElement ← Reader.accept '['
  Reader.skipWhile isSpace
  let key ← readKey
  Reader.expect (if isElement then [']', ']'] else [']'])
  match if isElement then d.openElement key else d.openTable key with
  | some d => return d
  | none => Reader.fail

/-- What stands on a line before its comment. -/
def readLine (d : Draft) : Reader Draft := do
  match ← Reader.peek with
  | some '[' => readHeading d
  | some c => if beginsKey c then readEntryLine d else return d
  | none => return d

/-- All lines, at most `fuel` of them. -/
def readLines : Nat → Draft → Reader Draft
  | 0, _ => Reader.fail
  | fuel + 1, d => do
      Reader.skipWhile isSpace
      let d ← readLine d
      Reader.skipWhile isSpace
      Reader.skipComment
      match ← Reader.peek with
      | none => return d
      | some _ =>
          Reader.expect ['\n']
          readLines fuel d

/-- The table of a document whose lines end in line feeds. Every line but the last takes a
character. -/
def parse (text : List Char) : Except ReadError Table :=
  (readLines (text.length + 1) .empty text).map fun r => r.1.root

/-- Every kind of line end as a line feed. -/
def unifyLineEnds : List Char → List Char
  | [] => []
  | '\r' :: '\n' :: rest => '\n' :: unifyLineEnds rest
  | '\r' :: rest => '\n' :: unifyLineEnds rest
  | c :: rest => c :: unifyLineEnds rest

/-- The document in a text, as far as the host can read it. -/
def read (host : Host) (text : String) : Except ReadError Table :=
  let lines := unifyLineEnds text.toList
  if host.overflows lines then .error .tooNested else parse lines

/-- A document is read where the stack of the host holds its values. -/
theorem read_eq_ok_iff {host : Host} {text : String} {document : Table} :
    read host text = .ok document ↔
      host.overflows (unifyLineEnds text.toList) = false ∧
        parse (unifyLineEnds text.toList) = .ok document := by
  unfold read
  cases h : host.overflows (unifyLineEnds text.toList) <;> simp [h]

end Calculator.Toml
