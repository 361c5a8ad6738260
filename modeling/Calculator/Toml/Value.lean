import Calculator.Fault
import Calculator.Number.Layout

/-!
# Configuration values

The values of a TOML document, and how a message shows them.
-/

set_option autoImplicit false

namespace Calculator.Toml

/-- A day of the calendar. -/
structure Date where
  year : Nat
  month : Nat
  day : Nat
deriving DecidableEq, Repr

/-- A time of day, to the microsecond. -/
structure Time where
  hour : Nat
  minute : Nat
  second : Nat
  microsecond : Nat
deriving DecidableEq, Repr

/-- A value of a document. The offset of a point in time is in minutes; without one the time is
local. Tables keep the order of the document. -/
inductive Value where
  | string (text : String)
  | integer (n : Int)
  | float (x : Float)
  | boolean (b : Bool)
  | date (d : Date)
  | time (t : Time)
  | dateTime (d : Date) (t : Time) (offset : Option Int)
  | array (items : List Value)
  | table (entries : List (String × Value))

/-- The entries of a table, in order. -/
abbrev Table := List (String × Value)

/-! ## Calendar -/

/-- A leap year has a 29th of February. -/
def isLeapYear (year : Nat) : Bool :=
  year % 4 = 0 && (year % 100 ≠ 0 || year % 400 = 0)

/-- The number of days of a month. -/
def daysInMonth (year month : Nat) : Nat :=
  if month = 2 then (if isLeapYear year then 29 else 28)
  else if month = 4 || month = 6 || month = 9 || month = 11 then 30
  else 31

/-- A day that exists; years begin with one. -/
def Date.isValid (d : Date) : Bool :=
  1 ≤ d.year && 1 ≤ d.month && d.month ≤ 12 && 1 ≤ d.day && d.day ≤ daysInMonth d.year d.month

/-! ## Showing values -/

/-- Texts with commas between them. -/
def commaSeparated (texts : List String) : String := ", ".intercalate texts

/-- The parts of a date. -/
def Date.parts (d : Date) : List Nat := [d.year, d.month, d.day]

/-- The parts of a time; seconds and microseconds are left out if nothing but zeros follows. -/
def Time.parts (t : Time) : List Nat :=
  [t.hour, t.minute] ++
    (if t.microsecond ≠ 0 then [t.second, t.microsecond]
     else if t.second ≠ 0 then [t.second] else [])

/-- An offset from universal time, given in minutes. A negative one is counted from the day
before. -/
def describeOffset (minutes : Int) : String :=
  if minutes = 0 then "datetime.timezone.utc"
  else
    let seconds := if minutes < 0 then 86400 + minutes * 60 else minutes * 60
    "datetime.timezone(datetime.timedelta(" ++ (if minutes < 0 then "days=-1, " else "") ++
      "seconds=" ++ toString seconds ++ "))"

/-- A name with its parts between parentheses. -/
def describeParts (name : String) (parts : List String) : String :=
  name ++ "(" ++ commaSeparated parts ++ ")"

/-- How many values stand inside each other in a point in time: it holds its offset, and that holds
a duration unless it is zero. -/
def offsetLevels (offset : Option Int) : Nat :=
  match offset with
  | none => 1
  | some minutes => if minutes = 0 then 2 else 3

mutual

/-- A value as a message shows it. Each value takes one of so many levels of the stack while those
inside it are shown. -/
def Value.describe : Value → Nat → Except Fault String
  | _, 0 => .error .stackOverflow
  | .string text, _ + 1 => .ok (quoted text)
  | .integer n, _ + 1 => writeInt n
  | .float x, _ + 1 => .ok (floatText x)
  | .boolean b, _ + 1 => .ok (if b then "True" else "False")
  | .date d, _ + 1 => .ok (describeParts "datetime.date" (d.parts.map toString))
  | .time t, _ + 1 => .ok (describeParts "datetime.time" (t.parts.map toString))
  | .dateTime d t offset, levels + 1 =>
      if levels + 1 < offsetLevels offset then .error .stackOverflow
      else .ok (describeParts "datetime.datetime" ((d.parts ++ t.parts).map toString ++
        (offset.map fun minutes => "tzinfo=" ++ describeOffset minutes).toList))
  | .array items, levels + 1 => do
      return "[" ++ commaSeparated (← describeItems items levels) ++ "]"
  | .table entries, levels + 1 => do
      return "\x7b" ++ commaSeparated (← describeEntries entries levels) ++ "\x7d"

/-- The items of an array as a message shows them. -/
def describeItems : List Value → Nat → Except Fault (List String)
  | [], _ => .ok []
  | v :: rest, levels => do return (← v.describe levels) :: (← describeItems rest levels)

/-- The entries of a table as a message shows them. -/
def describeEntries : List (String × Value) → Nat → Except Fault (List String)
  | [], _ => .ok []
  | (key, v) :: rest, levels => do
      return (quoted key ++ ": " ++ (← v.describe levels)) :: (← describeEntries rest levels)

end

/-! ## Changing tables -/

namespace Table

/-- Replace the value of a key that is there. -/
def replace (t : Table) (key : String) (value : Value) : Table :=
  t.map fun entry => if entry.1 = key then (key, value) else entry

/-- Add an entry under a new key. -/
def insertNew (t : Table) (key : String) (value : Value) : Option Table :=
  if (t.lookup key).isSome then none else some (t ++ [(key, value)])

/-- Change the table at the end of a path, and make the tables on the way that are not there. An
array on the way stands for its last table if `throughArrays` is set; any other value blocks the
way. -/
def change (throughArrays : Bool) (f : Table → Option Table) : List String → Table → Option Table
  | [], t => f t
  | key :: path, t =>
      match t.lookup key with
      | none => (change throughArrays f path []).map fun inner => t ++ [(key, .table inner)]
      | some (.table inner) =>
          (change throughArrays f path inner).map fun inner => t.replace key (.table inner)
      | some (.array items) =>
          match throughArrays, items.getLast? with
          | true, some (.table inner) =>
              (change throughArrays f path inner).map fun inner =>
                t.replace key (.array (items.dropLast ++ [.table inner]))
          | _, _ => none
      | some _ => none

/-- Add an empty table to the array under a key, and make the array if it is not there. -/
def appendTable (t : Table) (key : String) : Option Table :=
  match t.lookup key with
  | none => some (t ++ [(key, .array [.table []])])
  | some (.array items) => some (t.replace key (.array (items ++ [.table []])))
  | some _ => none

end Table

end Calculator.Toml
