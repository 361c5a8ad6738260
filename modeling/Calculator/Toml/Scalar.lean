import Calculator.Toml.Reader

/-!
# Numbers, days and times

Digits may be grouped with single underscores between them. Whole numbers may be written in base
sixteen, eight or two, then without a sign. A time has seconds and may have a fraction of any
length, of which six digits count; a point in time may have an offset.
-/

set_option autoImplicit false

namespace Calculator.Toml

/-! ## Numbers -/

/-- Further digits of a group, and what follows it. -/
def moreDigits (p : Char → Bool) : List Char → List Char × List Char
  | [] => ([], [])
  | [c] => if p c then ([c], []) else ([], [c])
  | c :: d :: rest =>
      if p c then
        let (digits, after) := moreDigits p (d :: rest)
        (c :: digits, after)
      else if c = '_' && p d then
        let (digits, after) := moreDigits p rest
        (d :: digits, after)
      else ([], c :: d :: rest)

/-- At least one digit, with single underscores between digits left out. -/
def readDigits (p : Char → Bool) : Reader (List Char) := do
  let first ← Reader.satisfy p
  let others ← fun text => .ok (moreDigits p text)
  return first :: others

/-- The value of a digit in any base up to sixteen. -/
def digitValue (c : Char) : Nat :=
  if c.isDigit then c.toNat - '0'.toNat
  else if 'a' ≤ c then c.toNat - 'a'.toNat + 10
  else c.toNat - 'A'.toNat + 10

/-- The number that digits stand for. -/
def numberOf (base : Nat) (digits : List Char) : Nat :=
  digits.foldl (fun n c => n * base + digitValue c) 0

/-- A whole number in a base that a letter announces. -/
def readBased (letter : Char) (base : Nat) (p : Char → Bool) : Reader Value := do
  Reader.expect ['0', letter]
  return .integer (numberOf base (← readDigits p))

/-- Digits of base sixteen. -/
def isHexDigit (c : Char) : Bool := c.isDigit || ('a' ≤ c && c ≤ 'f') || ('A' ≤ c && c ≤ 'F')

/-- An optional sign: `true` for a minus. -/
def readSign : Reader Bool := do
  if ← Reader.accept '-' then return true
  let _ ← Reader.accept '+'
  return false

/-- The whole part of a decimal number: a zero, or digits that do not begin with one. -/
def readWhole : Reader (List Char) := do
  if ← Reader.accept '0' then return ['0']
  readDigits Char.isDigit

/-- The digits after the point. -/
def readFraction : Reader (List Char) := do
  Reader.expect ['.']
  readDigits Char.isDigit

/-- A power of ten. -/
def readExponent : Reader Int := do
  let _ ← Reader.satisfy (fun c => c = 'e' || c = 'E')
  let negative ← readSign
  let power := Int.ofNat (numberOf 10 (← readDigits Char.isDigit))
  return if negative then -power else power

/-- A whole number in base ten. -/
def readInteger (negative : Bool) (digits : List Char) : Reader Value := fun text =>
  if mostIntegerDigits < digits.length then .error (.numeralTooLong digits.length)
  else
    let n := Int.ofNat (numberOf 10 digits)
    .ok (.integer (if negative then -n else n), text)

/-- A decimal number: a float if it has a fraction or an exponent, else a whole number. -/
def readDecimal : Reader Value := do
  let negative ← readSign
  let whole ← readWhole
  let fraction ← Reader.optional readFraction
  let exponent ← Reader.optional readExponent
  if fraction.isNone && exponent.isNone then
    readInteger negative whole
  else
    let digits := fraction.getD []
    let decimal : Decimal := ⟨numberOf 10 (whole ++ digits), exponent.getD 0 - digits.length⟩
    return .float (decimal.toFloat negative)

/-- An infinity or a missing number. -/
def readSpecial : Reader Value := do
  let negative ← readSign
  if ← Reader.startsWith ['i', 'n', 'f'] then
    Reader.drop 3
    return .float (Double.infinite negative).toFloat
  Reader.expect ['n', 'a', 'n']
  return .float Double.notANumber

/-! ## Days and times -/

/-- A number of exactly `width` digits. -/
def readFixed (width : Nat) : Reader Nat := .ofOption fun text =>
  let digits := text.take width
  if digits.length = width && digits.all Char.isDigit then
    some (numberOf 10 digits, text.drop width)
  else none

/-- A number of two digits, within bounds. -/
def readTwoDigits (least most : Nat) : Reader Nat := do
  let n ← readFixed 2
  if least ≤ n && n ≤ most then return n
  Reader.fail

/-- A fraction of a second, in microseconds; digits after the sixth do not count. -/
def readMicroseconds : Reader Nat := do
  Reader.expect ['.']
  let first ← Reader.satisfy Char.isDigit
  let digits := (first :: (← Reader.takeWhile Char.isDigit)).take 6
  return numberOf 10 digits * Nat.pow 10 (6 - digits.length)

/-- A time of day. -/
def readTime : Reader Time := do
  let hour ← readTwoDigits 0 23
  Reader.expect [':']
  let minute ← readTwoDigits 0 59
  Reader.expect [':']
  let second ← readTwoDigits 0 59
  let microsecond ← Reader.optional readMicroseconds
  return ⟨hour, minute, second, microsecond.getD 0⟩

/-- A day that exists. -/
def readDate : Reader Date := do
  let year ← readFixed 4
  Reader.expect ['-']
  let month ← readTwoDigits 1 12
  Reader.expect ['-']
  let day ← readTwoDigits 1 31
  let date : Date := ⟨year, month, day⟩
  if date.isValid then return date
  Reader.fail

/-- An offset from universal time, in minutes. -/
def readOffset : Reader Int := do
  let c ← Reader.satisfy (fun c => c = 'Z' || c = 'z' || c = '+' || c = '-')
  if c = 'Z' || c = 'z' then return 0
  let hours ← readTwoDigits 0 23
  Reader.expect [':']
  let minutes ← readTwoDigits 0 59
  let offset := Int.ofNat (hours * 60 + minutes)
  return if c = '-' then -offset else offset

/-- The time of a point in time, after its date, with its offset. -/
def readTimeOfDate : Reader (Time × Option Int) := do
  let _ ← Reader.satisfy (fun c => c = 'T' || c = 't' || c = ' ')
  let time ← readTime
  return (time, ← Reader.optional readOffset)

/-- A day, or a point in time. -/
def readDateTime : Reader Value := do
  let date ← readDate
  match ← Reader.optional readTimeOfDate with
  | some (time, offset) => return .dateTime date time offset
  | none => return .date date

/-! ## All scalars but strings -/

/-- A truth value. -/
def readBoolean : Reader Value := .ofOption fun text =>
  if ['t', 'r', 'u', 'e'].isPrefixOf text then some (.boolean true, text.drop 4)
  else if ['f', 'a', 'l', 's', 'e'].isPrefixOf text then some (.boolean false, text.drop 5)
  else none

/-- A truth value, day, time or number. -/
def readScalar : Reader Value :=
  Reader.firstOf [readBoolean, readDateTime, Value.time <$> readTime,
    readBased 'x' 16 isHexDigit, readBased 'o' 8 (fun c => '0' ≤ c && c ≤ '7'),
    readBased 'b' 2 (fun c => c = '0' || c = '1'), readDecimal, readSpecial]

end Calculator.Toml
