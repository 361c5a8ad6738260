import Calculator.Console.Arguments
import Calculator.Fault
import Calculator.Terminal.WhiteSpace
import Calculator.Text.Split

/-!
# Options

A way to read the arguments of the program. Options begin with a hyphen. A long option takes its
value from behind an equals sign or from the next argument; short ones may be put together, and the
last of them may have its value right behind it. Two hyphens end the options. Options of the program
stand before the command; those of a command may stand anywhere behind it.
-/

set_option autoImplicit false

namespace Calculator.Terminal

open Console (Command Invocation ArgumentParser)

/-! ## Options -/

/-- The options. -/
inductive OptionName where
  | version
  | config
  | verbose
  | precision
  | conventionalPower
deriving DecidableEq, Repr

/-- Whether an option takes a value. -/
def OptionName.takesValue : OptionName → Bool
  | .config => true
  | .precision => true
  | _ => false

/-- How an option is written. -/
structure OptionForm where
  name : OptionName
  long : String
  short : Option Char
deriving DecidableEq, Repr

/-- The options of the program. -/
def programOptions : List OptionForm :=
  [⟨.version, "--version", none⟩, ⟨.config, "--config", some 'c'⟩,
   ⟨.verbose, "--verbose", some 'v'⟩]

/-- The options of the command that evaluates. -/
def evalOptions : List OptionForm :=
  [⟨.precision, "--precision", some 'p'⟩, ⟨.conventionalPower, "--conventional-power", none⟩]

/-- What one argument says: options with their values, and an option whose value is the next
argument. -/
structure Given where
  options : List (OptionName × String)
  awaiting : Option OptionName

/-- Short options put together, without the hyphen. -/
def shortOptions (forms : List OptionForm) : List Char → Option Given
  | [] => some ⟨[], none⟩
  | c :: rest =>
      match forms.find? (·.short = some c) with
      | none => none
      | some form =>
          if form.name.takesValue then
            if rest.isEmpty then some ⟨[], some form.name⟩
            else some ⟨[(form.name, String.ofList rest)], none⟩
          else
            (shortOptions forms rest).map fun given =>
              { given with options := (form.name, "") :: given.options }

/-- What an argument that begins with a hyphen says, if it can be understood. -/
def givenBy (forms : List OptionForm) (argument : String) : Option Given :=
  let written := argument.toList
  let name := written.takeWhile (· ≠ '=')
  let value := (written.drop name.length).drop 1
  let hasValue := written.contains '='
  match forms.find? (·.long.toList = name) with
  | some form =>
      if form.name.takesValue then
        if hasValue then some ⟨[(form.name, String.ofList value)], none⟩
        else some ⟨[], some form.name⟩
      else if hasValue then none
      else some ⟨[(form.name, "")], none⟩
  | none =>
      -- an unknown long option is not read as short ones
      if ['-', '-'].isPrefixOf written then none else shortOptions forms (written.drop 1)

/-- Whether an argument is an option; a hyphen alone is none. -/
def isOption (argument : String) : Bool :=
  argument.toList.head? = some '-' && argument ≠ "-"

/-- Options, the last one first, and other arguments in order. -/
structure Sorted where
  options : List (OptionName × String)
  others : List String

/-- Tell options from other arguments. If they may not be mixed, the first other argument ends the
options. The value of an option that awaits one is the next argument, whatever it looks like. -/
def sortArguments (forms : List OptionForm) (mixed : Bool) (sorted : Sorted)
    (awaiting : Option OptionName) : List String → Option Sorted
  | [] => if awaiting.isSome then none else some { sorted with others := sorted.others.reverse }
  | argument :: rest =>
      match awaiting with
      | some name =>
          sortArguments forms mixed
            { sorted with options := (name, argument) :: sorted.options } none rest
      | none =>
          if argument = "--" then some { sorted with others := sorted.others.reverse ++ rest }
          else if isOption argument then
            match givenBy forms argument with
            | none => none
            | some given =>
                sortArguments forms mixed
                  { sorted with options := given.options.reverse ++ sorted.options }
                  given.awaiting rest
          else if mixed then
            sortArguments forms mixed { sorted with others := argument :: sorted.others } none rest
          else some { sorted with others := argument :: rest }

/-! ## Invocations -/

/-- Digits with single underscores between them, without the underscores. -/
def ungroup? (digits : List Char) : Option (List Char) :=
  let groups := splitWhere (· = '_') digits
  if groups.all fun group => !group.isEmpty && group.all Char.isDigit then some groups.flatten
  else none

/-- What remains of a number without the zeros in front of it, and the underscores among them. -/
def dropLeadingZeros (number : List Char) : List Char :=
  if number.head? = some '0' then number.dropWhile (fun c => c = '0' || c = '_') else number

/-- Nothing, or a point and zeros. -/
def isZeroFraction : List Char → Bool
  | [] => true
  | c :: zeros => c = '.' && !zeros.isEmpty && zeros.all (· = '0')

/-- A whole number as an argument. White space around it, a plus sign, zeros in front of it and a
fraction of zeros do not count. -/
def readNatural? (text : String) : Option Nat := do
  let trimmed := trimWhiteSpace text.toList
  let unsigned := if trimmed.head? = some '+' then trimmed.drop 1 else trimmed
  let number := dropLeadingZeros unsigned
  let digits ← ungroup? (number.takeWhile (· ≠ '.'))
  if isZeroFraction (number.dropWhile (· ≠ '.')) && digits.length ≤ mostIntegerDigits then
    some (Nat.ofDigitChars 10 digits 0)
  else none

/-- A precision, which is at least one digit. -/
def readPrecision? (text : String) : Option Nat :=
  (readNatural? text).filter (1 ≤ ·)

/-- The precision among the options, if there is one and it can be understood. -/
def givenPrecision (sorted : Sorted) : Option (Option Nat) :=
  match sorted.options.lookup .precision with
  | none => some none
  | some text => (readPrecision? text).map some

/-- The arguments of the command that evaluates. -/
def readEval (arguments : List String) : Option Command := do
  let sorted ← sortArguments evalOptions true ⟨[], []⟩ none arguments
  let precision ← givenPrecision sorted
  match sorted.others with
  | [expression] =>
      some (.eval expression (precision.map Int.ofNat)
        (sorted.options.lookup .conventionalPower).isSome)
  | _ => none

/-- A command that takes no arguments. -/
def readPlain (command : Command) (arguments : List String) : Option Command := do
  let sorted ← sortArguments [] true ⟨[], []⟩ none arguments
  if sorted.others.isEmpty then some command else none

/-- The command and its arguments. -/
def readCommand : List String → Option Command
  | "eval" :: rest => readEval rest
  | "functions" :: rest => readPlain .functions rest
  | "constants" :: rest => readPlain .constants rest
  | _ => none

/-- All arguments of the program. The version is shown whatever the command is. -/
def readArguments (arguments : List String) : Invocation :=
  match sortArguments programOptions false ⟨[], []⟩ none arguments with
  | none => .misused
  | some sorted =>
      if (sorted.options.lookup .version).isSome then .version
      else
        match readCommand sorted.others with
        | some command => .run (sorted.options.lookup .config) command
        | none => .misused

/-! ## The parser -/

theorem one_le_of_givenPrecision {sorted : Sorted} {n : Nat}
    (h : givenPrecision sorted = some (some n)) : 1 ≤ n := by
  unfold givenPrecision at h
  split at h
  · cases h
  · obtain ⟨m, hm, hmn⟩ := Option.map_eq_some_iff.mp h
    obtain rfl := Option.some.inj hmn
    simpa using (Option.filter_eq_some_iff.mp hm).2

theorem one_le_of_readEval {arguments : List String} {expression : String} {digits : Int}
    {conventionalPower : Bool}
    (h : readEval arguments = some (.eval expression (some digits) conventionalPower)) :
    1 ≤ digits := by
  obtain ⟨sorted, -, h⟩ := Option.bind_eq_some_iff.mp h
  obtain ⟨precision, hprecision, h⟩ := Option.bind_eq_some_iff.mp h
  split at h
  · obtain ⟨-, hdigits, -⟩ := Command.eval.inj (Option.some.inj h)
    obtain ⟨n, rfl, rfl⟩ := Option.map_eq_some_iff.mp hdigits
    exact Int.ofNat_le.mpr (one_le_of_givenPrecision hprecision)
  · cases h

theorem eq_of_readPlain {command read : Command} {arguments : List String}
    (h : readPlain command arguments = some read) : read = command := by
  obtain ⟨sorted, -, h⟩ := Option.bind_eq_some_iff.mp h
  split at h
  · exact (Option.some.inj h).symm
  · cases h

theorem one_le_of_readCommand {arguments : List String} {expression : String} {digits : Int}
    {conventionalPower : Bool}
    (h : readCommand arguments = some (.eval expression (some digits) conventionalPower)) :
    1 ≤ digits := by
  unfold readCommand at h
  split at h
  · exact one_le_of_readEval h
  · cases eq_of_readPlain h
  · cases eq_of_readPlain h
  · cases h

theorem one_le_of_readArguments {arguments : List String} {given : Option String}
    {expression : String} {digits : Int} {conventionalPower : Bool}
    (h : readArguments arguments = .run given (.eval expression (some digits) conventionalPower)) :
    1 ≤ digits := by
  unfold readArguments at h
  split at h
  · cases h
  · split at h
    · cases h
    · split at h
      · next command hcommand =>
          cases h
          exact one_le_of_readCommand hcommand
      · cases h

/-- Without a variable, what the arguments say is what is read. -/
theorem withVariable_none (invocation : Invocation) :
    invocation.withVariable none = invocation := by
  cases invocation with
  | run given command => cases given <;> rfl
  | _ => rfl

/-- The parser for a terminal. -/
def argumentParser : ArgumentParser where
  read arguments environment := (readArguments arguments).withVariable environment
  read_eq arguments environment := by rw [withVariable_none]
  one_le h := by
    rw [withVariable_none] at h
    exact one_le_of_readArguments h

end Calculator.Terminal
