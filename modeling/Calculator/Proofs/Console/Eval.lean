import Calculator.Console.Response
import Calculator.Proofs.Config.Usable
import Calculator.Proofs.Files.Nearest
import Calculator.Terminal.Options
import Calculator.Terminal.Screen

/-!
# The command that evaluates

What the command hands over to be printed follows from the configuration in force and from a
calculation under its settings. `Console.Finds` says where the configuration is found: in the file
that is named, or else in the nearest one. `Console.Evaluates` says how the command ends, with one
constructor for each way, and it ends so and in no other way (`Console.evaluates_iff`). If it
succeeds, it prints a value and nothing else (`Console.Evaluates.lines_of_success`). All this is so
for every library that reads the arguments, and for every library that prints.
-/

set_option autoImplicit false

namespace Calculator.Console

/-! ## The configuration file -/

/-- A configuration file is named, by the arguments or else by a variable that is not empty. -/
inductive Names (s : Surroundings) : Option String → String → Prop
  | arguments {written : String} : Names s (some written) written
  | environment {written : String} :
      s.environment = some written → written ≠ "" → Names s none written

/-- No configuration file is named. -/
def NamesNone (s : Surroundings) (given : Option String) : Prop :=
  given = none ∧ ∀ written, s.environment = some written → written = ""

/-- Where the configuration is found; `given` is the file that the arguments name, if they do. -/
inductive Finds (s : Surroundings) (given : Option String) : ConfigSource → Prop
  /-- The path that is named leads to a file, which can be read or not. -/
  | named {written : String} {content : Option ByteArray} :
      Names s given written → (Path.ofString written).holdsNull = false →
      s.tree.refusal? s.directory (Path.ofString written) = none →
      s.tree.fileAt? s.directory (Path.ofString written) = some content →
      Finds s given (.file (Path.ofString written).toString content)
  /-- The path that is named leads to no file. -/
  | missing {written : String} :
      Names s given written → (Path.ofString written).holdsNull = false →
      s.tree.refusal? s.directory (Path.ofString written) = none →
      s.tree.fileAt? s.directory (Path.ofString written) = none →
      Finds s given (.missing (Path.ofString written).toString)
  /-- A path with a null character in it leads to no file. -/
  | nullCharacter {written : String} :
      Names s given written → (Path.ofString written).holdsNull = true →
      Finds s given (.missing (Path.ofString written).toString)
  /-- The system refuses to follow the path that is named. -/
  | refused {written : String} {cause : Refusal} :
      Names s given written → (Path.ofString written).holdsNull = false →
      s.tree.refusal? s.directory (Path.ofString written) = some cause →
      Finds s given (.refused cause (Path.ofString written).toString)
  /-- Nothing is named, and this is the nearest file in the working directory or above it. -/
  | nearest {above : Location} {content : Option ByteArray} :
      NamesNone s given →
      s.tree.refusal? [] (Location.toPath (s.directory ++ [configFileName])) = none →
      s.tree.IsNearest configFileName s.directory above →
      s.tree.file? (above ++ [configFileName]) = some content →
      Finds s given (.file (Location.toString (above ++ [configFileName])) content)
  /-- Nothing is named, and there is no file in the working directory or above it. -/
  | standard :
      NamesNone s given →
      s.tree.refusal? [] (Location.toPath (s.directory ++ [configFileName])) = none →
      (∀ above, above <+: s.directory → s.tree.isFile (above ++ [configFileName]) = false) →
      Finds s given .standard
  /-- Nothing is named, and the system refuses to follow the path of a file in the working
  directory. -/
  | refusedBelow {cause : Refusal} :
      NamesNone s given →
      s.tree.refusal? [] (Location.toPath (s.directory ++ [configFileName])) = some cause →
      Finds s given (.refused cause (Location.toString (s.directory ++ [configFileName])))

section Configuration

variable {s : Surroundings} {given : Option String}

theorem names_iff {written : String} :
    Names s given written ↔ nameOf given s.environment = some written := by
  cases given with
  | some other =>
      constructor
      · rintro ⟨⟩
        rfl
      · intro h
        cases h
        exact .arguments
  | none =>
      change _ ↔ s.environment.filter (· ≠ "") = some written
      rw [Option.filter_eq_some_iff]
      constructor
      · intro h
        cases h with
        | environment hvariable hne => exact ⟨hvariable, by simpa using hne⟩
      · rintro ⟨hvariable, hne⟩
        exact .environment hvariable (by simpa using hne)

theorem namesNone_iff : NamesNone s given ↔ nameOf given s.environment = none := by
  cases given with
  | some other => exact iff_of_false (fun h => by cases h.1) fun h => by cases h
  | none =>
      change _ ↔ s.environment.filter (· ≠ "") = none
      simp [NamesNone, Option.filter_eq_none_iff]

/-- Where the program looks for its configuration. -/
def source (s : Surroundings) (given : Option String) : ConfigSource :=
  configSource s.tree s.directory ((nameOf given s.environment).map Path.ofString)

theorem source_of_null {written : String} (h : Names s given written)
    (hnull : (Path.ofString written).holdsNull = true) :
    source s given = .missing (Path.ofString written).toString := by
  rw [source, names_iff.mp h]
  exact if_pos hnull

theorem source_of_names {written : String} (h : Names s given written)
    (hnull : (Path.ofString written).holdsNull = false) :
    source s given =
      match s.tree.refusal? s.directory (Path.ofString written) with
      | some cause => .refused cause (Path.ofString written).toString
      | none =>
          match s.tree.fileAt? s.directory (Path.ofString written) with
          | some content => .file (Path.ofString written).toString content
          | none => .missing (Path.ofString written).toString := by
  rw [source, names_iff.mp h]
  exact if_neg (Bool.eq_false_iff.mp hnull)

theorem source_of_refused {cause : Refusal} (h : NamesNone s given)
    (hrefused : s.tree.refusal? [] (Location.toPath (s.directory ++ [configFileName])) =
      some cause) :
    source s given = .refused cause (Location.toString (s.directory ++ [configFileName])) := by
  rw [source, namesNone_iff.mp h, Option.map_none]
  simp only [configSource, FileTree.findUp_of_refused hrefused]

theorem source_of_admits (h : NamesNone s given)
    (hadmits : s.tree.refusal? [] (Location.toPath (s.directory ++ [configFileName])) = none) :
    source s given =
      match s.tree.findUp? configFileName s.directory with
      | some found =>
          match s.tree.file? found with
          | some content => .file (Location.toString found) content
          | none => .standard
      | none => .standard := by
  rw [source, namesNone_iff.mp h, Option.map_none]
  simp only [configSource, FileTree.findUp_of_admits (by decide) hadmits]
  cases s.tree.findUp? configFileName s.directory <;> rfl

/-- The configuration is found where the program looks for it. -/
theorem finds_source (s : Surroundings) (given : Option String) :
    Finds s given (source s given) := by
  cases hnamed : nameOf given s.environment with
  | some written =>
      have hnames := names_iff.mpr hnamed
      cases hnull : (Path.ofString written).holdsNull with
      | true =>
          rw [source_of_null hnames hnull]
          exact .nullCharacter hnames hnull
      | false =>
          rw [source_of_names hnames hnull]
          split
          · next cause hrefused => exact .refused hnames hnull hrefused
          · next hadmits =>
              split
              · next content hcontent => exact .named hnames hnull hadmits hcontent
              · next hcontent => exact .missing hnames hnull hadmits hcontent
  | none =>
      have hnone := namesNone_iff.mpr hnamed
      cases hrefusal : s.tree.refusal? [] (Location.toPath (s.directory ++ [configFileName])) with
      | some cause =>
          rw [source_of_refused hnone hrefusal]
          exact .refusedBelow hnone hrefusal
      | none =>
          rw [source_of_admits hnone hrefusal]
          split
          · next found hfound =>
              obtain ⟨above, hnearest, rfl⟩ := FileTree.findUp?_eq_some_iff.mp hfound
              obtain ⟨content, hcontent⟩ := Option.isSome_iff_exists.mp hnearest.holds
              rw [hcontent]
              exact .nearest hnone hrefusal hnearest hcontent
          · next hfound =>
              exact .standard hnone hrefusal (FileTree.findUp?_eq_none_iff.mp hfound)

theorem finds_iff {found : ConfigSource} : Finds s given found ↔ source s given = found := by
  constructor
  · intro h
    cases h with
    | named hnames hnull hadmits hcontent =>
        simp only [source_of_names hnames hnull, hadmits, hcontent]
    | missing hnames hnull hadmits hcontent =>
        simp only [source_of_names hnames hnull, hadmits, hcontent]
    | nullCharacter hnames hnull => exact source_of_null hnames hnull
    | refused hnames hnull hrefused => simp only [source_of_names hnames hnull, hrefused]
    | nearest hnone hadmits hnearest hcontent =>
        have hfound := FileTree.findUp?_eq_some_iff.mpr ⟨_, hnearest, rfl⟩
        simp only [source_of_admits hnone hadmits, hfound, hcontent]
    | standard hnone hadmits hlacks =>
        have hfound := FileTree.findUp?_eq_none_iff.mpr hlacks
        simp only [source_of_admits hnone hadmits, hfound]
    | refusedBelow hnone hrefused => exact source_of_refused hnone hrefused
  · rintro rfl
    exact finds_source s given

end Configuration

/-! ## The ways to end -/

/-- The configuration in force: that of the file, or the standard one. -/
inductive HasConfig (host : Host) (s : Surroundings) (given : Option String) : Config → Prop
  | file {path : String} {content : Option ByteArray} {c : Config} {warnings : List LogEntry} :
      Finds s given (.file path content) →
      Config.ofBytes? host path content = .ok (c, warnings) → HasConfig host s given c
  | standard : Finds s given .standard → HasConfig host s given .standard

/-- What becomes of the expression under the configuration in force and its registry. -/
def Yields (host : Host) (s : Surroundings) (given : Option String) (expression : String)
    (conventionalPower : Bool) (c : Config) (outcome : Except Failure Float) : Prop :=
  HasConfig host s given c ∧ ∃ r, c.registry = .ok r ∧
    (calculate host r (settingsOf c conventionalPower) expression).1 = outcome

/-- How the command ends. -/
inductive Evaluates (host : Host) (printer : Printer) (s : Surroundings) (given : Option String)
    (expression : String) (precision : Option Int) (conventionalPower : Bool) : Response → Prop
  /-- The path that is named leads to no file. -/
  | missing {path : String} :
      Finds s given (.missing path) →
      Evaluates host printer s given expression precision conventionalPower
        ⟨1, [.marked (red ("Config file not found: " ++ printer.escape path))], none⟩
  /-- The file has an error. -/
  | invalid {path message : String} {content : Option ByteArray} :
      Finds s given (.file path content) →
      Config.ofBytes? host path content = .error (.error message) →
      Evaluates host printer s given expression precision conventionalPower
        ⟨1, [.marked (red "Invalid configuration:" ++ " " ++ printer.escape message)], none⟩
  /-- The expression has a value, which is displayed. -/
  | value {c : Config} {x : Float} {text : String} :
      Yields host s given expression conventionalPower c (.ok x) →
      displayFloat (precision.getD c.precision) x = .ok text →
      Evaluates host printer s given expression precision conventionalPower
        ⟨0, [.text ("= " ++ text)], none⟩
  /-- A stage of the calculation fails. -/
  | diagnosed {c : Config} {failure : Failure} {d : Diagnostic} :
      Yields host s given expression conventionalPower c (.error failure) →
      failure.diagnostic expression = .ok d →
      Evaluates host printer s given expression precision conventionalPower
        ⟨1, diagnosticOutput printer d, none⟩
  /-- The system refuses to follow the path that is named, or that of a file in the working
  directory. -/
  | refused {cause : Refusal} {path : String} :
      Finds s given (.refused cause path) →
      Evaluates host printer s given expression precision conventionalPower
        ⟨1, [], some (.refused cause path)⟩
  /-- Loading the file fails, and no error tells so. -/
  | unloaded {path : String} {content : Option ByteArray} {fault : Fault} :
      Finds s given (.file path content) →
      Config.ofBytes? host path content = .error (.raised fault) →
      Evaluates host printer s given expression precision conventionalPower
        ⟨1, [], some (.raised fault)⟩
  /-- The value cannot be displayed with so many digits. -/
  | undisplayed {c : Config} {x : Float} {e : PrecisionError} :
      Yields host s given expression conventionalPower c (.ok x) →
      displayFloat (precision.getD c.precision) x = .error e →
      Evaluates host printer s given expression precision conventionalPower
        ⟨1, [], some (.precision e)⟩
  /-- The calculation fails, and no stage reports it. -/
  | unreported {c : Config} {failure : Failure} {fault : Fault} :
      Yields host s given expression conventionalPower c (.error failure) →
      failure.diagnostic expression = .error fault →
      Evaluates host printer s given expression precision conventionalPower
        ⟨1, [], some (.raised fault)⟩

section Endings

variable {host : Host} {parser : ArgumentParser} {printer : Printer} {s : Surroundings}
  {given : Option String} {expression : String} {precision : Option Int} {conventionalPower : Bool}
  {c : Config} {response : Response}

/-- What the program does with a configuration, or without one. -/
def answer (host : Host) (printer : Printer) (s : Surroundings) (given : Option String)
    (command : Command) : Response :=
  settle (activeConfig host printer s (nameOf given s.environment) >>= fun c =>
    runCommand host printer c command)

theorem respond_eq {arguments : List String} {command : Command}
    (h : parser.read arguments none = .run given command) :
    respond host parser printer s arguments = answer host printer s given command := by
  rw [respond, parser.read_eq, h]
  rfl

/-- The registry of the configuration in force can be built. -/
theorem HasConfig.exists_registry (h : HasConfig host s given c) : ∃ r, c.registry = .ok r := by
  cases h with
  | file _ hload =>
      obtain ⟨r, hr, -⟩ : ∃ r, c.registry = .ok r ∧ c.IsServedBy host r :=
        (Config.isSound_of_ofBytes? hload).exists_registry
      exact ⟨r, hr⟩
  | standard _ => exact ⟨.builtin, rfl⟩

/-- The configuration that is found, or the response without one. -/
def configOf (host : Host) (printer : Printer) : ConfigSource → Except Response Config
  | .standard => .ok .standard
  | .missing path =>
      .error (.failure [.marked (red ("Config file not found: " ++ printer.escape path))])
  | .refused cause path => .error (.escaped (.refused cause path))
  | .file path content =>
      match Config.ofBytes? host path content with
      | .ok (config, _) => .ok config
      | .error (.error message) =>
          .error (.failure [.marked
            (red "Invalid configuration:" ++ " " ++ printer.escape message)])
      | .error (.raised fault) => .error (.escaped (.raised fault))

theorem configOf_invalid {path message : String} {content : Option ByteArray}
    (h : Config.ofBytes? host path content = .error (.error message)) :
    configOf host printer (.file path content) =
      .error ⟨1, [.marked (red "Invalid configuration:" ++ " " ++ printer.escape message)],
        none⟩ := by
  rw [configOf, h]
  rfl

theorem configOf_unloaded {path : String} {content : Option ByteArray} {fault : Fault}
    (h : Config.ofBytes? host path content = .error (.raised fault)) :
    configOf host printer (.file path content) = .error ⟨1, [], some (.raised fault)⟩ := by
  rw [configOf, h]
  rfl

theorem activeConfig_of_finds {found : ConfigSource} (h : Finds s given found) :
    activeConfig host printer s (nameOf given s.environment) = configOf host printer found := by
  obtain rfl := finds_iff.mp h
  rfl

theorem activeConfig_of_hasConfig (h : HasConfig host s given c) :
    activeConfig host printer s (nameOf given s.environment) = .ok c := by
  cases h with
  | file hfinds hload => simp only [activeConfig_of_finds hfinds, configOf, hload]
  | standard hfinds => rw [activeConfig_of_finds hfinds, configOf]

/-- Without a configuration the response is given before anything is evaluated. -/
theorem answer_of_finds {found : ConfigSource} {command : Command} (h : Finds s given found)
    (hresponse : configOf host printer found = .error response) :
    answer host printer s given command = response := by
  rw [answer, activeConfig_of_finds h, hresponse]
  rfl

theorem answer_of_hasConfig {command : Command} (h : HasConfig host s given c) :
    answer host printer s given command = settle (runCommand host printer c command) := by
  rw [answer, activeConfig_of_hasConfig h]
  rfl

/-- A precision that is asked for is not zero, so that it counts. -/
theorem digitsOf_eq (h : ∀ digits, precision = some digits → 1 ≤ digits) :
    digitsOf c precision = precision.getD c.precision := by
  cases precision with
  | none => rfl
  | some digits =>
      have hone := h digits rfl
      rw [digitsOf, Option.filter_some_pos (by simp; omega)]

/-- The response to a value, displayed or not. -/
def valueResponse : Except PrecisionError String → Response
  | .ok text => ⟨0, [.text ("= " ++ text)], none⟩
  | .error e => ⟨1, [], some (.precision e)⟩

/-- The response to a failure, told or not. -/
def failureResponse (printer : Printer) : Except Fault Diagnostic → Response
  | .ok d => ⟨1, diagnosticOutput printer d, none⟩
  | .error fault => ⟨1, [], some (.raised fault)⟩

/-- The response to a value or a failure. -/
def responseTo (printer : Printer) (expression : String) (digits : Int) :
    Except Failure Float → Response
  | .ok x => valueResponse (displayFloat digits x)
  | .error failure => failureResponse printer (failure.diagnostic expression)

theorem settle_runEval {r : Registry} (hr : c.registry = .ok r) :
    settle (runEval host printer c expression precision conventionalPower) =
      responseTo printer expression (digitsOf c precision)
        (calculate host r (settingsOf c conventionalPower) expression).1 := by
  have hregistry : activeRegistry c = .ok r := by
    rw [activeRegistry, hr]
    rfl
  rw [runEval, hregistry]
  -- The registry is there, so that only the outcome is left to be told apart.
  change settle (match (calculate host r (settingsOf c conventionalPower) expression).1 with
    | .ok x => (do return .success [.text ("= " ++ (← displayed (digitsOf c precision) x))])
    | .error failure =>
        match failure.diagnostic expression with
        | .ok d => return .failure (diagnosticOutput printer d)
        | .error fault => return .escaped (.raised fault)) = _
  cases (calculate host r (settingsOf c conventionalPower) expression).1 with
  | ok x =>
      simp only [displayed, responseTo]
      cases displayFloat (digitsOf c precision) x <;> rfl
  | error failure =>
      simp only [responseTo]
      cases failure.diagnostic expression <;> rfl

/-- With a configuration in force, the answer is that of the calculation. -/
theorem answer_of_yields {outcome : Except Failure Float}
    (h : Yields host s given expression conventionalPower c outcome) :
    answer host printer s given (.eval expression precision conventionalPower) =
      responseTo printer expression (digitsOf c precision) outcome := by
  obtain ⟨hconfig, r, hr, rfl⟩ := h
  rw [answer_of_hasConfig hconfig, ← settle_runEval hr]
  rfl

/-- Under the configuration in force, the expression has a value or a failure. -/
theorem HasConfig.exists_yields (h : HasConfig host s given c) (expression : String)
    (conventionalPower : Bool) :
    ∃ outcome, Yields host s given expression conventionalPower c outcome := by
  obtain ⟨r, hr⟩ := h.exists_registry
  exact ⟨_, h, r, hr, rfl⟩

section

variable (hprecision : ∀ digits, precision = some digits → 1 ≤ digits)

include hprecision

theorem evaluates_of_hasConfig (h : HasConfig host s given c) :
    Evaluates host printer s given expression precision conventionalPower
      (answer host printer s given (.eval expression precision conventionalPower)) := by
  obtain ⟨outcome, houtcome⟩ := h.exists_yields expression conventionalPower
  rw [answer_of_yields houtcome, digitsOf_eq hprecision]
  cases outcome with
  | ok x =>
      rw [responseTo]
      cases htext : displayFloat (precision.getD c.precision) x with
      | ok text => exact .value houtcome htext
      | error e => exact .undisplayed houtcome htext
  | error failure =>
      rw [responseTo]
      cases hd : failure.diagnostic expression with
      | ok d => exact .diagnosed houtcome hd
      | error fault => exact .unreported houtcome hd

/-- The program ends in one of the ways. -/
theorem evaluates_answer :
    Evaluates host printer s given expression precision conventionalPower
      (answer host printer s given (.eval expression precision conventionalPower)) := by
  have hfinds := finds_source s given
  cases hsource : source s given with
  | standard =>
      rw [hsource] at hfinds
      exact evaluates_of_hasConfig hprecision (.standard hfinds)
  | missing path =>
      rw [hsource] at hfinds
      rw [answer_of_finds hfinds rfl]
      exact .missing hfinds
  | refused cause path =>
      rw [hsource] at hfinds
      rw [answer_of_finds hfinds rfl]
      exact .refused hfinds
  | file path content =>
      rw [hsource] at hfinds
      -- Only a file that loads leads on to the expression.
      cases hload : Config.ofBytes? host path content with
      | ok loaded => exact evaluates_of_hasConfig hprecision (.file hfinds hload)
      | error failure =>
          cases failure with
          | error message =>
              rw [answer_of_finds hfinds (configOf_invalid hload)]
              exact .invalid hfinds hload
          | raised fault =>
              rw [answer_of_finds hfinds (configOf_unloaded hload)]
              exact .unloaded hfinds hload

/-- It ends in no other way. -/
theorem Evaluates.eq_answer
    (h : Evaluates host printer s given expression precision conventionalPower response) :
    answer host printer s given (.eval expression precision conventionalPower) = response := by
  have hdigits : ∀ c : Config, digitsOf c precision = precision.getD c.precision :=
    fun c => digitsOf_eq hprecision
  cases h with
  | missing hfinds => exact answer_of_finds hfinds rfl
  | refused hfinds => exact answer_of_finds hfinds rfl
  | invalid hfinds hload => exact answer_of_finds hfinds (configOf_invalid hload)
  | unloaded hfinds hload => exact answer_of_finds hfinds (configOf_unloaded hload)
  | value hyields htext => rw [answer_of_yields hyields, hdigits, responseTo, htext, valueResponse]
  | undisplayed hyields he => rw [answer_of_yields hyields, hdigits, responseTo, he, valueResponse]
  | diagnosed hyields hd => rw [answer_of_yields hyields, responseTo, hd, failureResponse]
  | unreported hyields hfault =>
      rw [answer_of_yields hyields, responseTo, hfault, failureResponse]

end

/-- A success is a value, printed on a line of its own by a library that prints plain texts as they
are. -/
theorem Evaluates.lines_of_success
    (h : Evaluates host printer s given expression precision conventionalPower response)
    (hsuccess : response.exitCode = 0) (hprinter : ∀ text, printer.print (.text text) = text) :
    ∃ c x text, Yields host s given expression conventionalPower c (.ok x) ∧
      displayFloat (precision.getD c.precision) x = .ok text ∧
      response.lines printer = ["= " ++ text] := by
  cases h with
  | value hyields htext =>
      exact ⟨_, _, _, hyields, htext, congrArg (fun line => [line]) (hprinter _)⟩
  | missing | invalid | diagnosed | refused | unloaded | undisplayed | unreported =>
      exact absurd hsuccess Nat.one_ne_zero

end Endings

/-- The command ends in one of the ways, and it ends as its configuration and its calculation
say. -/
theorem evaluates_iff (host : Host) (parser : ArgumentParser) (printer : Printer)
    (s : Surroundings) {arguments : List String} {given : Option String} {expression : String}
    {precision : Option Int} {conventionalPower : Bool}
    (h : parser.read arguments none =
      .run given (.eval expression precision conventionalPower)) (response : Response) :
    Evaluates host printer s given expression precision conventionalPower response ↔
      respond host parser printer s arguments = response := by
  have hprecision : ∀ digits, precision = some digits → 1 ≤ digits := by
    rintro digits rfl
    exact parser.one_le h
  rw [respond_eq h]
  constructor
  · exact Evaluates.eq_answer hprecision
  · rintro rfl
    exact evaluates_answer hprecision

theorem evaluates_one_third :
    Terminal.argumentParser.read ["eval", "-p", "4", "1/3"] none =
        .run none (.eval "1/3" (some 4) false) ∧
      Evaluates .standard Terminal.printer ⟨.empty, [], none⟩ none "1/3" (some 4) false
        ⟨0, [.text "= 0.3333"], none⟩ := by
  have harguments : Terminal.argumentParser.read ["eval", "-p", "4", "1/3"] none =
      .run none (.eval "1/3" (some 4) false) := by decide +kernel
  refine ⟨harguments, (evaluates_iff .standard _ Terminal.printer _ harguments _).mpr ?_⟩
  -- Responses cannot be compared as a whole, so each field is evaluated by itself.
  generalize hresponse : respond .standard Terminal.argumentParser Terminal.printer
    ⟨.empty, [], none⟩ ["eval", "-p", "4", "1/3"] = response
  have hexit : response.exitCode = 0 := by rw [← hresponse]; decide +kernel
  have houtput : response.output = [.text "= 0.3333"] := by rw [← hresponse]; decide +kernel
  have hescape : response.escape = none := by
    rw [← Option.isNone_iff_eq_none, ← hresponse]
    decide +kernel
  obtain ⟨exitCode, output, escape⟩ := response
  subst hexit houtput hescape
  rfl

/-- There is nothing to be found in an empty tree. -/
theorem fileAt?_empty (directory : Location) (p : Path) :
    FileTree.empty.fileAt? directory p = none := by
  refine Option.bind_eq_none_iff.mpr fun l _ => ?_
  cases l <;> rfl

/-- A name that is too long for the system: a letter and marks over it, of three bytes each. -/
def longName : String := String.ofList ('a' :: List.replicate 85 '\u20d0')

/-- Nothing is printed if the name of the configuration file is too long, although it names no
file. -/
theorem unreported_long_name :
    FileTree.empty.fileAt? [] (Path.ofString longName) = none ∧
      (respond .standard Terminal.argumentParser Terminal.printer ⟨.empty, [], none⟩
        ["--config", longName, "eval", "1"]).output = [] ∧
      (respond .standard Terminal.argumentParser Terminal.printer ⟨.empty, [], none⟩
          ["--config", longName, "eval", "1"]).output ≠
        [.marked (red ("Config file not found: " ++ Terminal.printer.escape longName))] := by
  have hchars : longName.toList = 'a' :: List.replicate 85 '\u20d0' := String.toList_ofList
  have hpath : Path.ofString longName = ⟨"", [longName]⟩ := by
    rw [Path.ofString, hchars]
    decide +kernel
  have hnull : (Path.ofString longName).holdsNull = false := by
    rw [hpath]
    decide +kernel
  have harguments : Terminal.argumentParser.read ["--config", longName, "eval", "1"] none =
      .run (some longName) (.eval "1" none false) := by decide +kernel
  have hrefused : FileTree.empty.refusal? [] (Path.ofString longName) = some .tooLong := by
    rw [hpath]
    decide +kernel
  have hends : Evaluates .standard Terminal.printer ⟨.empty, [], none⟩ (some longName) "1" none
      false ⟨1, [], some (.refused .tooLong (Path.ofString longName).toString)⟩ :=
    .refused (.refused .arguments hnull hrefused)
  have houtput : (respond .standard Terminal.argumentParser Terminal.printer ⟨.empty, [], none⟩
      ["--config", longName, "eval", "1"]).output = [] :=
    congrArg Response.output ((respond_eq harguments).trans (hends.eq_answer (by simp)))
  refine ⟨fileAt?_empty _ _, houtput, ?_⟩
  rw [houtput]
  exact (List.cons_ne_nil _ _).symm

end Calculator.Console
