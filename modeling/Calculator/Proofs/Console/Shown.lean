import Calculator.Proofs.Console.Eval
import Calculator.Proofs.Registry.Lookups

/-!
# Numbers of digits that can be displayed

Whether a number of digits can be displayed does not depend on the value
(`exists_displayFloat_iff`): it must not be negative, and there is a largest one. The loader checks
the first and not the second. So under a configuration that loads, a value and the table of
constants are shown if its precision is at most `largestPrecision`, and otherwise nothing is shown
of either (`Console.shown_of_loaded`), whatever libraries read the arguments and print.
-/

set_option autoImplicit false

namespace Calculator

/-! ## Precisions -/

/-- A number has not too many digits if a larger one has not. -/
theorem isTooLong_of_natAbs_le {m n : Int} (h : m.natAbs ≤ n.natAbs) (hn : isTooLong n = false) :
    isTooLong m = false := by
  rw [isTooLong, decide_eq_false_iff_not, Nat.not_le] at hn ⊢
  exact Nat.lt_of_le_of_lt h hn

theorem checkPrecision_eq_ok_iff {precision : Int} :
    checkPrecision precision = .ok () ↔ 0 ≤ precision ∧ precision ≤ largestPrecision := by
  have hle : largestPrecision ≤ largestReadablePrecision := by decide
  have hwritable : isTooLong largestPrecision = false := by decide +kernel
  constructor
  · intro h
    unfold checkPrecision at h
    split at h
    · cases h
    · split at h
      · cases h
      · split at h
        · cases h
        · split at h
          · cases h
          · omega
  · rintro ⟨hleast, hmost⟩
    have hshort : isTooLong precision = false := isTooLong_of_natAbs_le (by omega) hwritable
    rw [checkPrecision, hshort, if_neg Bool.false_ne_true, if_neg (by omega), if_neg (by omega),
      if_neg (by omega)]

theorem displayFloat_of_le {precision : Int} (hleast : 0 ≤ precision)
    (hmost : precision ≤ largestPrecision) (x : Float) :
    ∃ text, displayFloat precision x = .ok text := by
  have hcheck : checkPrecision precision = .ok () := checkPrecision_eq_ok_iff.mpr ⟨hleast, hmost⟩
  rw [displayFloat, hcheck]
  exact ⟨_, rfl⟩

/-- A precision that is too large is refused for every value, and for the same reason. -/
theorem displayFloat_of_lt {precision : Int} (hmost : largestPrecision < precision) :
    ∃ e, ∀ x, displayFloat precision x = .error e := by
  cases hcheck : checkPrecision precision with
  | ok _ =>
      have hle := (checkPrecision_eq_ok_iff.mp hcheck).2
      omega
  | error e => exact ⟨e, fun x => by rw [displayFloat, hcheck]; rfl⟩

/-- Whether a number of digits can be displayed does not depend on the value. -/
theorem exists_displayFloat_iff {precision : Int} (hleast : 0 ≤ precision) (x : Float) :
    (∃ text, displayFloat precision x = .ok text) ↔ precision ≤ largestPrecision := by
  constructor
  · rintro ⟨text, htext⟩
    by_contra hlarge
    obtain ⟨e, he⟩ := displayFloat_of_lt (Int.not_le.mp hlarge)
    rw [he] at htext
    cases htext
  · exact fun hmost => displayFloat_of_le hleast hmost x

/-- The precision of a configuration that loads is positive. -/
theorem Config.one_le_precision_of_ofBytes? {host : Host} {path : String}
    {content : Option ByteArray} {c : Config} {warnings : List LogEntry}
    (h : ofBytes? host path content = .ok (c, warnings)) : 1 ≤ c.precision := by
  obtain ⟨text, document, -, -, hload⟩ := ofBytes?_eq_ok_iff.mp h
  obtain ⟨entries, hhead, -⟩ := ofDocument_eq_ok_iff.mp hload
  obtain ⟨engine, display, -, -, -, hkeys⟩ := head_eq_ok_iff.mp hhead
  exact (hkeys.precision.bounds (by decide) (by simp)).1

namespace Console

/-! ## The table of constants -/

/-- A row of the table. -/
def constantRow (c : Config) (r : Registry) (name : String) : Except Response (List String) := do
  let value := (r.constant? name).getD Double.notANumber
  return [name, ← displayed c.precision value, c.origin name]

/-- The table with such rows. -/
def constantsTable (rows : List (List String)) : Table :=
  ⟨"Constants", [⟨"Name", false⟩, ⟨"Value", true⟩, ⟨"Source", false⟩], rows⟩

section

variable {c : Config} {r : Registry} {name : String} {value : Float}

theorem constantRow_eq_ok (hvalue : r.constant? name = some value) {text : String}
    (htext : displayFloat c.precision value = .ok text) :
    constantRow c r name = .ok [name, text, c.origin name] := by
  rw [constantRow, hvalue]
  simp only [Option.getD_some, displayed, htext]
  rfl

theorem constantRow_eq_error {e : PrecisionError}
    (he : ∀ x, displayFloat c.precision x = .error e) (name : String) :
    constantRow c r name = .error (.escaped (.precision e)) := by
  simp only [constantRow, displayed, he]
  rfl

/-- What the command for constants prints and returns. -/
theorem settle_runConstants (hr : c.registry = .ok r) :
    settle (runConstants c) =
      settle (r.constantNames.mapM (constantRow c r) >>= fun rows =>
        .ok (.success [.table (constantsTable rows)])) := by
  have hregistry : activeRegistry c = .ok r := by
    rw [activeRegistry, hr]
    rfl
  rw [runConstants, hregistry]
  rfl

end

/-- If every element has a result, so has the list: the results in order. -/
theorem exists_mapM_eq_ok {α β ε : Type} {f : α → Except ε β} {P : α → β → Prop} {l : List α}
    (h : ∀ a ∈ l, ∃ b, f a = .ok b ∧ P a b) : ∃ bs, l.mapM f = .ok bs ∧ List.Forall₂ P l bs := by
  induction l with
  | nil => exact ⟨[], rfl, .nil⟩
  | cons a rest ih =>
      obtain ⟨b, hb, hab⟩ := h a (by simp)
      obtain ⟨bs, hbs, hrest⟩ := ih fun a' ha' => h a' (List.mem_cons_of_mem _ ha')
      refine ⟨b :: bs, ?_, .cons hab hrest⟩
      rw [List.mapM_cons, hb, hbs]
      rfl

/-! ## What is shown -/

/-- The response shows a value under a configuration. -/
def ShowsValue (c : Config) (x : Float) (response : Response) : Prop :=
  ∃ text, displayFloat c.precision x = .ok text ∧ response = ⟨0, [.text ("= " ++ text)], none⟩

/-- The response shows every constant under a configuration, in order: its name, its value, and
where it comes from. -/
def ShowsConstants (c : Config) (response : Response) : Prop :=
  ∃ r rows, c.registry = .ok r ∧ response = .success [.table (constantsTable rows)] ∧
    List.Forall₂ (fun name row => ∃ value text, r.constant? name = some value ∧
      displayFloat c.precision value = .ok text ∧ row = [name, text, c.origin name])
      r.constantNames rows

/-- The program ends without a word, as the number of digits cannot be displayed. -/
def Refuses (response : Response) : Prop := ∃ e, response = .escaped (.precision e)

/-- Something is shown with a number of digits if so many can be displayed, and else nothing is. -/
def ShowsIfUsable (precision : Int) (shows : Response → Prop) (response : Response) : Prop :=
  (precision ≤ largestPrecision → shows response) ∧
    (largestPrecision < precision → Refuses response)

section

variable {host : Host} {printer : Printer} {c : Config} {r : Registry}

theorem showsIfUsable_value {expression : String} {conventionalPower : Bool} {x : Float}
    (hleast : 0 ≤ c.precision) (hr : c.registry = .ok r)
    (hx : (calculate host r (settingsOf c conventionalPower) expression).1 = .ok x) :
    ShowsIfUsable c.precision (ShowsValue c x)
      (settle (runEval host printer c expression none conventionalPower)) := by
  rw [settle_runEval hr, hx, responseTo]
  constructor
  · intro hmost
    obtain ⟨text, htext⟩ := displayFloat_of_le hleast hmost x
    exact ⟨text, htext, congrArg valueResponse htext⟩
  · intro hlarge
    obtain ⟨e, he⟩ := displayFloat_of_lt hlarge
    exact ⟨e, congrArg valueResponse (he x)⟩

/-- A name in the list of constants has a value. -/
theorem exists_constant_of_mem {name : String} (hname : name ∈ r.constantNames) :
    ∃ value, r.constant? name = some value := by
  have hmem : name ∈ r.constants.map Prod.fst := (listsInOrder_sortNames _).mem_iff name |>.mp hname
  have hconstant : r.isConstant name = true := Registry.isConstant_iff_mem.mpr hmem
  rw [← Registry.isSome_constant?] at hconstant
  exact Option.isSome_iff_exists.mp hconstant

/-- There is always a constant, as the built-in ones are kept. -/
theorem constantNames_ne_nil (hr : c.registry = .ok r) : r.constantNames ≠ [] := by
  have hextended : Registry.builtin.withConstants c.constants = .ok r :=
    (Registry.configured_eq_withConstants c.constants).symm.trans hr
  obtain ⟨-, hconstants, -⟩ := Registry.withConstants_eq_ok_iff.mp hextended
  refine sortNames_ne_nil ?_
  rw [hconstants, List.map_append]
  exact List.append_ne_nil_of_left_ne_nil (by decide) _

theorem showsIfUsable_constants (hleast : 0 ≤ c.precision) (hr : c.registry = .ok r) :
    ShowsIfUsable c.precision (ShowsConstants c) (settle (runConstants c)) := by
  rw [settle_runConstants hr]
  constructor
  · intro hmost
    have hrows : ∀ name ∈ r.constantNames, ∃ row, constantRow c r name = .ok row ∧
        ∃ value text, r.constant? name = some value ∧
          displayFloat c.precision value = .ok text ∧ row = [name, text, c.origin name] := by
      intro name hname
      obtain ⟨value, hvalue⟩ := exists_constant_of_mem hname
      obtain ⟨text, htext⟩ := displayFloat_of_le hleast hmost value
      exact ⟨_, constantRow_eq_ok hvalue htext, value, text, hvalue, htext, rfl⟩
    obtain ⟨rows, hmap, hall⟩ := exists_mapM_eq_ok hrows
    refine ⟨r, rows, hr, ?_, hall⟩
    rw [hmap]
    rfl
  · intro hlarge
    obtain ⟨e, he⟩ := displayFloat_of_lt hlarge
    refine ⟨e, ?_⟩
    -- the first row fails, and there is a first one
    obtain ⟨name, rest, hnames⟩ := List.exists_cons_of_ne_nil (constantNames_ne_nil hr)
    rw [hnames, List.mapM_cons, constantRow_eq_error he]
    rfl

end

/-- Under a configuration that loads, every double can be displayed if the precision is at most
`largestPrecision`, and then the value of an expression and all constants are shown. Otherwise no
double can be displayed, and both commands end without a word. -/
theorem shown_of_loaded (host : Host) (parser : ArgumentParser) (printer : Printer) {path : String}
    {content : Option ByteArray} {c : Config} {warnings : List LogEntry}
    (h : Config.ofBytes? host path content = .ok (c, warnings)) :
    (∀ x, (∃ text, displayFloat c.precision x = .ok text) ↔ c.precision ≤ largestPrecision) ∧
      ∀ s given, Finds s given (.file path content) →
        (∀ arguments expression conventionalPower x,
          parser.read arguments none = .run given (.eval expression none conventionalPower) →
          Yields host s given expression conventionalPower c (.ok x) →
          ShowsIfUsable c.precision (ShowsValue c x) (respond host parser printer s arguments)) ∧
        ∀ arguments, parser.read arguments none = .run given .constants →
          ShowsIfUsable c.precision (ShowsConstants c)
            (respond host parser printer s arguments) := by
  have hleast : 0 ≤ c.precision := by
    have hpositive := Config.one_le_precision_of_ofBytes? h
    omega
  refine ⟨exists_displayFloat_iff hleast, fun s given hfinds => ⟨?_, ?_⟩⟩
  · rintro arguments expression conventionalPower x harguments ⟨hconfig, r, hr, hx⟩
    rw [respond_eq harguments, answer_of_hasConfig hconfig]
    exact showsIfUsable_value hleast hr hx
  · intro arguments harguments
    have hconfig : HasConfig host s given c := .file hfinds h
    obtain ⟨r, hr⟩ := hconfig.exists_registry
    rw [respond_eq harguments, answer_of_hasConfig hconfig]
    exact showsIfUsable_constants hleast hr

/-- The root directory, with a configuration file in it. -/
def inRoot (content : ByteArray) : Surroundings :=
  ⟨FileTree.empty.addFile [configFileName] (some content), [], none⟩

theorem finds_inRoot (content : ByteArray) :
    Finds (inRoot content) none (.file "/scicalc.toml" (some content)) := by
  refine finds_iff.mpr ?_
  rfl

/-- A file with a precision of three digits and a constant. -/
def threeDigits : String := "[display]\nprecision = 3\n[constants]\ntau = 6.283"

/-- With three digits, the constant of the file and the table of all constants are shown. -/
theorem shown_three_digits :
    ∃ c warnings x,
      Config.ofBytes? .standard "/scicalc.toml" (some threeDigits.toUTF8) = .ok (c, warnings) ∧
      c.constants = [("tau", x)] ∧
      ShowsValue c x (respond .standard Terminal.argumentParser Terminal.printer
        (inRoot threeDigits.toUTF8) ["eval", "tau"]) ∧
      ShowsConstants c (respond .standard Terminal.argumentParser Terminal.printer
        (inRoot threeDigits.toUTF8) ["constants"]) := by
  have htext : (Config.ofText .standard "/scicalc.toml" threeDigits).toOption.map (fun loaded =>
      (loaded.1.precision, loaded.1.constants.map Prod.fst)) = some (3, ["tau"]) := by
    decide +kernel
  obtain ⟨c, warnings, hfile, hloaded⟩ :=
    Config.exists_loaded (f := fun c => (c.precision, c.constants.map Prod.fst)) htext
  obtain ⟨hprecision, hnames⟩ := Prod.mk.inj hloaded
  obtain ⟨⟨name, x⟩, hconstants, rfl⟩ := List.map_eq_singleton_iff.mp hnames
  have hmost : c.precision ≤ largestPrecision := by
    rw [hprecision]
    decide
  have hfinds := finds_inRoot threeDigits.toUTF8
  -- the constant is evaluated by its name alone
  obtain ⟨r, hr, hserved⟩ : ∃ r, c.registry = .ok r ∧ c.IsServedBy .standard r :=
    (Config.isSound_of_ofBytes? hfile).exists_registry
  have hmem : ("tau", x) ∈ c.constants := by
    rw [hconstants]
    exact List.mem_singleton_self _
  have hsource : surrounded [] "tau" [] = "tau" := by
    rw [surrounded, List.append_nil, List.nil_append, String.ofList_toList]
  have hvalue := hserved.isEvaluated ("tau", x) hmem [] [] (by simp) (by simp)
  rw [hsource] at hvalue
  have hyields : Yields .standard (inRoot threeDigits.toUTF8) none "tau" false c (.ok x) :=
    ⟨.file hfinds hfile, r, hr, congrArg Prod.fst hvalue⟩
  obtain ⟨heval, htable⟩ :=
    (shown_of_loaded .standard Terminal.argumentParser Terminal.printer hfile).2 _ none hfinds
  exact ⟨c, warnings, x, hfile, hconstants,
    (heval ["eval", "tau"] "tau" false x (by decide +kernel) hyields).1 hmost,
    (htable ["constants"] (by decide +kernel)).1 hmost⟩

/-- A file with a precision of one digit more than can be displayed. -/
def oneDigitTooMany : String := "[display]\nprecision = 2147483648"

/-- It loads, and no double can be displayed with its precision. -/
theorem unshown_large_precision :
    ∃ c warnings,
      Config.ofBytes? .standard "scicalc.toml" (some oneDigitTooMany.toUTF8) = .ok (c, warnings) ∧
      ∀ x text, displayFloat c.precision x ≠ .ok text := by
  have htext : (Config.ofText .standard "scicalc.toml" oneDigitTooMany).toOption.map
      (fun loaded => loaded.1.precision) = some 2147483648 := by decide +kernel
  obtain ⟨c, warnings, hfile, hprecision⟩ := Config.exists_loaded (f := Config.precision) htext
  refine ⟨c, warnings, hfile, fun x text htext => ?_⟩
  have hmost := (exists_displayFloat_iff (by omega) x).mp ⟨text, htext⟩
  rw [hprecision] at hmost
  exact absurd hmost (by decide)

end Console

end Calculator
