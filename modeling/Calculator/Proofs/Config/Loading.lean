import Calculator.Config.Loader
import Calculator.Proofs.Results

/-!
# What the loader checks

A document is loaded in two parts. First its tables and keys are read (`Config.head`): three tables,
the grammar, the limits and the precision, each with its own conditions
(`Config.head_eq_ok_iff`). Then the constants are taken over one by one. Whether a constant is
admitted depends on itself and on the limit for names alone, not on the constants before it
(`Intake.add_of_admits`, `Intake.add_of_refuses`), so that all are admitted or the first one that is
not is refused (`Intake.foldlM_eq_ok_iff`, `Intake.foldlM_eq_error_iff`).
-/

set_option autoImplicit false

namespace Calculator

variable {host : Host}

/-! ## Tables and keys -/

/-- The entries of a table of a document. A table that is absent has none. -/
def HasTable (document : Toml.Table) (name : String) (entries : Toml.Table) : Prop :=
  (document.lookup name = none ∧ entries = []) ∨ document.lookup name = some (.table entries)

theorem configTable_eq_ok_iff {document entries : Toml.Table} {name : String} :
    configTable document name = .ok entries ↔ HasTable document name entries := by
  unfold configTable HasTable
  cases document.lookup name with
  | none => simp [eq_comm]
  | some found => cases found <;> simp

/-- The truth value of a key. A key that is absent has the standard one. -/
def HasBoolean (table : Toml.Table) (key : String) (standard b : Bool) : Prop :=
  (table.lookup key = none ∧ b = standard) ∨ table.lookup key = some (.boolean b)

theorem booleanKey_eq_ok_iff {table : Toml.Table} {tableName key : String} {standard b : Bool} :
    booleanKey table tableName key standard = .ok b ↔ HasBoolean table key standard b := by
  unfold booleanKey HasBoolean
  cases table.lookup key with
  | none => simp [eq_comm]
  | some found => cases found <;> simp

/-- The whole number of a key, from one to the ceiling if there is one. A key that is absent has the
standard one. -/
def HasPositive (table : Toml.Table) (key : String) (standard : Int) (ceiling : Option Int)
    (n : Int) : Prop :=
  (table.lookup key = none ∧ n = standard) ∨
    (table.lookup key = some (.integer n) ∧ 1 ≤ n ∧ ∀ most ∈ ceiling, n ≤ most)

theorem positiveKey_eq_ok_iff {table : Toml.Table} {tableName key : String} {standard n : Int}
    {ceiling : Option Int} :
    positiveKey table tableName key standard ceiling = .ok n ↔
      HasPositive table key standard ceiling n := by
  unfold positiveKey HasPositive
  cases table.lookup key with
  | none => simp [eq_comm]
  | some found =>
      cases found with
      | integer m =>
          simp only [reduceCtorEq, false_and, Option.some.injEq, Toml.Value.integer.injEq, false_or]
          -- The lower bound is checked first, and the upper one only if there is one.
          constructor
          · intro h
            split at h
            · cases h
            · next hpositive =>
                split at h
                · next most =>
                    split at h
                    · cases h
                    · next hmost =>
                        cases h
                        refine ⟨rfl, by omega, ?_⟩
                        rintro _ ⟨⟩
                        omega
                · cases h
                  exact ⟨rfl, by omega, by simp⟩
          · rintro ⟨rfl, hpositive, hmost⟩
            rw [if_neg (by omega)]
            split
            · next most => exact if_neg (Int.not_lt.mpr (hmost most rfl))
            · rfl
      | _ => simp

/-- A standard value within its bounds is as good as a written one. -/
theorem HasPositive.bounds {table : Toml.Table} {key : String} {standard n : Int}
    {ceiling : Option Int} (h : HasPositive table key standard ceiling n) (hstandard : 1 ≤ standard)
    (hceiling : ∀ most ∈ ceiling, standard ≤ most) : 1 ≤ n ∧ ∀ most ∈ ceiling, n ≤ most := by
  rcases h with ⟨-, rfl⟩ | ⟨-, hbounds⟩
  · exact ⟨hstandard, hceiling⟩
  · exact hbounds

namespace Config

/-- What a document says apart from the constants: limits and grammar, the precision, and the table
in which the constants stand. -/
structure Head where
  settings : Settings
  precision : Int
  constants : Toml.Table

/-- Read the tables and keys of a document, in the order in which they are checked. -/
def head (document : Toml.Table) : Except ConfigError Head := do
  let engine ← configTable document "engine"
  let display ← configTable document "display"
  let constants ← configTable document "constants"
  let standard : Config := .standard
  let conventionalPower ←
    booleanKey engine "engine" "conventional_power" standard.settings.conventionalPower
  let nestingLimit ← positiveKey engine "engine" "max_nesting_depth"
    standard.settings.nestingLimit (some nestingCeiling)
  let depthLimit ← positiveKey engine "engine" "max_tree_depth"
    standard.settings.depthLimit (some depthCeiling)
  let nameLimit ← positiveKey engine "engine" "name_max_length" standard.settings.nameLimit none
  let precision ← positiveKey display "display" "precision" standard.precision none
  return ⟨⟨nestingLimit, depthLimit, nameLimit, conventionalPower⟩, precision, constants⟩

/-- A document is loaded by reading its head and then its constants. -/
theorem ofDocument_eq (host : Host) (document : Toml.Table) :
    ofDocument host document = (do
      let h ← (head document).mapError (.ofError host)
      let taken ← h.constants.foldlM (Intake.add host h.settings.nameLimit) ⟨[], []⟩
      return (⟨h.settings, h.precision, taken.constants.reverse⟩, taken.warnings.reverse)) := by
  simp only [head, mapError_bind, bind_assoc]
  rfl

/-- What a head says, given the two tables that it is read from. -/
structure Head.IsIn (h : Head) (engine display : Toml.Table) : Prop where
  conventionalPower :
    HasBoolean engine "conventional_power" false h.settings.conventionalPower
  nestingLimit :
    HasPositive engine "max_nesting_depth" 100 (some nestingCeiling) h.settings.nestingLimit
  depthLimit : HasPositive engine "max_tree_depth" 300 (some depthCeiling) h.settings.depthLimit
  nameLimit : HasPositive engine "name_max_length" 31 none h.settings.nameLimit
  precision : HasPositive display "precision" 10 none h.precision

/-- A head is read exactly if the tables are tables and each key has a value of its kind. -/
theorem head_eq_ok_iff {document : Toml.Table} {h : Head} :
    head document = .ok h ↔
      ∃ engine display, HasTable document "engine" engine ∧ HasTable document "display" display ∧
        HasTable document "constants" h.constants ∧ h.IsIn engine display := by
  simp only [head, bind_eq_ok_iff, configTable_eq_ok_iff, booleanKey_eq_ok_iff,
    positiveKey_eq_ok_iff]
  constructor
  · rintro ⟨engine, hengine, display, hdisplay, constants, hconstants, power, hpower, nesting,
      hnesting, depth, hdepth, name, hname, precision, hprecision, heq⟩
    cases heq
    exact ⟨engine, display, hengine, hdisplay, hconstants,
      ⟨hpower, hnesting, hdepth, hname, hprecision⟩⟩
  · rintro ⟨engine, display, hengine, hdisplay, hconstants, hsays⟩
    exact ⟨engine, hengine, display, hdisplay, _, hconstants, _, hsays.conventionalPower, _,
      hsays.nestingLimit, _, hsays.depthLimit, _, hsays.nameLimit, _, hsays.precision, rfl⟩

end Config

/-! ## One constant -/

/-- A name that a constant may have: the lexer reads it as one word and cuts nothing off. -/
def IsConstantName (nameLimit : Int) (name : String) : Prop :=
  isName name.toList = true ∧ (name.length : Int) ≤ nameLimit

/-- The check of a name, as the loader makes it. -/
theorem isConstantName_iff {nameLimit : Int} {name : String} :
    IsConstantName nameLimit name ↔
      ¬ (!isName name.toList || decide (nameLimit < name.length)) = true := by
  simp [IsConstantName]

/-- Whether a value is a number. A truth value is none. -/
def isNumber : Toml.Value → Bool
  | .integer _ | .float _ => true
  | _ => false

/-- The double that a value stands for. -/
def double? : Toml.Value → Option Float
  | .integer n => Double.ofInt? n
  | .float x => some x
  | _ => none

theorem constantNumber?_of_isNumber {value : Toml.Value} (h : isNumber value = true) :
    constantNumber? value =
      some ((double? value).elim (.error (.raised .integerTooLarge)) .ok) := by
  cases value with
  | integer _ | float _ => rfl
  | _ => cases h

theorem constantNumber?_eq_none {value : Toml.Value} (h : isNumber value = false) :
    constantNumber? value = none := by
  cases value with
  | integer _ | float _ => cases h
  | _ => rfl

/-- The constant that an entry makes, unless it has the name of a built-in one. -/
def newConstant? (entry : String × Toml.Value) : Option (String × Float) :=
  if Registry.builtin.isRegistered entry.1 then none else (double? entry.2).map (entry.1, ·)

/-- The warning about an entry that has the name of a built-in constant or function. -/
def warning? (entry : String × Toml.Value) : Option LogEntry :=
  if Registry.builtin.isRegistered entry.1 then some (shadowWarning entry.1) else none

namespace Intake

/-- An entry that is admitted: a number under a name that a constant may have. A whole number has a
double near it, unless the entry is left out. -/
structure Admits (nameLimit : Int) (entry : String × Toml.Value) : Prop where
  isNumber : isNumber entry.2 = true
  isName : IsConstantName nameLimit entry.1
  isDouble : Registry.builtin.isRegistered entry.1 = false → (double? entry.2).isSome = true

/-- What is wrong with an entry. The value is looked at before the name. -/
inductive Blames (nameLimit : Int) : String × Toml.Value → ConfigError → Prop
  | notANumber {name : String} {value : Toml.Value} :
      isNumber value = false → Blames nameLimit (name, value) (.notANumber name value)
  | badName {name : String} {value : Toml.Value} :
      isNumber value = true → ¬ IsConstantName nameLimit name →
      Blames nameLimit (name, value) (.badName name nameLimit)

/-- A new constant that would be admitted if a double came near it. -/
structure IsTooLarge (nameLimit : Int) (name : String) (n : Int) : Prop where
  isName : IsConstantName nameLimit name
  isNew : Registry.builtin.isRegistered name = false
  noDouble : Double.ofInt? n = none

/-- How an entry is refused. -/
inductive Refuses (host : Host) (nameLimit : Int) : String × Toml.Value → LoadFailure → Prop
  | blamed {entry : String × Toml.Value} {cause : ConfigError} :
      Blames nameLimit entry cause → Refuses host nameLimit entry (.ofError host cause)
  | tooLarge {name : String} {n : Int} :
      IsTooLarge nameLimit name n →
      Refuses host nameLimit (name, .integer n) (.raised .integerTooLarge)

variable {nameLimit : Int} {taken after : Intake} {entry : String × Toml.Value}
  {entries : Toml.Table} {failure : LoadFailure}

theorem admits_or_refuses (host : Host) (nameLimit : Int) (entry : String × Toml.Value) :
    Admits nameLimit entry ∨ ∃ failure, Refuses host nameLimit entry failure := by
  obtain ⟨name, value⟩ := entry
  cases hnumber : isNumber value with
  | false => exact Or.inr ⟨_, .blamed (.notANumber hnumber)⟩
  | true =>
      by_cases hname : IsConstantName nameLimit name
      · by_cases hdouble :
            Registry.builtin.isRegistered name = false → (double? value).isSome = true
        · exact Or.inl ⟨hnumber, hname, hdouble⟩
        · rw [Classical.not_imp, Bool.not_eq_true, Option.isSome_eq_false_iff,
            Option.isNone_iff_eq_none] at hdouble
          -- only a whole number can be a number without being a double
          cases value with
          | integer n => exact Or.inr ⟨_, .tooLarge ⟨hname, hdouble.1, hdouble.2⟩⟩
          | float x => cases hdouble.2
          | _ => cases hnumber
      · exact Or.inr ⟨_, .blamed (.badName hnumber hname)⟩

/-- What is taken over from an entry that is admitted: a constant or a warning. -/
def plus (taken : Intake) (entry : String × Toml.Value) : Intake :=
  ⟨(newConstant? entry).toList ++ taken.constants, (warning? entry).toList ++ taken.warnings⟩

theorem add_of_admits (h : Admits nameLimit entry) (taken : Intake) :
    taken.add host nameLimit entry = .ok (taken.plus entry) := by
  obtain ⟨name, value⟩ := entry
  obtain ⟨hnumber, hname, hdouble⟩ := h
  have hchecked := isConstantName_iff.mp hname
  rw [Intake.add, constantNumber?_of_isNumber hnumber]
  simp only [if_neg hchecked]
  cases hshadow : Registry.builtin.isRegistered name with
  | true => simp [plus, newConstant?, warning?, hshadow]
  | false =>
      obtain ⟨x, hx⟩ := Option.isSome_iff_exists.mp (hdouble hshadow)
      simp [plus, newConstant?, warning?, hshadow, hx]

theorem add_of_refuses (h : Refuses host nameLimit entry failure) (taken : Intake) :
    taken.add host nameLimit entry = .error failure := by
  cases h with
  | blamed hblames =>
      cases hblames with
      | notANumber hnumber => rw [Intake.add, constantNumber?_eq_none hnumber]
      | badName hnumber hname =>
          rw [isConstantName_iff, Classical.not_not] at hname
          rw [Intake.add, constantNumber?_of_isNumber hnumber]
          simp only [if_pos hname]
  | tooLarge hlarge =>
      have hchecked := isConstantName_iff.mp hlarge.isName
      rw [Intake.add, constantNumber?_of_isNumber rfl]
      simp only [if_neg hchecked, hlarge.isNew, Bool.false_eq_true, if_false, double?,
        hlarge.noDouble, Option.elim_none]

theorem add_eq_ok_iff :
    taken.add host nameLimit entry = .ok after ↔
      Admits nameLimit entry ∧ after = taken.plus entry := by
  constructor
  · intro h
    rcases admits_or_refuses host nameLimit entry with hadmits | ⟨failure, hrefuses⟩
    · rw [add_of_admits hadmits] at h
      exact ⟨hadmits, (Except.ok.inj h).symm⟩
    · rw [add_of_refuses hrefuses] at h
      cases h
  · rintro ⟨hadmits, rfl⟩
    exact add_of_admits hadmits taken

/-! ## All constants -/

/-- All entries are taken over if each of them is admitted. -/
theorem foldlM_eq_ok_iff :
    entries.foldlM (add host nameLimit) taken = .ok after ↔
      (∀ entry ∈ entries, Admits nameLimit entry) ∧
        after = ⟨(entries.filterMap newConstant?).reverse ++ taken.constants,
          (entries.filterMap warning?).reverse ++ taken.warnings⟩ := by
  -- What has been taken before stays behind, so that the induction is over any beginning.
  induction entries generalizing taken with
  | nil => simp [pure, Except.pure, eq_comm]
  | cons entry rest ih =>
      have hrest : (⟨(rest.filterMap newConstant?).reverse ++ (taken.plus entry).constants,
          (rest.filterMap warning?).reverse ++ (taken.plus entry).warnings⟩ : Intake) =
          ⟨((entry :: rest).filterMap newConstant?).reverse ++ taken.constants,
            ((entry :: rest).filterMap warning?).reverse ++ taken.warnings⟩ := by
        rw [List.filterMap_cons, List.filterMap_cons, plus]
        cases newConstant? entry <;> cases warning? entry <;> simp
      rw [List.foldlM_cons, bind_eq_ok_iff, List.forall_mem_cons, ← hrest, and_assoc]
      constructor
      · rintro ⟨first, hfirst, h⟩
        obtain ⟨hentry, rfl⟩ := add_eq_ok_iff.mp hfirst
        exact ⟨hentry, ih.mp h⟩
      · rintro ⟨hentry, h⟩
        exact ⟨_, add_of_admits hentry taken, ih.mpr h⟩

/-- The first entry that is not admitted is refused, whatever comes after it. -/
theorem foldlM_eq_error_iff :
    entries.foldlM (add host nameLimit) taken = .error failure ↔
      ∃ before entry rest, entries = before ++ entry :: rest ∧
        (∀ earlier ∈ before, Admits nameLimit earlier) ∧ Refuses host nameLimit entry failure := by
  constructor
  · intro h
    induction entries generalizing taken with
    | nil => cases h
    | cons entry rest ih =>
        rw [List.foldlM_cons] at h
        rcases admits_or_refuses host nameLimit entry with hadmits | ⟨failure', hrefuses⟩
        · rw [add_of_admits hadmits] at h
          obtain ⟨before, culprit, behind, rfl, hbefore, hculprit⟩ := ih h
          exact ⟨entry :: before, culprit, behind, rfl,
            List.forall_mem_cons.mpr ⟨hadmits, hbefore⟩, hculprit⟩
        · rw [add_of_refuses hrefuses] at h
          cases h
          exact ⟨[], entry, rest, rfl, List.forall_mem_nil _, hrefuses⟩
  · rintro ⟨before, entry, rest, rfl, hbefore, hrefuses⟩
    have htaken : before.foldlM (add host nameLimit) taken = .ok _ :=
      foldlM_eq_ok_iff.mpr ⟨hbefore, rfl⟩
    calc (before ++ entry :: rest).foldlM (add host nameLimit) taken
        = before.foldlM (add host nameLimit) taken >>= fun t =>
            add host nameLimit t entry >>= rest.foldlM (add host nameLimit) := by
          rw [List.foldlM_append]
          rfl
      _ = .error failure := by
          rw [htaken]
          change add host nameLimit _ entry >>= _ = _
          rw [add_of_refuses hrefuses]
          rfl

end Intake

/-! ## The whole document -/

/-- A document is loaded exactly if its head is read and all its constants are admitted. -/
theorem Config.ofDocument_eq_ok_iff {document : Toml.Table} {c : Config}
    {warnings : List LogEntry} :
    ofDocument host document = .ok (c, warnings) ↔
      ∃ entries, head document = .ok ⟨c.settings, c.precision, entries⟩ ∧
        (∀ entry ∈ entries, Intake.Admits c.settings.nameLimit entry) ∧
        c.constants = entries.filterMap newConstant? ∧ warnings = entries.filterMap warning? := by
  rw [ofDocument_eq, bind_eq_ok_iff]
  constructor
  · rintro ⟨⟨settings, precision, entries⟩, hhead, h⟩
    obtain ⟨taken, htaken, h⟩ := bind_eq_ok_iff.mp h
    obtain ⟨hadmits, rfl⟩ := Intake.foldlM_eq_ok_iff.mp htaken
    cases h
    exact ⟨entries, mapError_eq_ok_iff.mp hhead, hadmits, by simp, by simp⟩
  · rintro ⟨entries, hhead, hadmits, hconstants, rfl⟩
    refine ⟨_, mapError_eq_ok_iff.mpr hhead, ?_⟩
    rw [bind_eq_ok_iff]
    refine ⟨_, Intake.foldlM_eq_ok_iff.mpr ⟨hadmits, rfl⟩, ?_⟩
    rw [List.append_nil, List.append_nil, List.reverse_reverse, List.reverse_reverse, ← hconstants]
    rfl

namespace Config

/-- The first thing that is wrong with a document: in its head, or with a constant behind others
that are admitted. -/
inductive Blames (document : Toml.Table) : ConfigError → Prop
  | head {cause : ConfigError} : head document = .error cause → Blames document cause
  | constant {h : Head} {before rest : Toml.Table} {entry : String × Toml.Value}
      {cause : ConfigError} :
      head document = .ok h → h.constants = before ++ entry :: rest →
      (∀ earlier ∈ before, Intake.Admits h.settings.nameLimit earlier) →
      Intake.Blames h.settings.nameLimit entry cause → Blames document cause

/-- The first constant that is not admitted is a whole number without a double near it. -/
def HoldsTooLarge (document : Toml.Table) : Prop :=
  ∃ h before name n rest, head document = .ok h ∧
    h.constants = before ++ (name, .integer n) :: rest ∧
    (∀ earlier ∈ before, Intake.Admits h.settings.nameLimit earlier) ∧
    Intake.IsTooLarge h.settings.nameLimit name n

/-- A document is refused for the first thing that is wrong with it, or for a number. -/
theorem ofDocument_eq_error_iff {document : Toml.Table} {failure : LoadFailure} :
    ofDocument host document = .error failure ↔
      (∃ cause, Blames document cause ∧ failure = .ofError host cause) ∨
        (HoldsTooLarge document ∧ failure = .raised .integerTooLarge) := by
  have hconstants : ∀ {h : Head}, head document = .ok h →
      (ofDocument host document = .error failure ↔
        h.constants.foldlM (Intake.add host h.settings.nameLimit) ⟨[], []⟩ = .error failure) := by
    intro h hhead
    rw [ofDocument_eq, mapError_eq_ok_iff.mpr hhead]
    change (h.constants.foldlM (Intake.add host h.settings.nameLimit) ⟨[], []⟩ >>= _) = _ ↔ _
    cases h.constants.foldlM (Intake.add host h.settings.nameLimit) ⟨[], []⟩ with
    | error e => exact ⟨fun heq => by cases heq; rfl, fun heq => by cases heq; rfl⟩
    | ok taken => exact iff_of_false nofun nofun
  constructor
  · intro h
    cases hhead : head document with
    | error cause =>
        rw [ofDocument_eq, hhead] at h
        cases h
        exact Or.inl ⟨cause, .head hhead, rfl⟩
    | ok found =>
        obtain ⟨before, entry, rest, heq, hbefore, hrefuses⟩ :=
          Intake.foldlM_eq_error_iff.mp ((hconstants hhead).mp h)
        cases hrefuses with
        | blamed hblames => exact Or.inl ⟨_, .constant hhead heq hbefore hblames, rfl⟩
        | tooLarge hlarge =>
            exact Or.inr ⟨⟨found, before, _, _, rest, hhead, heq, hbefore, hlarge⟩, rfl⟩
  · rintro (⟨cause, hblames, rfl⟩ | ⟨⟨h, before, name, n, rest, hhead, heq, hbefore, hlarge⟩, rfl⟩)
    · cases hblames with
      | head hhead =>
          rw [ofDocument_eq, hhead]
          rfl
      | constant hhead heq hbefore hblames =>
          exact (hconstants hhead).mpr
            (Intake.foldlM_eq_error_iff.mpr ⟨_, _, _, heq, hbefore, .blamed hblames⟩)
    · exact (hconstants hhead).mpr
        (Intake.foldlM_eq_error_iff.mpr ⟨_, _, _, heq, hbefore, .tooLarge hlarge⟩)

end Config

/-! ## The whole file -/

/-- The bytes of a text are read as this text. -/
theorem Config.ofBytes?_toUTF8 (host : Host) (path text : String) :
    ofBytes? host path (some text.toUTF8) = ofText host path text := by
  have hvalid : text.toUTF8.IsValidUTF8 := text.isValidUTF8
  rw [ofBytes?, String.fromUTF8?, dif_pos hvalid]
  rfl

/-- A file that holds a text is loaded as the text. -/
theorem Config.ofBytes?_of_text {path text : String} {content : Option ByteArray}
    (h : content.bind String.fromUTF8? = some text) :
    ofBytes? host path content = ofText host path text := by
  obtain ⟨bytes, rfl, hbytes⟩ := Option.bind_eq_some_iff.mp h
  rw [ofBytes?, hbytes]

/-- A file that holds no text has an error that is told. -/
theorem Config.ofBytes?_of_none {path : String} {content : Option ByteArray}
    (h : content.bind String.fromUTF8? = none) :
    ∃ message, ofBytes? host path content = .error (.error message) := by
  cases content with
  | none => exact ⟨_, rfl⟩
  | some bytes =>
      have hbytes : String.fromUTF8? bytes = none := h
      exact ⟨(FileError.undecodable bytes).message host path, by rw [ofBytes?, hbytes]⟩

/-- What the configuration of a text is like is what it is like when it is loaded from a file. -/
theorem Config.exists_loaded {α : Type} {path text : String} {f : Config → α} {a : α}
    (h : (ofText host path text).toOption.map (fun loaded => f loaded.1) = some a) :
    ∃ c warnings, ofBytes? host path (some text.toUTF8) = .ok (c, warnings) ∧ f c = a := by
  cases hload : ofText host path text with
  | error failure =>
      rw [hload] at h
      cases h
  | ok loaded =>
      rw [hload] at h
      exact ⟨loaded.1, loaded.2, (ofBytes?_toUTF8 host path text).trans hload, Option.some.inj h⟩

/-- A file is loaded exactly if it can be read, as a text, a document and a configuration. -/
theorem Config.ofBytes?_eq_ok_iff {path : String} {content : Option ByteArray}
    {loaded : Config × List LogEntry} :
    ofBytes? host path content = .ok loaded ↔
      ∃ text document, content.bind String.fromUTF8? = some text ∧
        Toml.read host text = .ok document ∧ ofDocument host document = .ok loaded := by
  cases htext : content.bind String.fromUTF8? with
  | none =>
      obtain ⟨message, hmessage⟩ : ∃ message,
          ofBytes? host path content = .error (.error message) := ofBytes?_of_none htext
      simp [hmessage]
  | some text =>
      rw [ofBytes?_of_text htext, ofText]
      cases hread : Toml.read host text <;> simp [hread]

end Calculator
