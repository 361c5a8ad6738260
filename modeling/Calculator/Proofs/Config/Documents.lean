import Calculator.Proofs.Config.Loading
import Calculator.Proofs.Number.WholeNumbers

/-!
# Valid documents

Which documents are configurations can be said without the order in which the loader makes its
checks: `Config.IsValid` has one condition for each table, for each key and for each constant. What
a valid document says is `Config.copied`: the values that are given, the standard values of the keys
that are absent, the constants that have no built-in name, and a warning for each of the others.

The loader accepts exactly the valid documents, and it gives what they say
(`Config.loads_exactly_valid_documents`).
-/

set_option autoImplicit false

namespace Calculator

/-! ## Keys of tables -/

namespace Toml

/-- The key is absent from the table, or its value meets the condition. -/
def Allows (table : Table) (key : String) (condition : Value → Prop) : Prop :=
  ∀ value, table.lookup key = some value → condition value

/-- A table. -/
def Value.IsTable : Value → Prop
  | .table _ => True
  | _ => False

/-- A truth value. -/
def Value.IsBoolean : Value → Prop
  | .boolean _ => True
  | _ => False

/-- A whole number from one to the ceiling, if there is one. A truth value is no number. -/
def Value.IsLimit (ceiling : Option Int) : Value → Prop
  | .integer n => 1 ≤ n ∧ ∀ most ∈ ceiling, n ≤ most
  | _ => False

/-- The entries of a table of a document; none if it is absent. -/
def part (document : Table) (name : String) : Table :=
  match document.lookup name with
  | some (.table entries) => entries
  | _ => []

/-- The truth value of a key, or a standard one. -/
def booleanOr (table : Table) (key : String) (standard : Bool) : Bool :=
  match table.lookup key with
  | some (.boolean b) => b
  | _ => standard

/-- The whole number of a key, or a standard one. -/
def integerOr (table : Table) (key : String) (standard : Int) : Int :=
  match table.lookup key with
  | some (.integer n) => n
  | _ => standard

/-- What is required of a key says something only where it has a value. -/
theorem allows_of_lookup {table : Table} {key : String} {condition : Value → Prop}
    {found : Option Value} (h : table.lookup key = found) :
    Allows table key condition ↔ ∀ value ∈ found, condition value := by
  rw [Allows, h]
  rfl

end Toml

open Toml

variable {document table entries : Toml.Table} {name key : String}

theorem hasTable_iff :
    HasTable document name entries ↔
      Allows document name Value.IsTable ∧ entries = part document name := by
  cases hfound : document.lookup name with
  | none => simp [HasTable, part, allows_of_lookup hfound, hfound]
  | some found =>
      cases found <;> simp [HasTable, part, allows_of_lookup hfound, hfound, Value.IsTable, eq_comm]

theorem hasBoolean_iff {standard b : Bool} :
    HasBoolean table key standard b ↔
      Allows table key Value.IsBoolean ∧ b = booleanOr table key standard := by
  cases hfound : table.lookup key with
  | none => simp [HasBoolean, booleanOr, allows_of_lookup hfound, hfound]
  | some found =>
      cases found <;>
        simp [HasBoolean, booleanOr, allows_of_lookup hfound, hfound, Value.IsBoolean, eq_comm]

theorem hasPositive_iff {standard n : Int} {ceiling : Option Int} :
    HasPositive table key standard ceiling n ↔
      Allows table key (Value.IsLimit ceiling) ∧ n = integerOr table key standard := by
  cases hfound : table.lookup key with
  | none => simp [HasPositive, integerOr, allows_of_lookup hfound, hfound]
  | some found =>
      cases found with
      | integer m =>
          simp only [HasPositive, integerOr, allows_of_lookup hfound, hfound, Value.IsLimit,
            reduceCtorEq, false_and, false_or, Option.some.injEq, Value.integer.injEq,
            Option.mem_def, forall_eq']
          constructor
          · rintro ⟨rfl, hbounds⟩
            exact ⟨hbounds, rfl⟩
          · rintro ⟨hbounds, rfl⟩
            exact ⟨rfl, hbounds⟩
      | _ => simp [HasPositive, allows_of_lookup hfound, hfound, Value.IsLimit]

/-! ## Constants -/

/-- The whole numbers that have a double near them. -/
def IsInRange (n : Int) : Prop := n.natAbs < 2 ^ 1024 - 2 ^ 970

/-- A constant of a document that can be loaded: a number under a name that an expression can use.
A whole number must have a double near it, unless the constant has the name of a built-in one. -/
structure IsUsable (nameLimit : Int) (entry : String × Value) : Prop where
  isNumber : isNumber entry.2 = true
  isName : isName entry.1.toList = true
  length_le : (entry.1.length : Int) ≤ nameLimit
  isInRange : Registry.builtin.isRegistered entry.1 = false →
    ∀ n, entry.2 = .integer n → IsInRange n

theorem isSome_ofInt?_iff {n : Int} : (Double.ofInt? n).isSome = true ↔ IsInRange n := by
  rw [Option.isSome_iff_ne_none, Ne, Double.ofInt?_eq_none_iff, Nat.not_le]
  rfl

/-- A number is a double, or a whole number with a double near it. -/
theorem isSome_double?_iff {value : Value} (h : isNumber value = true) :
    (double? value).isSome = true ↔ ∀ n, value = .integer n → IsInRange n := by
  cases value with
  | integer m => simp [double?, isSome_ofInt?_iff]
  | float x => simp [double?]
  | _ => cases h

theorem isUsable_iff {nameLimit : Int} {entry : String × Value} :
    IsUsable nameLimit entry ↔ Intake.Admits nameLimit entry := by
  constructor
  · intro h
    exact ⟨h.isNumber, ⟨h.isName, h.length_le⟩, fun hnew =>
      (isSome_double?_iff h.isNumber).mpr (h.isInRange hnew)⟩
  · intro h
    exact ⟨h.isNumber, h.isName.1, h.isName.2, fun hnew =>
      (isSome_double?_iff h.isNumber).mp (h.isDouble hnew)⟩

/-! ## Documents -/

namespace Config

/-- The length to which a document has names cut. -/
def givenNameLimit (document : Toml.Table) : Int :=
  integerOr (part document "engine") "name_max_length" 31

/-- What is required of a document. All else in it may be anything. -/
structure IsValid (document : Toml.Table) : Prop where
  tables : ∀ name ∈ ["engine", "display", "constants"], Allows document name Value.IsTable
  conventionalPower : Allows (part document "engine") "conventional_power" Value.IsBoolean
  nestingLimit : Allows (part document "engine") "max_nesting_depth" (Value.IsLimit (some 150))
  depthLimit : Allows (part document "engine") "max_tree_depth" (Value.IsLimit (some 300))
  nameLimit : Allows (part document "engine") "name_max_length" (Value.IsLimit none)
  precision : Allows (part document "display") "precision" (Value.IsLimit none)
  constants : ∀ entry ∈ part document "constants", IsUsable (givenNameLimit document) entry

/-- What a document says. -/
def given (document : Toml.Table) : Config where
  settings :=
    { nestingLimit := integerOr (part document "engine") "max_nesting_depth" 100
      depthLimit := integerOr (part document "engine") "max_tree_depth" 300
      nameLimit := givenNameLimit document
      conventionalPower := booleanOr (part document "engine") "conventional_power" false }
  precision := integerOr (part document "display") "precision" 10
  constants := (part document "constants").filterMap newConstant?

/-- What is loaded from a document: what it says, and a warning for each constant that is left out,
in the order of the document. -/
def copied (document : Toml.Table) : Config × List LogEntry :=
  (given document, (part document "constants").filterMap warning?)

/-- The head of a document says what the document says, apart from the constants. -/
theorem head_eq_ok_iff_given {c : Config} {entries : Toml.Table} :
    head document = .ok ⟨c.settings, c.precision, entries⟩ ↔
      (∀ name ∈ ["engine", "display", "constants"], Allows document name Value.IsTable) ∧
        entries = part document "constants" ∧
        (Head.mk c.settings c.precision entries).IsIn (part document "engine")
          (part document "display") := by
  rw [head_eq_ok_iff]
  have htables : (∀ name ∈ ["engine", "display", "constants"],
      Allows document name Value.IsTable) ↔ Allows document "engine" Value.IsTable ∧
        Allows document "display" Value.IsTable ∧ Allows document "constants" Value.IsTable := by
    simp
  rw [htables]
  simp only [hasTable_iff]
  constructor
  · rintro ⟨_, _, ⟨hengine, rfl⟩, ⟨hdisplay, rfl⟩, ⟨hconstants, hentries⟩, hsays⟩
    exact ⟨⟨hengine, hdisplay, hconstants⟩, hentries, hsays⟩
  · rintro ⟨⟨hengine, hdisplay, hconstants⟩, hentries, hsays⟩
    exact ⟨_, _, ⟨hengine, rfl⟩, ⟨hdisplay, rfl⟩, ⟨hconstants, hentries⟩, hsays⟩

/-- A document is loaded exactly if it is valid, and then as it says. -/
theorem ofDocument_eq_ok_iff_isValid (host : Host) (document : Toml.Table)
    (loaded : Config × List LogEntry) :
    ofDocument host document = .ok loaded ↔ IsValid document ∧ loaded = copied document := by
  obtain ⟨c, warnings⟩ := loaded
  rw [ofDocument_eq_ok_iff]
  constructor
  · rintro ⟨entries, hhead, hadmits, hconstants, rfl⟩
    obtain ⟨htables, rfl, hsays⟩ := head_eq_ok_iff_given.mp hhead
    obtain ⟨hpower, hpowerEq⟩ := hasBoolean_iff.mp hsays.conventionalPower
    obtain ⟨hnesting, hnestingEq⟩ := hasPositive_iff.mp hsays.nestingLimit
    obtain ⟨hdepth, hdepthEq⟩ := hasPositive_iff.mp hsays.depthLimit
    obtain ⟨hname, hnameEq⟩ := hasPositive_iff.mp hsays.nameLimit
    obtain ⟨hprecision, hprecisionEq⟩ := hasPositive_iff.mp hsays.precision
    -- a key that is found or absent leaves one value only, so that all of it is determined
    have hgiven : c = given document := by
      obtain ⟨⟨nesting, depth, names, power⟩, precision, constants⟩ := c
      simp only [given, givenNameLimit, Config.mk.injEq, Settings.mk.injEq]
      exact ⟨⟨hnestingEq, hdepthEq, hnameEq, hpowerEq⟩, hprecisionEq, hconstants⟩
    refine ⟨⟨htables, hpower, hnesting, hdepth, hname, hprecision, fun entry hentry => ?_⟩, ?_⟩
    · have hlimit : c.settings.nameLimit = givenNameLimit document := hnameEq
      rw [← hlimit]
      exact isUsable_iff.mpr (hadmits entry hentry)
    · rw [hgiven]
      rfl
  · rintro ⟨hvalid, heq⟩
    obtain ⟨rfl, rfl⟩ := Prod.mk.inj heq
    refine ⟨part document "constants", head_eq_ok_iff_given.mpr ⟨hvalid.tables, rfl, ?_⟩,
      fun entry hentry => isUsable_iff.mp (hvalid.constants entry hentry), rfl, rfl⟩
    exact {
      conventionalPower := hasBoolean_iff.mpr ⟨hvalid.conventionalPower, rfl⟩
      nestingLimit := hasPositive_iff.mpr ⟨hvalid.nestingLimit, rfl⟩
      depthLimit := hasPositive_iff.mpr ⟨hvalid.depthLimit, rfl⟩
      nameLimit := hasPositive_iff.mpr ⟨hvalid.nameLimit, rfl⟩
      precision := hasPositive_iff.mpr ⟨hvalid.precision, rfl⟩ }

/-- The content of a file is the text of this document, and the host can read it. -/
def IsTextOf (host : Host) (content : Option ByteArray) (document : Toml.Table) : Prop :=
  ∃ text, content.bind String.fromUTF8? = some text ∧ Toml.read host text = .ok document

/-- The valid documents are exactly those that are loaded, and what is loaded from them is what they
say. A file is loaded exactly if it is the text of a valid document. -/
theorem loads_exactly_valid_documents (host : Host) :
    (∀ (document : Toml.Table) (loaded : Config × List LogEntry),
      ofDocument host document = .ok loaded ↔ IsValid document ∧ loaded = copied document) ∧
    ∀ (path : String) (content : Option ByteArray) (loaded : Config × List LogEntry),
      ofBytes? host path content = .ok loaded ↔
        ∃ document, IsTextOf host content document ∧ IsValid document ∧
          loaded = copied document := by
  refine ⟨ofDocument_eq_ok_iff_isValid host, fun path content loaded => ?_⟩
  rw [ofBytes?_eq_ok_iff]
  constructor
  · rintro ⟨text, document, htext, hread, hload⟩
    obtain ⟨hvalid, hcopied⟩ := (ofDocument_eq_ok_iff_isValid host document loaded).mp hload
    exact ⟨document, ⟨text, htext, hread⟩, hvalid, hcopied⟩
  · rintro ⟨document, ⟨text, htext, hread⟩, hvalid, hcopied⟩
    have hload := (ofDocument_eq_ok_iff_isValid host document loaded).mpr ⟨hvalid, hcopied⟩
    exact ⟨text, document, htext, hread, hload⟩

/-- Under a built-in name a number may be beyond the doubles, but no truth value is a number. -/
example :
    (ofDocument .standard [("constants", .table [("pi", .integer (10 ^ 400))])]).toOption.map
          Prod.snd = some [shadowWarning "pi"] ∧
      (ofDocument .standard
        [("constants", .table [("pi", .boolean true)])]).toOption.isNone = true := by
  decide +kernel

end Config

end Calculator
