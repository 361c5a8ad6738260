import Mathlib
import Calculator.Proofs.Config.Loading
import Calculator.Proofs.Number.WholeNumbers
import Calculator.Proofs.Toml.Shown

/-!
# How loading fails

A file that cannot be loaded has an error that is told to the user, with exceptions: whole numbers
have no bound in a document, but have one wherever they are converted, and values can stand inside
each other deeper than the stack reaches. A constant beyond the largest double, a numeral or a value
that cannot be read, and an error whose wording shows a value that cannot be shown make loading fail
in another way. `Config.Escapes` says exactly when (`Config.isReported_iff`).
-/

set_option autoImplicit false

namespace Calculator

variable {host : Host}

/-! ## Errors that can be told -/

/-- An error that can be told: a value that it shows can be shown, and a number that it names has
not too many digits. -/
def ConfigError.IsTellable (host : Host) : ConfigError → Prop
  | .notATable _ => True
  | .notABoolean _ found => found.FitsOn (host.shownLevels + 1)
  | .notAPositiveInteger _ found => found.FitsOn host.shownLevels
  | .aboveCeiling _ ceiling found => isTooLong ceiling = false ∧ isTooLong found = false
  | .notANumber _ found => found.FitsOn host.shownLevels
  | .badName _ limit => isTooLong limit = false

theorem ConfigError.isTellable_iff {cause : ConfigError} :
    cause.IsTellable host ↔ ∃ message, cause.message host = .ok message := by
  have hshown : ∀ {found : Toml.Value} {levels : Nat} {f : String → String},
      found.FitsOn levels ↔
        ∃ message, (found.describe levels >>= fun text => pure (f text)) = .ok message := by
    intro found levels f
    rw [Toml.Value.fitsOn_iff, exists_bind_pure_iff]
  cases cause with
  | notATable table => exact iff_of_true trivial ⟨_, rfl⟩
  | notABoolean key found => exact hshown
  | notAPositiveInteger key found => exact hshown
  | notANumber name found => exact hshown
  | aboveCeiling key ceiling found =>
      rw [IsTellable, ← exists_writeInt_iff, ← exists_writeInt_iff]
      exact exists_bind_pair_iff.symm
  | badName name limit =>
      rw [IsTellable, ← exists_writeInt_iff]
      exact exists_bind_pure_iff.symm

theorem LoadFailure.exists_ofError_iff {cause : ConfigError} :
    (∃ message, ofError host cause = .error message) ↔ cause.IsTellable host := by
  rw [ConfigError.isTellable_iff, ofError]
  cases cause.message host <;> simp

namespace Config

/-! ## Files whose errors are told -/

/-- How loading a text fails without an error that is told of the file. -/
inductive Escapes (host : Host) (text : String) : Prop
  /-- A numeral has more digits than can be read. -/
  | unreadable {digits : Nat} :
      Toml.read host text = .error (.numeralTooLong digits) → Escapes host text
  /-- Values stand deeper inside each other than the stack reaches while they are read. -/
  | tooNested : Toml.read host text = .error .tooNested → Escapes host text
  /-- The first error of the document cannot be told. -/
  | untold {document : Toml.Table} {cause : ConfigError} :
      Toml.read host text = .ok document → Blames document cause → ¬ cause.IsTellable host →
      Escapes host text
  /-- The first constant that is not admitted is a new one, with a number beyond the largest
  double. -/
  | tooLarge {document before rest : Toml.Table} {h : Head} {name : String} {n : Int} :
      Toml.read host text = .ok document → head document = .ok h →
      h.constants = before ++ (name, .integer n) :: rest →
      (∀ earlier ∈ before, Intake.Admits h.settings.nameLimit earlier) →
      IsConstantName h.settings.nameLimit name → Registry.builtin.isRegistered name = false →
      2 ^ 1024 - 2 ^ 970 ≤ n.natAbs → Escapes host text

/-- Loading gives a configuration, or an error that is told of the file. -/
def IsReported (result : Except LoadFailure (Config × List LogEntry)) : Prop :=
  (∃ loaded, result = .ok loaded) ∨ ∃ message, result = .error (.error message)

theorem isReported_error_iff {failure : LoadFailure} :
    IsReported (.error failure) ↔ ∃ message, failure = .error message := by
  simp [IsReported]

theorem not_isReported_raised (fault : Fault) : ¬ IsReported (.error (.raised fault)) := by
  simp [IsReported]

theorem isReported_ofDocument_iff {document : Toml.Table} :
    IsReported (ofDocument host document) ↔
      (∀ cause, Blames document cause → cause.IsTellable host) ∧ ¬ HoldsTooLarge document := by
  constructor
  · refine fun hreported => ⟨fun cause hblames => ?_, fun hholds => ?_⟩
    · have hfails : ofDocument host document = .error (.ofError host cause) :=
        ofDocument_eq_error_iff.mpr (.inl ⟨cause, hblames, rfl⟩)
      rw [hfails, isReported_error_iff] at hreported
      exact LoadFailure.exists_ofError_iff.mp hreported
    · have hfails : ofDocument host document = .error (.raised .integerTooLarge) :=
        ofDocument_eq_error_iff.mpr (.inr ⟨hholds, rfl⟩)
      rw [hfails] at hreported
      exact not_isReported_raised _ hreported
  · rintro ⟨htold, hnone⟩
    cases hload : ofDocument host document with
    | ok loaded => exact .inl ⟨loaded, rfl⟩
    | error failure =>
        rw [isReported_error_iff]
        rcases ofDocument_eq_error_iff.mp hload with ⟨cause, hblames, rfl⟩ | ⟨hholds, rfl⟩
        · exact LoadFailure.exists_ofError_iff.mpr (htold cause hblames)
        · exact absurd hholds hnone

/-- A text fails so exactly if a number in it cannot be read or has no double near it, or a value in
it cannot be read or cannot be shown where it has to be. -/
theorem isReported_ofText_iff {path text : String} :
    IsReported (ofText host path text) ↔ ¬ Escapes host text := by
  cases hread : Toml.read host text with
  | error e =>
      rw [ofText, hread]
      cases e with
      | malformed =>
          refine iff_of_true (.inr ⟨_, rfl⟩) fun hescapes => ?_
          cases hescapes with
          | unreadable h | tooNested h | untold h | tooLarge h => cases hread.symm.trans h
      | numeralTooLong digits =>
          exact iff_of_false (not_isReported_raised _) fun h => h (.unreadable hread)
      | tooNested =>
          exact iff_of_false (not_isReported_raised _) fun h => h (.tooNested hread)
  | ok document =>
      have hload : ofText host path text = ofDocument host document := by rw [ofText, hread]
      rw [hload, isReported_ofDocument_iff]
      constructor
      · rintro ⟨htold, hnone⟩ hescapes
        cases hescapes with
        | unreadable h => cases hread.symm.trans h
        | tooNested h => cases hread.symm.trans h
        | untold h hblames htellable =>
            cases hread.symm.trans h
            exact htellable (htold _ hblames)
        | tooLarge h hhead heq hbefore hname hnew hlarge =>
            cases hread.symm.trans h
            exact hnone ⟨_, _, _, _, _, hhead, heq, hbefore, hname, hnew,
              (Double.ofInt?_eq_none_iff _).mpr hlarge⟩
      · refine fun hnone => ⟨fun cause hblames => ?_, fun hholds => ?_⟩
        · exact Classical.not_not.mp fun htold => hnone (.untold hread hblames htold)
        · obtain ⟨found, before, name, n, rest, hhead, heq, hbefore, hlarge⟩ := hholds
          exact hnone (.tooLarge hread hhead heq hbefore hlarge.isName hlarge.isNew
            ((Double.ofInt?_eq_none_iff n).mp hlarge.noDouble))

/-- A file is loaded or has an error that is told, unless something in it escapes. -/
theorem isReported_iff (host : Host) (path : String) (content : Option ByteArray) :
    IsReported (ofBytes? host path content) ↔
      ¬ ∃ text, content.bind String.fromUTF8? = some text ∧ Escapes host text := by
  cases htext : content.bind String.fromUTF8? with
  | none =>
      obtain ⟨message, hmessage⟩ : ∃ message,
          ofBytes? host path content = .error (.error message) := ofBytes?_of_none htext
      rw [hmessage]
      exact iff_of_true (.inr ⟨message, rfl⟩) (by simp)
  | some text =>
      rw [ofBytes?_of_text htext, isReported_ofText_iff]
      simp

/-- Whether a fault is raised. -/
def isRaised : Except LoadFailure (Config × List LogEntry) → Bool
  | .error (.raised _) => true
  | _ => false

/-- A document with a constant of one and 309 zeros. -/
def largeConstant : List Char := "[constants]\nbig = 1".toList ++ List.replicate 309 '0'

/-- Such a constant is beyond the largest double, and no error tells so. -/
theorem unreported_large_constant :
    ¬ IsReported
      (ofBytes? .standard "scicalc.toml" (some (String.ofList largeConstant).toUTF8)) := by
  have hraised :
      isRaised (ofText .standard "scicalc.toml" (String.ofList largeConstant)) = true := by
    rw [ofText, Toml.read, String.toList_ofList]
    decide +kernel
  rw [ofBytes?_toUTF8]
  cases hload : ofText .standard "scicalc.toml" (String.ofList largeConstant) with
  | ok loaded =>
      rw [hload] at hraised
      cases hraised
  | error failure =>
      rw [hload] at hraised
      cases failure with
      | error message => cases hraised
      | raised fault => exact not_isReported_raised fault

end Config

end Calculator
