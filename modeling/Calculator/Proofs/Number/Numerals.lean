import Mathlib.Data.List.TakeWhile
import Calculator.Token.Lexer

/-!
# Numerals

A numeral is made of digits and at most one point, and has a digit. Of the runs of digits and points
these are the ones that stand for a decimal (`Decimal.isSome_ofChars?_iff`), and the reader of
written doubles reads every such run as a token does (`readFloat?_eq`).
-/

set_option autoImplicit false

namespace Calculator

/-- Digits and at most one point, with at least one digit. -/
def IsNumeral (text : List Char) : Prop :=
  (∀ c ∈ text, c.isDigit = true ∨ c = '.') ∧ text.count '.' ≤ 1 ∧ ∃ c ∈ text, c.isDigit = true

theorem isNumeralChar_iff {c : Char} : isNumeralChar c = true ↔ c.isDigit = true ∨ c = '.' := by
  simp [isNumeralChar]

-- the quantifiers go over the text, not over all characters
instance (text : List Char) : Decidable (IsNumeral text) :=
  decidable_of_iff (text.all isNumeralChar = true ∧ text.count '.' ≤ 1 ∧
    text.any Char.isDigit = true) (by simp only [IsNumeral, List.all_eq_true, isNumeralChar_iff,
      List.any_eq_true])

theorem not_isDigit_point : Char.isDigit '.' = false := rfl

/-- There is no point among digits. -/
theorem count_point_of_digits {digits : List Char} (h : ∀ c ∈ digits, c.isDigit = true) :
    digits.count '.' = 0 := by
  refine List.count_eq_zero.mpr fun hmem => ?_
  have hdigit := h '.' hmem
  rw [not_isDigit_point] at hdigit
  cases hdigit

variable {text whole fraction : List Char}

/-- Digits alone are a numeral, if there are any. -/
theorem isNumeral_digits_iff (hwhole : ∀ c ∈ whole, c.isDigit = true) :
    IsNumeral whole ↔ whole ≠ [] := by
  constructor
  · rintro ⟨-, -, c, hc, -⟩
    exact List.ne_nil_of_mem hc
  · intro hne
    obtain ⟨c, hc⟩ := List.exists_mem_of_ne_nil whole hne
    refine ⟨fun c' hc' => Or.inl (hwhole c' hc'), ?_, c, hc, hwhole c hc⟩
    rw [count_point_of_digits hwhole]
    omega

/-- Behind a point there must be digits only, and a digit must stand before or behind it. -/
theorem isNumeral_point_iff (hwhole : ∀ c ∈ whole, c.isDigit = true) :
    IsNumeral (whole ++ '.' :: fraction) ↔
      (∀ c ∈ fraction, c.isDigit = true) ∧ whole ++ fraction ≠ [] := by
  have hcount : (whole ++ '.' :: fraction).count '.' = fraction.count '.' + 1 := by
    rw [List.count_append, count_point_of_digits hwhole, List.count_cons_self, Nat.zero_add]
  constructor
  · rintro ⟨hchars, hpoints, c, hc, hdigit⟩
    refine ⟨fun c' hc' => ?_, ?_⟩
    · -- a second point would be one too many
      refine (hchars c' (by simp [hc'])).resolve_right ?_
      rintro rfl
      have hpos := List.count_pos_iff.mpr hc'
      omega
    · intro hnil
      obtain ⟨rfl, rfl⟩ := List.append_eq_nil_iff.mp hnil
      rw [List.nil_append, List.mem_singleton] at hc
      rw [hc, not_isDigit_point] at hdigit
      cases hdigit
  · rintro ⟨hfraction, hne⟩
    obtain ⟨c, hc⟩ := List.exists_mem_of_ne_nil _ hne
    have hdigits : ∀ c ∈ whole ++ fraction, c.isDigit = true :=
      List.forall_mem_append.mpr ⟨hwhole, hfraction⟩
    refine ⟨?_, by rw [hcount, count_point_of_digits hfraction], c, ?_, hdigits c hc⟩
    · intro c' hc'
      rcases List.mem_append.mp hc' with hc' | hc'
      · exact Or.inl (hwhole c' hc')
      · rcases List.mem_cons.mp hc' with rfl | hc'
        · exact Or.inr rfl
        · exact Or.inl (hfraction c' hc')
    · rcases List.mem_append.mp hc with hc | hc
      · exact List.mem_append_left _ hc
      · exact List.mem_append_right _ (List.mem_cons_of_mem _ hc)

/-- In a run of digits and points there is no point, or a first one. -/
theorem exists_first_point (h : ∀ c ∈ text, isNumeralChar c = true) :
    (∀ c ∈ text, c.isDigit = true) ∨
      ∃ whole fraction, text = whole ++ '.' :: fraction ∧ ∀ c ∈ whole, c.isDigit = true := by
  have hsplit : text.takeWhile Char.isDigit ++ text.dropWhile Char.isDigit = text :=
    List.takeWhile_append_dropWhile
  have hwhole : ∀ c ∈ text.takeWhile Char.isDigit, c.isDigit = true :=
    fun c hc => List.mem_takeWhile_imp hc
  cases hrest : text.dropWhile Char.isDigit with
  | nil => exact Or.inl (List.dropWhile_eq_nil_iff.mp hrest)
  | cons c fraction =>
      rw [hrest] at hsplit
      have hc : c.isDigit = false := by
        have hhead := List.head?_dropWhile_not Char.isDigit text
        rw [hrest] at hhead
        simpa using hhead
      have hmem : c ∈ text := by
        rw [← hsplit]
        simp
      obtain rfl : c = '.' := by
        rcases isNumeralChar_iff.mp (h c hmem) with hdigit | hpoint
        · rw [hc] at hdigit
          cases hdigit
        · exact hpoint
      exact Or.inr ⟨_, fraction, hsplit.symm, hwhole⟩

/-! ## Decimals of numerals -/

namespace Decimal

theorem ofChars?_digits (hwhole : ∀ c ∈ whole, c.isDigit = true) (hne : whole ≠ []) :
    ofChars? whole = some ⟨Nat.ofDigitChars 10 whole 0, 0⟩ := by
  have htake : whole.takeWhile Char.isDigit = whole := List.takeWhile_eq_self_iff.mpr hwhole
  have hdrop : whole.dropWhile Char.isDigit = [] := List.dropWhile_eq_nil_iff.mpr hwhole
  have hempty : whole.isEmpty = false := List.isEmpty_eq_false_iff.mpr hne
  simp only [ofChars?, htake, hdrop, hempty]
  rfl

theorem takeWhile_point (hwhole : ∀ c ∈ whole, c.isDigit = true) (fraction : List Char) :
    (whole ++ '.' :: fraction).takeWhile Char.isDigit = whole := by
  rw [List.takeWhile_append_of_pos hwhole,
    List.takeWhile_cons_of_neg (by simp [not_isDigit_point]), List.append_nil]

theorem dropWhile_point (hwhole : ∀ c ∈ whole, c.isDigit = true) (fraction : List Char) :
    (whole ++ '.' :: fraction).dropWhile Char.isDigit = '.' :: fraction := by
  rw [List.dropWhile_append_of_pos hwhole,
    List.dropWhile_cons_of_neg (by simp [not_isDigit_point])]

/-- Digits with a point among them are a numeral. -/
theorem ofChars?_point (hwhole : ∀ c ∈ whole, c.isDigit = true)
    (hfraction : ∀ c ∈ fraction, c.isDigit = true) (hne : whole ++ fraction ≠ []) :
    ofChars? (whole ++ '.' :: fraction) =
      some ⟨Nat.ofDigitChars 10 (whole ++ fraction) 0, -(fraction.length : Int)⟩ := by
  have hall : fraction.all Char.isDigit = true := List.all_eq_true.mpr hfraction
  have hempty : (whole.isEmpty && fraction.isEmpty) = false := by simpa using hne
  simp only [ofChars?, takeWhile_point hwhole, dropWhile_point hwhole, hall, hempty]
  rfl

theorem isSome_ofChars?_point_iff (hwhole : ∀ c ∈ whole, c.isDigit = true) :
    (ofChars? (whole ++ '.' :: fraction)).isSome = true ↔
      (∀ c ∈ fraction, c.isDigit = true) ∧ whole ++ fraction ≠ [] := by
  simp only [ofChars?, takeWhile_point hwhole, dropWhile_point hwhole, Option.isSome_ite]
  simp [or_iff_not_imp_left]

/-- Of the runs of digits and points, the numerals are those that stand for a decimal. -/
theorem isSome_ofChars?_iff (h : ∀ c ∈ text, isNumeralChar c = true) :
    (ofChars? text).isSome = true ↔ IsNumeral text := by
  rcases exists_first_point h with hdigits | ⟨whole, fraction, rfl, hwhole⟩
  · rw [isNumeral_digits_iff hdigits]
    by_cases hnil : text = []
    · subst hnil
      simp [ofChars?]
    · simp [ofChars?_digits hdigits hnil, hnil]
  · rw [isNumeral_point_iff hwhole, isSome_ofChars?_point_iff hwhole]

end Decimal

/-! ## Written doubles -/

/-- A run of digits and points begins with no sign. -/
theorem splitSign_eq (h : ∀ c ∈ text, isNumeralChar c = true) : splitSign text = (false, text) := by
  unfold splitSign
  split
  · have hminus := h '-' (by simp)
    cases hminus
  · have hplus := h '+' (by simp)
    cases hplus
  · rfl

/-- Among digits and points there is no letter. -/
theorem ne_of_numeralChars (h : ∀ c ∈ text, isNumeralChar c = true) {word : List Char}
    (hletter : ∃ c ∈ word, isNumeralChar c = false) : text ≠ word := by
  rintro rfl
  obtain ⟨c, hc, hfalse⟩ := hletter
  rw [h c hc] at hfalse
  cases hfalse

/-- Digits and points are not the letter in front of a power of ten. -/
theorem not_isMark (h : ∀ c ∈ text, isNumeralChar c = true) :
    ∀ c ∈ text, (!(decide (c = 'e') || decide (c = 'E'))) = true := by
  intro c hc
  have hsmall : c ≠ 'e' := by
    rintro rfl
    cases h 'e' hc
  have hlarge : c ≠ 'E' := by
    rintro rfl
    cases h 'E' hc
  simp [hsmall, hlarge]

/-- Without a power of ten there is only the numeral. -/
theorem readScientific?_eq (h : ∀ c ∈ text, isNumeralChar c = true) :
    readScientific? text = Decimal.ofChars? text := by
  have hmark := not_isMark h
  simp only [readScientific?, List.takeWhile_eq_self_iff.mpr hmark,
    List.dropWhile_eq_nil_iff.mpr hmark]

/-- A run of digits and points is read as a double through its decimal. -/
theorem readFloat?_eq (h : ∀ c ∈ text, isNumeralChar c = true) :
    readFloat? text = (Decimal.ofChars? text).map (Decimal.toFloat false) := by
  have hinf : text ≠ "inf".toList := ne_of_numeralChars h ⟨'n', by decide, rfl⟩
  have hnan : text ≠ "nan".toList := ne_of_numeralChars h ⟨'n', by decide, rfl⟩
  simp only [readFloat?, splitSign_eq h, if_neg hinf, if_neg hnan, readScientific?_eq h]

end Calculator
