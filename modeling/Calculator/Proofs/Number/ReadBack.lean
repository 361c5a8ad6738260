import Calculator.Proofs.Number.Written

/-!
# Reading undoes writing

Every finite double is read back from its text, with or without a power of ten
(`readFloat?_floatChars`). So two finite doubles with one text are the same (`floatChars_inj`).
-/

set_option autoImplicit false

namespace Calculator

/-! ## Exponents -/

theorem splitSign_cons_of_isDigit {c : Char} (hc : c.isDigit = true) (rest : List Char) :
    splitSign (c :: rest) = (false, c :: rest) := by
  unfold splitSign
  split
  · next heq =>
      cases heq
      cases hc
  · next heq =>
      cases heq
      cases hc
  · rfl

/-- An exponent is read back. -/
theorem Layout.readInt?_power (exponent : Int) : readInt? (power exponent) = some exponent := by
  obtain ⟨k, hk⟩ : ∃ k, 2 - (Nat.toDigits 10 exponent.natAbs).length = k := ⟨_, rfl⟩
  obtain ⟨digits, hdigits⟩ :
      ∃ digits, List.replicate k '0' ++ Nat.toDigits 10 exponent.natAbs = digits := ⟨_, rfl⟩
  have hsplit : splitSign (power exponent) = (decide (exponent < 0), digits) := by
    rw [power, hk, ← hdigits]
    by_cases hneg : exponent < 0
    · simp [hneg, splitSign]
    · simp [hneg, splitSign]
  have hall : digits.all Char.isDigit = true := by
    rw [← hdigits, List.all_eq_true]
    intro c hc
    rcases List.mem_append.mp hc with hzero | hdigit
    · exact isDigit_of_mem_zeros hzero
    · exact Nat.isDigit_of_mem_toDigits (by decide) (by decide) hdigit
  have hempty : digits.isEmpty = false := by
    have hpos : 0 < (Nat.toDigits 10 exponent.natAbs).length := Nat.length_toDigits_pos
    rw [List.isEmpty_eq_false_iff, ← hdigits]
    refine List.ne_nil_of_length_pos ?_
    rw [List.length_append]
    omega
  have hvalue : Nat.ofDigitChars 10 digits 0 = exponent.natAbs := by
    rw [← hdigits, ofDigitChars_zeros_append, Nat.ofDigitChars_ten_toDigits]
  simp only [readInt?, hsplit, hall, hempty, hvalue]
  by_cases hneg : exponent < 0
  · simp only [hneg, decide_true]
    have habs : -(exponent.natAbs : Int) = exponent := by omega
    simpa using habs
  · simp only [hneg, decide_false]
    have habs : (exponent.natAbs : Int) = exponent := by omega
    simpa using habs

/-! ## Decimals -/

/-- A numeral with a power of ten behind it is shifted by that power. -/
theorem readScientific?_power {numeral power : List Char} {d : Decimal} {shift : Int}
    (h : ∀ c ∈ numeral, isNumeralChar c = true) (hd : Decimal.ofChars? numeral = some d)
    (hshift : readInt? power = some shift) :
    readScientific? (numeral ++ 'e' :: power) = some { d with exponent := d.exponent + shift } := by
  have hmark := not_isMark h
  have htake : (numeral ++ 'e' :: power).takeWhile
      (fun c => !(decide (c = 'e') || decide (c = 'E'))) = numeral := by
    rw [List.takeWhile_append_of_pos hmark, List.takeWhile_cons_of_neg (by simp),
      List.append_nil]
  have hdrop : (numeral ++ 'e' :: power).dropWhile
      (fun c => !(decide (c = 'e') || decide (c = 'E'))) = 'e' :: power := by
    rw [List.dropWhile_append_of_pos hmark, List.dropWhile_cons_of_neg (by simp)]
  simp only [readScientific?, htake, hdrop, hd, hshift]
  rfl

namespace Layout

/-- A decimal in full is read back with its value. -/
theorem readScientific?_writeDecimal (d : Decimal) :
    ∃ d', readScientific? (value.writeDecimal d) = some d' ∧ d'.value = d.value := by
  have hdigits : ∀ c ∈ significantDigits d, c.isDigit = true :=
    fun c hc => isDigit_of_mem_significantDigits hc
  have hvalue := value_eq_significantDigits d
  obtain ⟨exponent, hexponent⟩ : ∃ exponent, firstExponent d = exponent := ⟨_, rfl⟩
  rw [hexponent] at hvalue
  rw [writeDecimal, write, hexponent]
  split
  · obtain ⟨whole, fraction, htext, hwhole, hfraction, hne, hpoint⟩ :=
      isPointNumeral_positional hdigits exponent
    refine ⟨_, ?_, hpoint.trans hvalue.symm⟩
    rw [htext, readScientific?_eq (isNumeralChar_point hwhole hfraction),
      Decimal.ofChars?_point hwhole hfraction (by simp [hne])]
  · obtain ⟨numeral, htext, -, hnumeral, hdecimal⟩ :=
      scientific_eq hdigits (significantDigits_ne_nil d) exponent
    have hread := readScientific?_power hnumeral hdecimal (readInt?_power exponent)
    refine ⟨_, by rw [htext]; exact hread, ?_⟩
    rw [hvalue, Decimal.value]
    congr 2
    show 1 - ((significantDigits d).length : Int) + exponent = _
    omega

/-- The text of a decimal begins with a digit, in either form. -/
theorem exists_digit_writeDecimal (d : Decimal) :
    ∃ c rest, value.writeDecimal d = c :: rest ∧ c.isDigit = true := by
  have hdigits : ∀ c ∈ significantDigits d, c.isDigit = true :=
    fun c hc => isDigit_of_mem_significantDigits hc
  rw [writeDecimal, write]
  split
  · obtain ⟨whole, fraction, htext, hwhole, -, hne, -⟩ :=
      isPointNumeral_positional hdigits (firstExponent d)
    obtain ⟨c, rest, rfl⟩ := List.exists_cons_of_ne_nil hne
    exact ⟨c, rest ++ '.' :: fraction, htext, hwhole c (by simp)⟩
  · obtain ⟨c, rest, hcons⟩ := List.exists_cons_of_ne_nil (significantDigits_ne_nil d)
    have hc : c.isDigit = true := hdigits c (by simp [hcons])
    rw [hcons]
    exact ⟨c, _, rfl, hc⟩

end Layout

/-! ## Doubles -/

/-- The text of a finite double: its sign, if it has one, and a digit. -/
theorem floatChars_of_ofFloat {v : Float} {negative : Bool} {bits : Nat}
    (hv : Double.ofFloat v = .finite negative bits) :
    floatChars v = Layout.signed negative (Layout.value.writeDecimal (shortest bits)) := by
  rw [floatChars, Layout.writeFloat, hv]

/-- The text of a double is its sign and the text of its magnitude. -/
theorem floatChars_eq_signed {v : Float} {negative : Bool} {bits : Nat}
    (hv : Double.ofFloat v = .finite negative bits) :
    floatChars v = Layout.signed negative (floatChars (Double.withSign false bits)) := by
  obtain ⟨hbits, -⟩ := Double.toBits_of_ofFloat hv
  rw [floatChars_of_ofFloat hv, floatChars_of_ofFloat (Double.ofFloat_withSign false hbits)]
  rfl

/-- Every finite double is read back from its text. -/
theorem readFloat?_floatChars {v : Float} {negative : Bool} {bits : Nat}
    (hv : Double.ofFloat v = .finite negative bits) : readFloat? (floatChars v) = some v := by
  obtain ⟨hbits, -⟩ := Double.toBits_of_ofFloat hv
  obtain ⟨d, hread, hvalue⟩ := Layout.readScientific?_writeDecimal (shortest bits)
  obtain ⟨c, rest, htext, hc⟩ := Layout.exists_digit_writeDecimal (shortest bits)
  have hpattern : d.bits = bits :=
    (Decimal.bits_congr hvalue).trans (bits_shortest_of_le hbits.le)
  have hsplit : splitSign (floatChars v) = (negative, c :: rest) := by
    rw [floatChars_of_ofFloat hv, htext]
    cases negative with
    | false => exact splitSign_cons_of_isDigit hc rest
    | true => rfl
  -- a text that begins with a digit is neither of the two words
  have hword : ∀ word : List Char, (word.head?.all fun c => !c.isDigit) = true →
      c :: rest ≠ word := by
    rintro word hword rfl
    simp [hc] at hword
  have hinf : c :: rest ≠ "inf".toList := hword _ (by decide)
  have hnan : c :: rest ≠ "nan".toList := hword _ (by decide)
  rw [htext] at hread
  simp only [readFloat?, hsplit, if_neg hinf, if_neg hnan, hread, Option.map_some,
    Decimal.toFloat, hpattern, Double.withSign_of_ofFloat hv]

/-- Finite doubles with one text are the same. -/
theorem floatChars_inj {v w : Float} {negative negative' : Bool} {bits bits' : Nat}
    (hv : Double.ofFloat v = .finite negative bits)
    (hw : Double.ofFloat w = .finite negative' bits') (h : floatChars v = floatChars w) :
    v = w := by
  have hboth : some v = some w :=
    calc some v = readFloat? (floatChars v) := (readFloat?_floatChars hv).symm
      _ = readFloat? (floatChars w) := by rw [h]
      _ = some w := readFloat?_floatChars hw
  exact Option.some.inj hboth

/-- The text of a finite double without a sign begins with a digit. -/
theorem exists_digit_floatChars {v : Float} {bits : Nat}
    (hv : Double.ofFloat v = .finite false bits) :
    ∃ c rest, floatChars v = c :: rest ∧ c.isDigit = true := by
  rw [floatChars_of_ofFloat hv]
  exact Layout.exists_digit_writeDecimal (shortest bits)

end Calculator
