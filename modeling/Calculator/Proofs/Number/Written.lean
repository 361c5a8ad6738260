import Calculator.Proofs.Number.Exponents
import Calculator.Proofs.Number.Numerals
import Calculator.Proofs.Number.Patterns

/-!
# Written doubles are read back

A decimal that is written positionally has one point, and reading it as a numeral gives its value
(`Layout.isPointNumeral_positional`, `Decimal.ofChars?_point`). So a finite double without a sign
that is written positionally is one numeral, which stands for that double (`ofNumeral_floatChars`);
any other finite double without a sign is written as a numeral and the letter `e` after it
(`floatChars_of_not_isPlain`).
-/

set_option autoImplicit false

namespace Calculator

/-! ## Digits -/

/-- A run of one character at the end of a list. -/
theorem exists_replicate_at_end {α : Type} [DecidableEq α] (l : List α) (c : α) :
    ∃ k, l = (l.reverse.dropWhile (· = c)).reverse ++ List.replicate k c := by
  obtain ⟨k, hk⟩ : ∃ k, l.reverse.takeWhile (· = c) = List.replicate k c :=
    ⟨_, List.eq_replicate_of_mem fun b hb => by
      simpa using List.all_eq_true.mp List.all_takeWhile b hb⟩
  have hsplit : l.reverse.takeWhile (· = c) ++ l.reverse.dropWhile (· = c) = l.reverse :=
    List.takeWhile_append_dropWhile
  refine ⟨k, ?_⟩
  calc l = l.reverse.reverse := l.reverse_reverse.symm
    _ = (l.reverse.dropWhile (· = c)).reverse ++ (l.reverse.takeWhile (· = c)).reverse := by
        rw [← List.reverse_append, hsplit]
    _ = _ := by rw [hk, List.reverse_replicate]

theorem ofDigitChars_append_zeros (digits : List Char) (k : Nat) :
    Nat.ofDigitChars 10 (digits ++ List.replicate k '0') 0 =
      Nat.ofDigitChars 10 digits 0 * 10 ^ k := by
  rw [Nat.ofDigitChars_append, Nat.ofDigitChars_replicate_zero, Nat.mul_comm]

theorem ofDigitChars_zeros_append (k : Nat) (digits : List Char) :
    Nat.ofDigitChars 10 (List.replicate k '0' ++ digits) 0 = Nat.ofDigitChars 10 digits 0 := by
  rw [Nat.ofDigitChars_append, Nat.ofDigitChars_replicate_zero, Nat.mul_zero]

namespace Layout

theorem isDigit_of_mem_significantDigits {d : Decimal} {c : Char}
    (hc : c ∈ significantDigits d) : c.isDigit = true := by
  unfold significantDigits at hc
  dsimp only at hc
  split at hc
  · rw [List.mem_singleton.mp hc]
    rfl
  · have hmem := (List.dropWhile_sublist _).subset (List.mem_reverse.mp hc)
    exact Nat.isDigit_of_mem_toDigits (by decide) (by decide) (List.mem_reverse.mp hmem)

theorem significantDigits_ne_nil (d : Decimal) : significantDigits d ≠ [] := by
  unfold significantDigits
  dsimp only
  split
  · simp
  · next h => exact fun hnil => h (by rw [hnil]; rfl)

/-- The digits of a decimal that is not zero are its significant digits and zeros after them. -/
theorem toDigits_eq {d : Decimal} (hd : d.coefficient ≠ 0) :
    ∃ k, Nat.toDigits 10 d.coefficient = significantDigits d ++ List.replicate k '0' := by
  obtain ⟨k, hk⟩ := exists_replicate_at_end (Nat.toDigits 10 d.coefficient) '0'
  refine ⟨k, ?_⟩
  unfold significantDigits
  dsimp only
  split
  · next hempty =>
      rw [List.isEmpty_iff.mp hempty, List.nil_append] at hk
      have hzero : d.coefficient = 0 := by
        rw [← Nat.ofDigitChars_ten_toDigits (n := d.coefficient), hk,
          Nat.ofDigitChars_replicate_zero, Nat.mul_zero]
      exact absurd hzero hd
  · exact hk

/-- The value of a decimal from its significant digits and the exponent of the first. -/
theorem value_eq_significantDigits (d : Decimal) :
    d.value = Nat.ofDigitChars 10 (significantDigits d) 0 *
      10 ^ (firstExponent d + 1 - (significantDigits d).length) := by
  by_cases hd : d.coefficient = 0
  · have hdigits : significantDigits d = ['0'] := by
      rw [significantDigits, hd, Nat.toDigits_zero]
      rfl
    have hzero : Nat.ofDigitChars 10 ['0'] 0 = 0 := rfl
    rw [Decimal.value, hdigits, hd, hzero, Nat.cast_zero, zero_mul, zero_mul]
  · obtain ⟨k, hk⟩ := toDigits_eq hd
    have hcount : digitCount d.coefficient = (significantDigits d).length + k := by
      rw [digitCount, hk, List.length_append, List.length_replicate]
    have hcoefficient : d.coefficient = Nat.ofDigitChars 10 (significantDigits d) 0 * 10 ^ k := by
      rw [← ofDigitChars_append_zeros, ← hk, Nat.ofDigitChars_ten_toDigits]
    have hexponent : firstExponent d + 1 - (significantDigits d).length = k + d.exponent := by
      rw [firstExponent, if_neg hd, hcount]
      omega
    rw [hexponent, zpow_add₀ (by norm_num), zpow_natCast, ← mul_assoc, Decimal.value]
    congr 1
    exact_mod_cast hcoefficient

end Layout

/-! ## Positional numerals -/

/-- The text is digits with a point among them, and stands for the value. -/
def IsPointNumeral (text : List Char) (value : ℚ) : Prop :=
  ∃ whole fraction, text = whole ++ '.' :: fraction ∧ (∀ c ∈ whole, c.isDigit = true) ∧
    (∀ c ∈ fraction, c.isDigit = true) ∧ whole ≠ [] ∧
    Decimal.value ⟨Nat.ofDigitChars 10 (whole ++ fraction) 0, -(fraction.length : Int)⟩ = value

namespace Layout

theorem isDigit_of_mem_zeros {k : Nat} {c : Char} (hc : c ∈ List.replicate k '0') :
    c.isDigit = true := by
  rw [List.eq_of_mem_replicate hc]
  rfl

variable {digits : List Char}

/-- If the digits end in front of the point, zeros stand between them and after it. -/
theorem positional_of_le (hdigits : ∀ c ∈ digits, c.isDigit = true) {e : Nat}
    (hlength : digits.length ≤ e + 1) :
    IsPointNumeral (value.positional digits e)
      (Nat.ofDigitChars 10 digits 0 * 10 ^ ((e : Int) + 1 - digits.length)) := by
  obtain ⟨k, hk⟩ : ∃ k, e + 1 - digits.length = k := ⟨_, rfl⟩
  have hfill : (digits ++ List.replicate k '0').length = e + 1 := by
    rw [List.length_append, List.length_replicate]
    omega
  have hexponent : (e : Int) + 1 - digits.length = (k : Nat) := by omega
  refine ⟨digits ++ List.replicate k '0', List.replicate 1 '0', ?_, ?_,
    fun c => isDigit_of_mem_zeros, List.ne_nil_of_length_pos (by omega), ?_⟩
  · rw [← Int.ofNat_eq_natCast, positional, List.take_of_length_le hlength,
      List.drop_of_length_le hlength, hk]
    rfl
  · intro c hc
    exact (List.mem_append.mp hc).elim (hdigits c) isDigit_of_mem_zeros
  · rw [hexponent, ofDigitChars_append_zeros, ofDigitChars_append_zeros, Decimal.value,
      List.length_replicate, zpow_neg, zpow_natCast, zpow_natCast]
    push_cast
    field_simp

/-- If the digits go on after the point, it stands among them. -/
theorem positional_of_lt (hdigits : ∀ c ∈ digits, c.isDigit = true) {e : Nat}
    (hlength : e + 1 < digits.length) :
    IsPointNumeral (value.positional digits e)
      (Nat.ofDigitChars 10 digits 0 * 10 ^ ((e : Int) + 1 - digits.length)) := by
  have hdrop : digits.drop (e + 1) ≠ [] := by
    rw [Ne, List.drop_eq_nil_iff]
    omega
  have hexponent : -((digits.drop (e + 1)).length : Int) = (e : Int) + 1 - digits.length := by
    rw [List.length_drop]
    omega
  refine ⟨digits.take (e + 1), digits.drop (e + 1), ?_,
    fun c hc => hdigits c (List.mem_of_mem_take hc),
    fun c hc => hdigits c (List.mem_of_mem_drop hc), ?_, ?_⟩
  · have hfill : e + 1 - digits.length = 0 := by omega
    rw [← Int.ofNat_eq_natCast, positional, hfill, List.replicate_zero, List.append_nil]
    cases hrest : digits.drop (e + 1) with
    | nil => exact absurd hrest hdrop
    | cons c rest => rfl
  · refine List.ne_nil_of_length_pos ?_
    rw [List.length_take]
    omega
  · rw [List.take_append_drop, hexponent, Decimal.value]

/-- Below one, the digits stand after the point, with zeros in front of them. -/
theorem positional_negSucc (hdigits : ∀ c ∈ digits, c.isDigit = true) (below : Nat) :
    IsPointNumeral (value.positional digits (.negSucc below))
      (Nat.ofDigitChars 10 digits 0 * 10 ^ (Int.negSucc below + 1 - digits.length)) := by
  have hexponent : -((List.replicate below '0' ++ digits).length : Int) =
      Int.negSucc below + 1 - digits.length := by
    rw [List.length_append, List.length_replicate]
    omega
  have hzeros : ['0'] ++ (List.replicate below '0' ++ digits) =
      List.replicate (below + 1) '0' ++ digits := rfl
  refine ⟨['0'], List.replicate below '0' ++ digits, rfl, fun c => isDigit_of_mem_zeros (k := 1),
    ?_, by simp, ?_⟩
  · intro c hc
    exact (List.mem_append.mp hc).elim isDigit_of_mem_zeros (hdigits c)
  · rw [hexponent, hzeros, ofDigitChars_zeros_append, Decimal.value]

/-- Digits written positionally have their value at that exponent. -/
theorem isPointNumeral_positional (hdigits : ∀ c ∈ digits, c.isDigit = true) (exponent : Int) :
    IsPointNumeral (value.positional digits exponent)
      (Nat.ofDigitChars 10 digits 0 * 10 ^ (exponent + 1 - digits.length)) := by
  cases exponent with
  | ofNat e =>
      by_cases hlength : digits.length ≤ e + 1
      · exact positional_of_le hdigits hlength
      · exact positional_of_lt hdigits (Nat.not_le.mp hlength)
  | negSucc below => exact positional_negSucc hdigits below

end Layout

/-! ## Numerals with a power of ten -/

theorem isNumeralChar_of_isDigit {c : Char} (h : c.isDigit = true) : isNumeralChar c = true := by
  simp [isNumeralChar, h]

theorem isNumeralChar_point {whole fraction : List Char} (hwhole : ∀ c ∈ whole, c.isDigit = true)
    (hfraction : ∀ c ∈ fraction, c.isDigit = true) :
    ∀ c ∈ whole ++ '.' :: fraction, isNumeralChar c = true := by
  intro c hc
  rcases List.mem_append.mp hc with hc | hc
  · exact isNumeralChar_of_isDigit (hwhole c hc)
  · rcases List.mem_cons.mp hc with rfl | hc
    · rfl
    · exact isNumeralChar_of_isDigit (hfraction c hc)

/-- In front of a power of ten stands a numeral, with one of the digits before its point. -/
theorem Layout.scientific_eq {digits : List Char} (hdigits : ∀ c ∈ digits, c.isDigit = true)
    (hne : digits ≠ []) (exponent : Int) :
    ∃ numeral, scientific digits exponent = numeral ++ 'e' :: power exponent ∧ numeral ≠ [] ∧
      (∀ c ∈ numeral, isNumeralChar c = true) ∧
      Decimal.ofChars? numeral =
        some ⟨Nat.ofDigitChars 10 digits 0, 1 - (digits.length : Int)⟩ := by
  cases digits with
  | nil => exact absurd rfl hne
  | cons first rest =>
      have hfirst : ∀ c ∈ [first], c.isDigit = true := by
        intro c hc
        rw [List.mem_singleton.mp hc]
        exact hdigits first (by simp)
      have hrest : ∀ c ∈ rest, c.isDigit = true := fun c hc => hdigits c (List.mem_cons_of_mem _ hc)
      cases rest with
      | nil =>
          refine ⟨[first], by simp [scientific], by simp, ?_, ?_⟩
          · exact fun c hc => isNumeralChar_of_isDigit (hfirst c hc)
          · exact Decimal.ofChars?_digits hfirst (by simp)
      | cons second rest =>
          have hexponent : -((second :: rest).length : Int) =
              1 - ((first :: second :: rest).length : Int) := by
            simp only [List.length_cons]
            omega
          refine ⟨[first] ++ '.' :: second :: rest, by simp [scientific], by simp,
            isNumeralChar_point hfirst hrest, ?_⟩
          rw [Decimal.ofChars?_point hfirst hrest (by simp), hexponent]
          rfl

/-! ## Doubles -/

/-- A finite double without a sign that is written positionally is a numeral for that double. -/
theorem ofNumeral_floatChars {v : Float} {bits : Nat} (hv : Double.ofFloat v = .finite false bits)
    (hplain : Double.IsPlain bits) :
    (∀ c ∈ floatChars v, isNumeralChar c = true) ∧ floatChars v ≠ [] ∧
      Lexeme.ofNumeral (floatChars v) = .ok (.number (floatText v) v) := by
  obtain ⟨hbits, -⟩ := Double.toBits_of_ofFloat hv
  have hpositional := (isPositional_shortest_iff hbits).mpr hplain
  obtain ⟨whole, fraction, htext, hwhole, hfraction, hne, hvalue⟩ :=
    Layout.isPointNumeral_positional (fun c hc => Layout.isDigit_of_mem_significantDigits hc)
      (Layout.firstExponent (shortest bits))
  rw [← Layout.value_eq_significantDigits] at hvalue
  have hchars : floatChars v = whole ++ '.' :: fraction := by
    rw [floatChars, Layout.writeFloat, hv, ← htext]
    simp [Layout.signed, Layout.writeDecimal, Layout.write, hpositional]
  have hread := (Decimal.bits_congr hvalue).trans (bits_shortest_of_le hbits.le)
  refine ⟨?_, by simp [hchars], ?_⟩
  · rw [hchars]
    exact isNumeralChar_point hwhole hfraction
  · rw [Lexeme.ofNumeral, hchars, Decimal.ofChars?_point hwhole hfraction (by simp [hne]), ← hchars]
    simp only [Decimal.toFloat, hread, Double.withSign_of_ofFloat hv]
    rfl

/-- Any other finite double without a sign is a numeral with the letter `e` after it. -/
theorem floatChars_of_not_isPlain {v : Float} {bits : Nat}
    (hv : Double.ofFloat v = .finite false bits) (hplain : ¬ Double.IsPlain bits) :
    ∃ numeral power, floatChars v = numeral ++ 'e' :: power ∧ numeral ≠ [] ∧
      ∀ c ∈ numeral, isNumeralChar c = true := by
  obtain ⟨hbits, -⟩ := Double.toBits_of_ofFloat hv
  have hpositional := mt (isPositional_shortest_iff hbits).mp hplain
  have hchars : floatChars v = Layout.scientific (Layout.significantDigits (shortest bits))
      (Layout.firstExponent (shortest bits)) := by
    rw [floatChars, Layout.writeFloat, hv]
    simp [Layout.signed, Layout.writeDecimal, Layout.write, hpositional]
  obtain ⟨numeral, htext, hne, hnumeral, -⟩ := Layout.scientific_eq
    (fun c hc => Layout.isDigit_of_mem_significantDigits hc)
    (Layout.significantDigits_ne_nil (shortest bits)) (Layout.firstExponent (shortest bits))
  exact ⟨numeral, _, hchars.trans htext, hne, hnumeral⟩

end Calculator
