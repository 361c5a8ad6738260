import Mathlib
import Calculator.Number.Shortest

/-!
# Values of decimals and doubles

`Decimal.value` and `Double.magnitude` are the numbers that a decimal and a pattern stand for. How a
decimal is read depends on its value alone (`Decimal.bits_congr`): the answers for very large and
very small powers of ten are those that rounding would give. A decimal with the value of a double is
read as that double (`Decimal.bits_of_value_eq`), and so is the shortest one (`bits_shortest_of_le`).
-/

set_option autoImplicit false

namespace Calculator

/-- The value of a decimal. -/
def Decimal.value (d : Decimal) : ℚ := d.coefficient * 10 ^ d.exponent

/-- The magnitude that a pattern stands for. -/
def Double.magnitude (bits : Nat) : ℚ := Double.units bits / Double.unitsPerOne

theorem Double.unitsPerOne_eq : Double.unitsPerOne = 2 ^ 1074 := by decide +kernel

theorem Double.unitsPerOne_pos : 0 < Double.unitsPerOne := by
  rw [Double.unitsPerOne_eq]
  exact pow_pos Nat.two_pos 1074

/-! ## Rounding depends on the quotient -/

/-- A common factor of numerator and denominator does not change the rounded quotient. -/
theorem roundHalfEven_mul {k : Nat} (hk : 0 < k) (num den : Nat) :
    roundHalfEven (k * num) (k * den) = roundHalfEven num den := by
  have hcompare : compare (2 * (k * (num % den))) (k * den) = compare (2 * (num % den)) den := by
    rw [Nat.mul_left_comm]
    rcases Nat.lt_trichotomy (2 * (num % den)) den with h | h | h
    · rw [Nat.compare_eq_lt.mpr h, Nat.compare_eq_lt]
      exact Nat.mul_lt_mul_of_pos_left h hk
    · rw [Nat.compare_eq_eq.mpr h, Nat.compare_eq_eq, h]
    · rw [Nat.compare_eq_gt.mpr h, Nat.compare_eq_gt]
      exact Nat.mul_lt_mul_of_pos_left h hk
  unfold roundHalfEven
  rw [Nat.mul_div_mul_left _ _ hk, Nat.mul_mod_mul_left, hcompare]

/-- Less than a half is rounded to zero. -/
theorem roundHalfEven_of_lt {num den : Nat} (h : 2 * num < den) : roundHalfEven num den = 0 := by
  have hquotient : num / den = 0 := Nat.div_eq_of_lt (by omega)
  have hcompare : compare (2 * (num % den)) den = .lt := by
    rw [Nat.mod_eq_of_lt (by omega)]
    exact Nat.compare_eq_lt.mpr h
  simp [roundHalfEven, hquotient, hcompare]

namespace Double

theorem nearestBits_mul {k : Nat} (hk : 0 < k) (num den : Nat) :
    nearestBits (k * num) (k * den) = nearestBits num den := by
  unfold nearestBits
  simp only [Nat.mul_assoc, Nat.mul_div_mul_left _ _ hk, roundHalfEven_mul hk]

/-- Equal quotients have the same nearest double. -/
theorem nearestBits_congr {num den num' den' : Nat} (hden : 0 < den) (hden' : 0 < den')
    (h : num * den' = num' * den) : nearestBits num den = nearestBits num' den' :=
  calc nearestBits num den
      = nearestBits (den' * num) (den' * den) := (nearestBits_mul hden' num den).symm
    _ = nearestBits (den * num') (den * den') := by
        rw [Nat.mul_comm den' num, h, Nat.mul_comm num' den, Nat.mul_comm den' den]
    _ = nearestBits num' den' := nearestBits_mul hden num' den'

theorem pow_add_le_mul {k j num perOne : Nat} (hper : perOne = 2 ^ j) (h : 2 ^ k ≤ num) :
    2 ^ (k + j) ≤ num * perOne := by
  rw [hper, Nat.pow_add]
  exact Nat.mul_le_mul_right _ h

/-- A whole number from `2 ^ 1200` on is beyond the largest double. -/
theorem nearestBits_of_le {num : Nat} (h : 2 ^ 1200 ≤ num) : nearestBits num 1 = infinityBits := by
  have hscaled := pow_add_le_mul unitsPerOne_eq h
  have hpos : num * unitsPerOne ≠ 0 :=
    Nat.ne_of_gt (Nat.lt_of_lt_of_le (Nat.two_pow_pos _) hscaled)
  have hlog := (Nat.le_log2 hpos).mpr hscaled
  have hshift : 2047 ≤ (num * unitsPerOne / 1).log2 - 52 := by
    rw [Nat.div_one]
    omega
  unfold nearestBits
  refine Nat.min_eq_right ?_
  calc infinityBits = 2047 * 2 ^ 52 := rfl
    _ ≤ ((num * unitsPerOne / 1).log2 - 52) * 2 ^ 52 := Nat.mul_le_mul_right _ hshift
    _ ≤ _ := Nat.le_add_right _ _

/-- A quotient below half of the least positive double is read as zero. -/
theorem nearestBits_of_lt {num den : Nat} (h : 2 * (num * unitsPerOne) < den) :
    nearestBits num den = 0 := by
  have hquotient : num * unitsPerOne / den = 0 := Nat.div_eq_of_lt (by omega)
  have hlog : Nat.log2 0 - 52 = 0 := rfl
  unfold nearestBits
  simp only [hquotient, hlog, Nat.pow_eq]
  rw [Nat.pow_zero, Nat.mul_one, roundHalfEven_of_lt h, Nat.zero_mul]
  rfl

end Double

/-! ## Reading depends on the value -/

namespace Decimal

/-- The value as a quotient of whole numbers: its numerator. -/
def numerator (d : Decimal) : Nat := d.coefficient * 10 ^ d.exponent.toNat

/-- The value as a quotient of whole numbers: its denominator. -/
def denominator (d : Decimal) : Nat := 10 ^ (-d.exponent).toNat

theorem denominator_pos (d : Decimal) : 0 < d.denominator := Nat.pow_pos (by decide)

theorem numerator_of_nonpos {d : Decimal} (h : d.exponent ≤ 0) : d.numerator = d.coefficient := by
  rw [numerator, Int.toNat_of_nonpos h, Nat.pow_zero, Nat.mul_one]

theorem denominator_of_nonneg {d : Decimal} (h : 0 ≤ d.exponent) : d.denominator = 1 := by
  rw [denominator, Int.toNat_of_nonpos (by omega), Nat.pow_zero]

theorem value_eq_div (d : Decimal) : d.value = d.numerator / d.denominator := by
  obtain ⟨coefficient, exponent⟩ := d
  cases exponent with
  | ofNat k => simp [value, numerator, denominator]
  | negSucc k => simp [value, numerator, denominator, zpow_negSucc, div_eq_mul_inv]

/-- Ten is above `2 ^ 3`. -/
theorem two_pow_le_ten_pow {k n : Nat} (h : k ≤ 3 * n) : 2 ^ k ≤ 10 ^ n :=
  calc 2 ^ k ≤ 2 ^ (3 * n) := Nat.pow_le_pow_right (by decide) h
    _ = (2 ^ 3) ^ n := Nat.pow_mul ..
    _ ≤ 10 ^ n := Nat.pow_le_pow_left (by decide) n

/-- With an exponent above `400` a decimal is beyond the largest double. -/
theorem nearestBits_of_large {d : Decimal} (hcoefficient : d.coefficient ≠ 0)
    (hlarge : 400 < d.exponent) :
    Double.nearestBits d.numerator d.denominator = Double.infinityBits := by
  rw [denominator_of_nonneg (by omega), Double.nearestBits_of_le]
  calc 2 ^ 1200 ≤ 10 ^ 400 := two_pow_le_ten_pow (by decide)
    _ ≤ 10 ^ d.exponent.toNat := Nat.pow_le_pow_right (by decide) (by omega)
    _ ≤ d.numerator := Nat.le_mul_of_pos_left _ (by omega)

/-- With an exponent so far down a decimal is nearer to zero than to the least positive double. -/
theorem nearestBits_of_small {d : Decimal}
    (hsmall : d.exponent + (d.coefficient.log2 : Int) < -400) :
    Double.nearestBits d.numerator d.denominator = 0 := by
  refine Double.nearestBits_of_lt ?_
  have hlog : d.coefficient < 2 ^ (d.coefficient.log2 + 1) := Nat.lt_log2_self
  calc 2 * (d.numerator * Double.unitsPerOne)
      < 2 * (2 ^ (d.coefficient.log2 + 1) * Double.unitsPerOne) := by
        rw [numerator_of_nonpos (by omega)]
        exact Nat.mul_lt_mul_of_pos_left
          (Nat.mul_lt_mul_of_pos_right hlog Double.unitsPerOne_pos) (by decide)
    _ = 2 ^ d.coefficient.log2 * (2 ^ 2 * Double.unitsPerOne) := by
        rw [Nat.pow_succ]
        ring
    _ ≤ 10 ^ d.coefficient.log2 * 10 ^ 400 := by
        rw [Double.unitsPerOne_eq, ← pow_add]
        exact Nat.mul_le_mul (Nat.pow_le_pow_left (by decide) _) (two_pow_le_ten_pow (by decide))
    _ ≤ d.denominator := by
        rw [← Nat.pow_add]
        exact Nat.pow_le_pow_right (by decide) (by omega)

/-- A decimal is read as the double nearest to its value, also where that is not computed. -/
theorem bits_eq (d : Decimal) : d.bits = Double.nearestBits d.numerator d.denominator := by
  unfold bits
  split
  · next hzero =>
      have hnum : d.numerator = 0 := by rw [numerator, hzero, Nat.zero_mul]
      rw [hnum, Double.nearestBits_of_lt (by rw [Nat.zero_mul]; exact d.denominator_pos)]
  · next hpos =>
      split
      · next hlarge => exact (nearestBits_of_large hpos hlarge).symm
      · split
        · next hsmall => exact (nearestBits_of_small hsmall).symm
        · split
          · next hnonneg =>
              rw [denominator_of_nonneg hnonneg]
              rfl
          · next hneg =>
              rw [numerator_of_nonpos (by omega)]
              rfl

/-- Decimals of one value are read as the same double. -/
theorem bits_congr {d d' : Decimal} (h : d.value = d'.value) : d.bits = d'.bits := by
  have hden : (d.denominator : ℚ) ≠ 0 := Nat.cast_ne_zero.mpr d.denominator_pos.ne'
  have hden' : (d'.denominator : ℚ) ≠ 0 := Nat.cast_ne_zero.mpr d'.denominator_pos.ne'
  rw [value_eq_div, value_eq_div, div_eq_div_iff hden hden'] at h
  rw [bits_eq, bits_eq]
  exact Double.nearestBits_congr d.denominator_pos d'.denominator_pos (by exact_mod_cast h)

end Decimal

/-! ## Reading back -/

namespace Double

/-- A significand with its first bit, shifted up, has as many further bits as it was shifted by. -/
theorem log2_shifted {m : Nat} (hm : m < 2 ^ 52) (k : Nat) :
    ((2 ^ 52 + m) * 2 ^ k).log2 = 52 + k := by
  have hpow := Nat.two_pow_pos k
  refine (Nat.log2_eq_iff (Nat.mul_ne_zero (by omega) hpow.ne')).mpr ⟨?_, ?_⟩
  · rw [Nat.pow_add]
    exact Nat.mul_le_mul_right _ (Nat.le_add_right _ _)
  · rw [Nat.add_right_comm, Nat.pow_add]
    exact Nat.mul_lt_mul_of_pos_right (by omega) hpow

/-- The double nearest to the magnitude of a pattern is the one with that pattern. -/
theorem nearestBits_units {bits : Nat} (h : bits ≤ infinityBits) :
    nearestBits (units bits) unitsPerOne = bits := by
  have hscaled : units bits * unitsPerOne / unitsPerOne = units bits :=
    Nat.mul_div_cancel _ unitsPerOne_pos
  have hround : ∀ k, roundHalfEven (units bits * unitsPerOne) (unitsPerOne * 2 ^ k) =
      roundHalfEven (units bits) (2 ^ k) := by
    intro k
    rw [Nat.mul_comm (units bits)]
    exact roundHalfEven_mul unitsPerOne_pos _ _
  -- the spacing divides the magnitude, and the rest is the pattern without its exponent
  suffices hsum : (((units bits).log2 - 52) * 2 ^ 52 +
      roundHalfEven (units bits) (2 ^ ((units bits).log2 - 52))) = bits by
    unfold nearestBits
    simp only [Nat.pow_eq, hscaled, hround, hsum]
    exact Nat.min_eq_left h
  by_cases hsmall : bits < 2 ^ 52
  · have hunits : units bits = bits := if_pos hsmall
    have hlog : bits.log2 - 52 = 0 := by
      by_cases hzero : bits = 0
      · rw [hzero]
        rfl
      · have hlt := (Nat.log2_lt hzero).mpr hsmall
        omega
    rw [hunits, hlog, Nat.pow_zero, roundHalfEven_of_mod_eq_zero (by decide) (Nat.mod_one _),
      Nat.div_one, Nat.zero_mul, Nat.zero_add]
  · have hunits : units bits = (2 ^ 52 + bits % 2 ^ 52) * 2 ^ (bits / 2 ^ 52 - 1) := if_neg hsmall
    have hlog : (units bits).log2 - 52 = bits / 2 ^ 52 - 1 := by
      rw [hunits, log2_shifted (Nat.mod_lt _ (by decide))]
      omega
    have hpow := Nat.two_pow_pos (bits / 2 ^ 52 - 1)
    rw [hlog, hunits, roundHalfEven_of_mod_eq_zero hpow (Nat.mul_mod_left _ _),
      Nat.mul_div_cancel _ hpow]
    omega

end Double

/-- A decimal with the value of a double is read as that double. -/
theorem Decimal.bits_of_value_eq {d : Decimal} {bits : Nat} (hbits : bits ≤ Double.infinityBits)
    (h : d.value = Double.magnitude bits) : d.bits = bits := by
  have hden : (d.denominator : ℚ) ≠ 0 := Nat.cast_ne_zero.mpr d.denominator_pos.ne'
  have hden' : (Double.unitsPerOne : ℚ) ≠ 0 := Nat.cast_ne_zero.mpr Double.unitsPerOne_pos.ne'
  rw [value_eq_div, Double.magnitude, div_eq_div_iff hden hden'] at h
  rw [bits_eq, Double.nearestBits_congr d.denominator_pos Double.unitsPerOne_pos
    (by exact_mod_cast h), Double.nearestBits_units hbits]

/-- A number of halves is a number of tenths. -/
theorem mul_pow_ten_neg (units k : Nat) {perOne scale : Nat} (hper : perOne = 2 ^ k)
    (hscale : scale = 5 ^ k) :
    ((units * scale : Nat) : ℚ) * 10 ^ (-(k : Int)) = units / perOne := by
  have hten : (10 : ℚ) ^ k = 2 ^ k * 5 ^ k := by
    rw [← mul_pow]
    norm_num
  rw [zpow_neg, zpow_natCast, hten, hper, hscale]
  push_cast
  field_simp

/-- The exact decimal of a double has its magnitude. -/
theorem value_exactDecimal (bits : Nat) :
    (exactDecimal (Double.units bits)).value = Double.magnitude bits := by
  have hscale : Nat.pow 5 1074 = 5 ^ 1074 := by decide +kernel
  have h := mul_pow_ten_neg (Double.units bits) 1074 Double.unitsPerOne_eq hscale
  rw [Nat.cast_ofNat] at h
  rw [exactDecimal, Decimal.value, Double.magnitude, h]

/-- The shortest decimal of a double is read as that double. -/
theorem bits_shortest_of_le {bits : Nat} (h : bits ≤ Double.infinityBits) :
    (shortest bits).bits = bits :=
  bits_shortest (Decimal.bits_of_value_eq h (value_exactDecimal bits))

end Calculator
