import Mathlib
import Calculator.Proofs.Number.Values

/-!
# Whole numbers as doubles

The largest double is `2 ^ 1024 - 2 ^ 971`, and the next one would be `2 ^ 1024`. A whole number is
too large for a double from the middle between the two on (`Double.ofInt?_eq_none_iff`): there it
would be rounded to the even significand, which is that of `2 ^ 1024`.
-/

set_option autoImplicit false

namespace Calculator

/-- A quotient is rounded up past an odd number from the half above it on. -/
theorem le_roundHalfEven_iff {k num den : Nat} (hden : 0 < den) (hodd : k % 2 = 1) :
    k + 1 ≤ roundHalfEven num den ↔ (2 * k + 1) * den ≤ 2 * num := by
  have hdivision : den * (num / den) + num % den = num := Nat.div_add_mod num den
  have hrest : num % den < den := Nat.mod_lt num hden
  have htwice : (2 * k + 1) * den = 2 * (den * k) + den := by ring
  rw [htwice]
  rcases Nat.lt_trichotomy (num / den) k with hlt | heq | hgt
  · have hbelow : den * (num / den) + den ≤ den * k := by
      rw [← Nat.mul_succ]
      exact Nat.mul_le_mul_left den hlt
    have hround := roundHalfEven_eq_or num den
    refine iff_of_false ?_ (by omega)
    omega
  · unfold roundHalfEven
    rw [heq] at hdivision
    simp only [heq, hodd]
    split
    · next hless =>
        have hhalf := Nat.compare_eq_lt.mp hless
        exact iff_of_false (by omega) (by omega)
    · next hequal =>
        have hhalf := Nat.compare_eq_eq.mp hequal
        exact iff_of_true (by omega) (by omega)
    · next hmore =>
        have hhalf := Nat.compare_eq_gt.mp hmore
        exact iff_of_true (by omega) (by omega)
  · have habove : den * k + den ≤ den * (num / den) := by
      rw [← Nat.mul_succ]
      exact Nat.mul_le_mul_left den hgt
    have hround := roundHalfEven_eq_or num den
    refine iff_of_true ?_ (by omega)
    omega

theorem log2_eq_of_lt {n k : Nat} (hle : 2 ^ k ≤ n) (hlt : n < 2 ^ (k + 1)) : n.log2 = k := by
  have hpos : n ≠ 0 := Nat.ne_of_gt (Nat.lt_of_lt_of_le (Nat.two_pow_pos k) hle)
  exact (Nat.log2_eq_iff hpos).mpr ⟨hle, hlt⟩

namespace Double

/-- A number between two powers of two, scaled down to its first 53 bits. -/
theorem significand_bounds {scaled : Nat} (hpos : scaled ≠ 0) (hlarge : 52 ≤ scaled.log2) :
    2 ^ 52 ≤ scaled / 2 ^ (scaled.log2 - 52) ∧ scaled / 2 ^ (scaled.log2 - 52) < 2 ^ 53 := by
  obtain ⟨hle, hlt⟩ := (Nat.log2_eq_iff hpos).mp rfl
  have hpow := Nat.two_pow_pos (scaled.log2 - 52)
  constructor
  · rw [Nat.le_div_iff_mul_le hpow, ← Nat.pow_add]
    rwa [Nat.add_sub_cancel' hlarge]
  · rw [Nat.div_lt_iff_lt_mul hpow, ← Nat.pow_add]
    rwa [show 53 + (scaled.log2 - 52) = scaled.log2 + 1 by omega]

/-- The pattern of a number of least doubles, not yet bounded by that of infinity: the exponent,
and the rounded significand above it. -/
def unbounded (scaled : Nat) : Nat :=
  (scaled.log2 - 52) * 2 ^ 52 + roundHalfEven scaled (2 ^ (scaled.log2 - 52))

theorem infinityBits_le_nearestBits {m : Nat} :
    infinityBits ≤ nearestBits m 1 ↔ 2047 * 2 ^ 52 ≤ unbounded (m * unitsPerOne) := by
  have hinfinity : infinityBits = 2047 * 2 ^ 52 := rfl
  unfold nearestBits unbounded
  simp only [Nat.div_one, Nat.one_mul, Nat.pow_eq, Nat.le_min, Nat.le_refl, and_true]
  rw [hinfinity]

/-- Beyond the last exponent the pattern reaches that of infinity. -/
theorem le_unbounded_of_le {scaled : Nat} (h : 2 ^ 2098 ≤ scaled) :
    2047 * 2 ^ 52 ≤ unbounded scaled := by
  have hpos : scaled ≠ 0 := Nat.ne_of_gt (Nat.lt_of_lt_of_le (Nat.two_pow_pos _) h)
  have hlog := (Nat.le_log2 hpos).mpr h
  have hsignificand := (significand_bounds hpos (by omega)).1
  have hround := roundHalfEven_eq_or scaled (2 ^ (scaled.log2 - 52))
  unfold unbounded
  omega

/-- Below the last exponent it does not, even if the significand is rounded up to the next power of
two. -/
theorem unbounded_lt_of_lt {scaled : Nat} (h : scaled < 2 ^ 2097) :
    unbounded scaled < 2047 * 2 ^ 52 := by
  have hround := roundHalfEven_eq_or scaled (2 ^ (scaled.log2 - 52))
  unfold unbounded
  by_cases hlarge : 52 ≤ scaled.log2
  · have hpos : scaled ≠ 0 := by
      rintro rfl
      exact absurd hlarge (by decide)
    have hlog := (Nat.log2_lt hpos).mpr h
    have hsignificand := (significand_bounds hpos hlarge).2
    omega
  · have hexponent : scaled.log2 - 52 = 0 := by omega
    have hsmall : scaled < 2 ^ 52 := by
      by_cases hzero : scaled = 0
      · rw [hzero]
        decide
      · exact (Nat.log2_lt hzero).mp (by omega)
    rw [hexponent, Nat.pow_zero, Nat.div_one] at hround
    rw [hexponent, Nat.pow_zero]
    omega

/-- At the last exponent it does exactly if the significand is rounded up to the next power of
two. -/
theorem le_unbounded_iff {scaled : Nat} (hle : 2 ^ 2097 ≤ scaled)
    (hlt : scaled < 2 ^ (2097 + 1)) :
    2047 * 2 ^ 52 ≤ unbounded scaled ↔ (2 ^ 54 - 1) * 2 ^ 2045 ≤ 2 * scaled := by
  have hlog : scaled.log2 = 2097 := log2_eq_of_lt hle hlt
  have hodd : 2 ^ 53 - 1 + 1 ≤ roundHalfEven scaled (2 ^ 2045) ↔
      (2 * (2 ^ 53 - 1) + 1) * 2 ^ 2045 ≤ 2 * scaled :=
    le_roundHalfEven_iff (pow_pos Nat.two_pos _) (by decide)
  have htwice : 2 * (2 ^ 53 - 1) + 1 = 2 ^ 54 - 1 := by decide
  have hexponent : 2097 - 52 = 2045 := rfl
  rw [htwice] at hodd
  rw [← hodd, unbounded, hlog, hexponent]
  omega

theorem infinityBits_le_nearestBits_iff (m : Nat) :
    infinityBits ≤ nearestBits m 1 ↔ 2 ^ 1024 - 2 ^ 970 ≤ m := by
  have hpow : ∀ {j k l : Nat}, j + k = l → 2 ^ l = 2 ^ j * 2 ^ k := by
    rintro j k l rfl
    exact Nat.pow_add 2 j k
  have hscale : ∀ {k l : Nat}, k + 1074 = l → (m * unitsPerOne < 2 ^ l ↔ m < 2 ^ k) := by
    intro k l hl
    rw [unitsPerOne_eq, hpow hl]
    exact Nat.mul_lt_mul_right (pow_pos Nat.two_pos _)
  -- the powers around the bound are multiples of one power
  have habove : 2 ^ 1024 = 2 ^ 54 * 2 ^ 970 := hpow rfl
  have hbelow : 2 ^ 1023 = 2 ^ 53 * 2 ^ 970 := hpow rfl
  rw [infinityBits_le_nearestBits]
  by_cases hsmall : m < 2 ^ 1023
  · have hunbounded := unbounded_lt_of_lt ((hscale (l := 2097) rfl).mpr hsmall)
    exact iff_of_false (by omega) (by omega)
  · by_cases hlarge : m < 2 ^ 1024
    · have hle : 2 ^ 2097 ≤ m * unitsPerOne := by
        rw [← Nat.not_lt, hscale (k := 1023) rfl]
        exact hsmall
      have hbound : (2 ^ 54 - 1) * 2 ^ 2045 = 2 * ((2 ^ 1024 - 2 ^ 970) * 2 ^ 1074) := by
        rw [hpow (j := 971) (k := 1074) rfl, hpow (j := 1) (k := 970) rfl, habove]
        have hfactor : 2 ^ 54 * 2 ^ 970 - 2 ^ 970 = (2 ^ 54 - 1) * 2 ^ 970 := by omega
        rw [hfactor, pow_one, mul_assoc, mul_left_comm, mul_assoc]
      rw [le_unbounded_iff hle ((hscale (l := 2097 + 1) rfl).mpr hlarge), hbound,
        unitsPerOne_eq, Nat.mul_le_mul_left_iff Nat.two_pos,
        Nat.mul_le_mul_right_iff (pow_pos Nat.two_pos _)]
    · have hle : 2 ^ 2098 ≤ m * unitsPerOne := by
        rw [← Nat.not_lt, hscale (k := 1024) rfl]
        exact hlarge
      exact iff_of_true (le_unbounded_of_le hle) (by omega)

/-- A whole number is too large for a double from the middle between the largest double and the
power of two above it on. -/
theorem ofInt?_eq_none_iff (n : Int) : ofInt? n = none ↔ 2 ^ 1024 - 2 ^ 970 ≤ n.natAbs := by
  rw [← infinityBits_le_nearestBits_iff, ofInt?]
  split
  · next hlt => exact iff_of_false (by simp) (Nat.not_le.mpr hlt)
  · next hge => exact iff_of_true rfl (Nat.not_lt.mp hge)

end Double

end Calculator
