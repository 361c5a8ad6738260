import Mathlib
import Calculator.Host
import Calculator.Proofs.Number.Exponents
import Calculator.Proofs.Number.Patterns

/-!
# Powers of doubles

`Double.value?` is the rational number that a finite double is; an odd integer among the doubles is
one whose value is `2 * k + 1` (`isOddInteger_iff`). `IsCPower` says what is documented of the
function `pow` of C where its result is infinite or missing, and `IsCheckOf` when a library may
refuse to compute it. However it refuses, `powerBy` gives the result of `pow` (`powerBy_eq_pow`):
the sign of an overflow is that of the power of real numbers, which is negative exactly for a
negative base and an odd exponent (`rpow_neg_iff`).
-/

set_option autoImplicit false

namespace Calculator

/-! ## Values of doubles -/

namespace Double

/-- The number that a finite double is. -/
def value? (x : Float) : Option ℚ :=
  match ofFloat x with
  | .finite negative bits => some (if negative then -magnitude bits else magnitude bits)
  | _ => none

variable {x : Float} {a : ℚ}

theorem value?_eq_some_iff : value? x = some a ↔
    ∃ negative bits, ofFloat x = .finite negative bits ∧
      (if negative then -magnitude bits else magnitude bits) = a := by
  unfold value?
  cases hx : ofFloat x with
  | finite negative bits => simp
  | _ => simp

theorem isFinite_iff : isFinite x = true ↔ ∃ a, value? x = some a := by
  unfold isFinite value?
  cases ofFloat x <;> simp

theorem magnitude_zero : magnitude 0 = 0 := by
  have hunits : units 0 = 0 := rfl
  rw [magnitude, hunits, Nat.cast_zero, zero_div]

theorem magnitude_pos {bits : Nat} (h : bits ≠ 0) : 0 < magnitude bits :=
  div_pos (Nat.cast_pos.mpr (units_pos h)) (Nat.cast_pos.mpr unitsPerOne_pos)

/-- Both zeros have the value zero, and no other double. -/
theorem isZero_iff : isZero x = true ↔ value? x = some 0 := by
  unfold isZero value?
  cases hx : ofFloat x with
  | finite negative bits =>
      by_cases hbits : bits = 0
      · simp [hbits, magnitude_zero]
      · have hpos := magnitude_pos hbits
        cases negative with
        | true => simp [hbits, hpos.ne']
        | false => simp [hbits, hpos.ne']
  | _ => simp

/-- Among the finite doubles, the values below zero are those of the doubles below zero. -/
theorem isBelowZero_iff (hx : value? x = some a) : isBelowZero x = true ↔ a < 0 := by
  obtain ⟨negative, bits, hfloat, rfl⟩ := value?_eq_some_iff.mp hx
  rw [isBelowZero, hfloat]
  by_cases hbits : bits = 0
  · simp [hbits, magnitude_zero]
  · have hpos := magnitude_pos hbits
    cases negative with
    | true => simp [hbits, hpos]
    | false => simp [hpos.le]

/-- A magnitude is a whole number exactly when the units of `1` divide it. -/
theorem magnitude_eq_natCast_iff {bits n : Nat} :
    magnitude bits = n ↔ units bits % unitsPerOne = 0 ∧ units bits / unitsPerOne = n := by
  have hone : (unitsPerOne : ℚ) ≠ 0 := Nat.cast_ne_zero.mpr unitsPerOne_pos.ne'
  have hproduct : magnitude bits = n ↔ units bits = n * unitsPerOne := by
    rw [magnitude, div_eq_iff hone]
    exact_mod_cast Iff.rfl
  rw [hproduct]
  constructor
  · intro hunits
    rw [hunits]
    exact ⟨Nat.mul_mod_left _ _, Nat.mul_div_cancel _ unitsPerOne_pos⟩
  · rintro ⟨hmod, rfl⟩
    exact (Nat.div_mul_cancel (Nat.dvd_of_mod_eq_zero hmod)).symm

/-- The whole number that a double equals is its value. -/
theorem toInt?_eq_some_iff {n : ℤ} : toInt? x = some n ↔ value? x = some (n : ℚ) := by
  unfold toInt? value?
  cases ofFloat x with
  | finite negative bits =>
      have hpos : 0 ≤ magnitude bits := div_nonneg (Nat.cast_nonneg _) (Nat.cast_nonneg _)
      dsimp only
      constructor
      · intro h
        split at h
        · next hmod =>
            obtain ⟨m, hm⟩ : ∃ m, units bits / unitsPerOne = m := ⟨_, rfl⟩
            have hmagnitude : magnitude bits = (m : ℚ) := magnitude_eq_natCast_iff.mpr ⟨hmod, hm⟩
            rw [← Option.some.inj h, hm, hmagnitude]
            cases negative <;> simp
        · cases h
      · intro h
        -- without its sign, the whole number is a natural number
        obtain ⟨m, hm⟩ : ∃ m : ℕ, (if negative then -n else n) = (m : ℤ) := by
          refine Int.eq_ofNat_of_zero_le ?_
          have hvalue := Option.some.inj h
          cases negative with
          | true =>
              have hneg : (n : ℚ) ≤ 0 := by
                rw [← hvalue]
                simpa using hpos
              have hle : n ≤ 0 := by exact_mod_cast hneg
              simpa using hle
          | false =>
              have hnonneg : (0 : ℚ) ≤ n := by
                rw [← hvalue]
                simpa using hpos
              have hle : 0 ≤ n := by exact_mod_cast hnonneg
              simpa using hle
        have hn : n = if negative then -(m : ℤ) else m := by
          cases negative with
          | true =>
              have hneg : -n = (m : ℤ) := hm
              show n = -(m : ℤ)
              omega
          | false => exact hm
        have hmagnitude : magnitude bits = (m : ℚ) := by
          have hvalue := Option.some.inj h
          rw [hn] at hvalue
          cases negative with
          | true => simpa using hvalue
          | false => simpa using hvalue
        obtain ⟨hmod, hdiv⟩ := magnitude_eq_natCast_iff.mp hmagnitude
        rw [if_pos hmod, hdiv, hn]
        rfl
  | _ => simp

/-- A double that equals no whole number has a value that is none, if it has one. -/
theorem toInt?_eq_none_iff (hx : value? x = some a) :
    toInt? x = none ↔ ∀ n : ℤ, a ≠ n := by
  rw [Option.eq_none_iff_forall_ne_some]
  refine forall_congr' fun n => not_congr ?_
  rw [toInt?_eq_some_iff, hx, Option.some_inj]

end Double

/-! ## Infinities -/

/-- An infinite double is one of the two infinities. -/
theorem Double.eq_signedInfinity {x : Float} (h : isInfinite x = true) :
    x = signedInfinity (isNegative x) := by
  have hinfinity : x.toBits.toNat % signBit = infinityBits := by
    unfold isInfinite ofFloat at h
    dsimp only at h
    split at h
    · next negative hx =>
        split at hx
        · cases hx
        · split at hx
          · next heq => exact heq
          · cases hx
    · cases h
  rw [signedInfinity, toFloat, withSign, ← hinfinity, ← toBits_eq, UInt64.ofNat_toNat,
    ofBits_toBits]

theorem isNegative_signedInfinity (negative : Bool) :
    Double.isNegative (signedInfinity negative) = negative :=
  Double.isNegative_withSign negative Nat.le.refl

/-! ## Parity -/

/-- The odd integers among the doubles. -/
theorem isOddInteger_iff {x : Float} :
    isOddInteger x = true ↔ ∃ k : ℤ, Double.value? x = some (2 * (k : ℚ) + 1) := by
  unfold isOddInteger
  constructor
  · intro h
    split at h
    · next n hn =>
        have hodd : n % 2 = 1 := of_decide_eq_true h
        obtain ⟨k, hk⟩ : ∃ k, n = 2 * k + 1 := ⟨n / 2, by omega⟩
        refine ⟨k, ?_⟩
        rw [Double.toInt?_eq_some_iff.mp hn, hk]
        push_cast
        rfl
    · cases h
  · rintro ⟨k, hk⟩
    have hint : Double.toInt? x = some (2 * k + 1) := by
      rw [Double.toInt?_eq_some_iff, hk]
      push_cast
      rfl
    rw [hint]
    exact decide_eq_true (by omega)

/-! ## Signs of powers of real numbers -/

/-- A power of a number other than zero is negative exactly for a negative base and an odd exponent.
A negative base is raised to whole numbers only. -/
theorem rpow_neg_iff {a b : ℚ} (ha : a ≠ 0) (hwhole : a < 0 → ∃ n : ℤ, b = n) :
    (a : ℝ) ^ (b : ℝ) < 0 ↔ a < 0 ∧ ∃ k : ℤ, b = 2 * k + 1 := by
  rcases lt_or_gt_of_ne ha with hneg | hpos
  · obtain ⟨n, rfl⟩ := hwhole hneg
    have hreal : (a : ℝ) < 0 := by exact_mod_cast hneg
    have hpower : (a : ℝ) ^ (((n : ℤ) : ℚ) : ℝ) = (a : ℝ) ^ n := by
      rw [Rat.cast_intCast, Real.rpow_intCast]
    have hodd : (∃ k : ℤ, (n : ℚ) = 2 * k + 1) ↔ Odd n := by
      refine exists_congr fun k => ?_
      exact_mod_cast Iff.rfl
    rw [hpower, hodd, and_iff_right hneg]
    constructor
    · intro hlt
      by_contra heven
      have hnonneg : 0 ≤ (a : ℝ) ^ n := (Int.not_odd_iff_even.mp heven).zpow_nonneg (a : ℝ)
      linarith
    · exact fun hodd => hodd.zpow_neg hreal
  · have hreal : (0 : ℝ) < a := by exact_mod_cast hpos
    have hpower : 0 < (a : ℝ) ^ (b : ℝ) := Real.rpow_pos_of_pos hreal _
    exact iff_of_false (not_lt.mpr hpower.le) fun h => absurd h.1 (not_lt.mpr hpos.le)

/-! ## The library function -/

open Double

section

variable {x y : Float}

theorem isPole_iff : isPole x y = true ↔ value? x = some 0 ∧ isBelowZero y = true := by
  rw [isPole, Bool.and_eq_true, isZero_iff]

theorem isUndefinedPower_iff : isUndefinedPower x y = true ↔
    ∃ a b, value? x = some a ∧ a < 0 ∧ value? y = some b ∧ ∀ n : ℤ, b ≠ n := by
  simp only [isUndefinedPower, Bool.and_eq_true, Option.isNone_iff_eq_none, isFinite_iff]
  constructor
  · rintro ⟨⟨⟨⟨a, ha⟩, hbelow⟩, b, hb⟩, hint⟩
    exact ⟨a, b, ha, (isBelowZero_iff ha).mp hbelow, hb, (toInt?_eq_none_iff hb).mp hint⟩
  · rintro ⟨a, b, ha, hneg, hb, hint⟩
    exact ⟨⟨⟨⟨a, ha⟩, (isBelowZero_iff ha).mpr hneg⟩, b, hb⟩, (toInt?_eq_none_iff hb).mpr hint⟩

theorem overflows_iff {result : Float} : overflows x y result = true ↔
    ∃ a b, value? x = some a ∧ a ≠ 0 ∧ value? y = some b ∧ isInfinite result = true := by
  simp only [overflows, Bool.and_eq_true, Bool.not_eq_true', isFinite_iff, ← Bool.not_eq_true,
    isZero_iff]
  constructor
  · rintro ⟨⟨⟨⟨a, ha⟩, hzero⟩, b, hb⟩, hinfinite⟩
    refine ⟨a, b, ha, ?_, hb, hinfinite⟩
    rintro rfl
    exact hzero ha
  · rintro ⟨a, b, ha, hne, hb, hinfinite⟩
    refine ⟨⟨⟨⟨a, ha⟩, ?_⟩, b, hb⟩, hinfinite⟩
    rw [ha, Option.some_inj]
    exact hne

end

/-- What is documented of the function `pow` of C where its result is infinite or missing. -/
structure IsCPower (pow : Float → Float → Float) : Prop where
  /-- A zero to a negative odd power is an infinity with the sign of the zero. -/
  zero_odd : ∀ x y, value? x = some 0 → isBelowZero y = true →
    (∃ k : ℤ, value? y = some (2 * (k : ℚ) + 1)) → pow x y = signedInfinity (isNegative x)
  /-- To any other negative power, and to negative infinity, it is positive infinity. -/
  zero_other : ∀ x y, value? x = some 0 → isBelowZero y = true →
    (¬ ∃ k : ℤ, value? y = some (2 * (k : ℚ) + 1)) → pow x y = infinity
  /-- A negative number has no power with a fractional exponent. -/
  fractional : ∀ x y a b, value? x = some a → a < 0 → value? y = some b → (∀ n : ℤ, b ≠ n) →
    pow x y = notANumber
  /-- An overflow has the sign of the power of the two numbers. -/
  overflow : ∀ x y a b, value? x = some a → a ≠ 0 → value? y = some b →
    isInfinite (pow x y) = true → (isNegative (pow x y) = true ↔ (a : ℝ) ^ (b : ℝ) < 0)

/-- A function that computes as `pow` does where it computes, and refuses nothing but overflows,
negative powers of zero, and negative numbers with fractional exponents. -/
structure IsCheckOf (pow : Float → Float → Float)
    (checked : Float → Float → Except MathFault Float) : Prop where
  ok : ∀ x y z, checked x y = .ok z → z = pow x y
  overflow : ∀ x y, checked x y = .error .range →
    ∃ a b, value? x = some a ∧ a ≠ 0 ∧ value? y = some b ∧ isInfinite (pow x y) = true
  domain : ∀ x y, checked x y = .error .domain →
    (value? x = some 0 ∧ isBelowZero y = true) ∨
      ∃ a b, value? x = some a ∧ a < 0 ∧ value? y = some b ∧ ∀ n : ℤ, b ≠ n

/-- The function that refuses all of these is one. -/
theorem isCheckOf_checkedPower (pow : Float → Float → Float) :
    IsCheckOf pow (checkedPower pow) where
  ok x y z h := by
    unfold checkedPower at h
    dsimp only at h
    split at h
    · cases h
    · split at h
      · cases h
      · exact (Except.ok.inj h).symm
  overflow x y h := by
    unfold checkedPower at h
    dsimp only at h
    split at h
    · cases h
    · split at h
      · next hoverflow => exact overflows_iff.mp hoverflow
      · cases h
  domain x y h := by
    unfold checkedPower at h
    dsimp only at h
    split at h
    · next hdomain =>
        exact (Bool.or_eq_true_iff.mp hdomain).imp isPole_iff.mp isUndefinedPower_iff.mp
    · split at h <;> cases h

section

variable {pow : Float → Float → Float} {checked : Float → Float → Except MathFault Float}
  {x y : Float} {a b : ℚ}

theorem exists_odd_iff (hy : value? y = some b) :
    (∃ k : ℤ, value? y = some (2 * (k : ℚ) + 1)) ↔ ∃ k : ℤ, b = 2 * k + 1 := by
  refine exists_congr fun k => ?_
  rw [hy, Option.some_inj]

/-- An overflow is negative exactly for a negative base and an odd exponent. -/
theorem IsCPower.overflow_eq (hpow : IsCPower pow) (hx : value? x = some a) (ha : a ≠ 0)
    (hy : value? y = some b) (hinfinite : isInfinite (pow x y) = true) :
    pow x y = signedInfinity (isBelowZero x && isOddInteger y) := by
  -- with a fractional exponent a negative base would have no power at all
  have hwhole : a < 0 → ∃ n : ℤ, b = n := by
    intro hneg
    by_contra hnone
    rw [hpow.fractional x y a b hx hneg hy (not_exists.mp hnone)] at hinfinite
    exact absurd hinfinite (by decide)
  have hsign : isNegative (pow x y) = (isBelowZero x && isOddInteger y) := by
    rw [Bool.eq_iff_iff, Bool.and_eq_true, hpow.overflow x y a b hx ha hy hinfinite,
      rpow_neg_iff ha hwhole, isBelowZero_iff hx, isOddInteger_iff, exists_odd_iff hy]
  rw [eq_signedInfinity hinfinite, hsign]

/-- A negative power of zero is infinite, and negative exactly for an odd exponent and a negative
zero. -/
theorem IsCPower.zero_eq (hpow : IsCPower pow) (hx : value? x = some 0)
    (hy : isBelowZero y = true) :
    pow x y = signedInfinity (isOddInteger y && isNegative x) := by
  by_cases hodd : isOddInteger y = true
  · rw [hodd, Bool.true_and]
    exact hpow.zero_odd x y hx hy (isOddInteger_iff.mp hodd)
  · rw [Bool.eq_false_iff.mpr hodd, Bool.false_and]
    exact hpow.zero_other x y hx hy (mt isOddInteger_iff.mpr hodd)

/-- However the library refuses operands, the power is that of C. -/
theorem powerBy_eq_pow (hpow : IsCPower pow) (hchecked : IsCheckOf pow checked) (x y : Float) :
    powerBy checked x y = pow x y := by
  unfold powerBy
  split
  · next z hz => exact hchecked.ok x y z hz
  · next hoverflow =>
      -- the sign that is computed from the parity is that of the library
      obtain ⟨a, b, hx, ha, hy, hinfinite⟩ := hchecked.overflow x y hoverflow
      exact (hpow.overflow_eq hx ha hy hinfinite).symm
  · next hdomain =>
      rcases hchecked.domain x y hdomain with ⟨hx, hy⟩ | ⟨a, b, hx, ha, hy, hb⟩
      · rw [if_pos (isZero_iff.mpr hx)]
        exact (hpow.zero_eq hx hy).symm
      · have hzero : ¬ isZero x = true := by
          rw [isZero_iff, hx, Option.some_inj]
          exact ha.ne
        rw [if_neg hzero]
        exact (hpow.fractional x y a b hx ha hy hb).symm

/-- So are the powers of a host with such a library. -/
theorem Host.power_eq_pow {host : Host} (hpow : IsCPower pow) (hchecked : IsCheckOf pow host.pow)
    (x y : Float) : host.power x y = pow x y :=
  powerBy_eq_pow hpow hchecked x y

end

end Calculator
