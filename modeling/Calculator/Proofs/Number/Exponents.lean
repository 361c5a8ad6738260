import Calculator.Number.Layout
import Calculator.Proofs.Number.Values

/-!
# The exponent of the first digit

`leadingExponent` and `Layout.firstExponent` place a magnitude and a decimal between two powers of
ten. The shortest decimal of a double stands between the same two as the double itself, the upper
one included (`shortest_value_bounds`). As the two bounds of the positional range are read back
without loss, a double is written positionally exactly when it is zero or in the range from
`10 ^ -4` to below `10 ^ 16` (`isPositional_shortest_iff`).
-/

set_option autoImplicit false

namespace Calculator

/-! ## Powers of ten -/

theorem ten_zpow_pos (k : Int) : (0 : ℚ) < 10 ^ k := zpow_pos (by norm_num) k

/-- Between one power of ten and the next, a number is compared with powers of ten by the exponent
of the lower one. -/
theorem ten_zpow_le_iff {x : ℚ} {first : Int} (hle : 10 ^ first ≤ x) (hlt : x < 10 ^ (first + 1))
    (e : Int) : 10 ^ e ≤ x ↔ e ≤ first := by
  constructor
  · intro h
    have hpow : (10 : ℚ) ^ e < 10 ^ (first + 1) := lt_of_le_of_lt h hlt
    have he := (zpow_lt_zpow_iff_right₀ (by norm_num)).mp hpow
    omega
  · intro h
    exact le_trans (zpow_le_zpow_right₀ (by norm_num) h) hle

theorem digitCount_pos (n : Nat) : 0 < digitCount n := Nat.length_toDigits_pos

/-- A number has at most `k` digits exactly when it is below `10 ^ k`. -/
theorem digitCount_le_iff {n k : Nat} (hk : 0 < k) : digitCount n ≤ k ↔ n < 10 ^ k :=
  Nat.length_toDigits_le_iff (by decide) hk

theorem lt_ten_pow_digitCount (n : Nat) : n < 10 ^ digitCount n :=
  (digitCount_le_iff (digitCount_pos n)).mp (Nat.le_refl _)

theorem ten_pow_le_of_pos {n : Nat} (hn : 0 < n) : 10 ^ (digitCount n - 1) ≤ n := by
  by_cases hone : digitCount n - 1 = 0
  · rw [hone]
    exact hn
  · refine Nat.not_lt.mp fun hlt => ?_
    have hle := (digitCount_le_iff (by omega)).mpr hlt
    omega

/-! ## Decimals -/

/-- A decimal that is not zero stands between the power of ten of its first digit and the next. -/
theorem Decimal.value_bounds {d : Decimal} (hd : d.coefficient ≠ 0) :
    10 ^ Layout.firstExponent d ≤ d.value ∧ d.value < 10 ^ (Layout.firstExponent d + 1) := by
  have hcount := digitCount_pos d.coefficient
  have hfirst : Layout.firstExponent d = (digitCount d.coefficient - 1 : Nat) + d.exponent := by
    rw [Layout.firstExponent, if_neg hd]
    omega
  have hnext : Layout.firstExponent d + 1 = (digitCount d.coefficient : Nat) + d.exponent := by
    omega
  have hpow := ten_zpow_pos d.exponent
  have hle : ((10 ^ (digitCount d.coefficient - 1) : Nat) : ℚ) ≤ d.coefficient :=
    Nat.cast_le.mpr (ten_pow_le_of_pos (Nat.pos_of_ne_zero hd))
  have hlt : (d.coefficient : ℚ) < (10 ^ digitCount d.coefficient : Nat) :=
    Nat.cast_lt.mpr (lt_ten_pow_digitCount d.coefficient)
  push_cast at hle hlt
  rw [hnext, hfirst, zpow_add₀ (by norm_num), zpow_add₀ (by norm_num), zpow_natCast, zpow_natCast]
  exact ⟨mul_le_mul_of_nonneg_right hle hpow.le, mul_lt_mul_of_pos_right hlt hpow⟩

/-! ## Magnitudes -/

/-- From one on, a quotient has the exponent of the first digit of its whole part. -/
theorem quotient_bounds {units perOne : Nat} (hone : 0 < perOne) (hwhole : units / perOne ≠ 0) :
    10 ^ ((digitCount (units / perOne) : Int) - 1) ≤ (units : ℚ) / perOne ∧
      (units : ℚ) / perOne < 10 ^ ((digitCount (units / perOne) : Int) - 1 + 1) := by
  have honeQ : (0 : ℚ) < perOne := Nat.cast_pos.mpr hone
  have hcount := digitCount_pos (units / perOne)
  have hupper : units < 10 ^ digitCount (units / perOne) * perOne :=
    (Nat.div_lt_iff_lt_mul hone).mp (lt_ten_pow_digitCount _)
  have hlower : 10 ^ (digitCount (units / perOne) - 1) * perOne ≤ units :=
    (Nat.le_div_iff_mul_le hone).mp (ten_pow_le_of_pos (Nat.pos_of_ne_zero hwhole))
  have hfirst : (digitCount (units / perOne) : Int) - 1 =
      ((digitCount (units / perOne) - 1 : Nat) : Int) := by omega
  rw [sub_add_cancel, hfirst, zpow_natCast, zpow_natCast, le_div_iff₀ honeQ, div_lt_iff₀ honeQ]
  exact ⟨by exact_mod_cast hlower, by exact_mod_cast hupper⟩

/-- Below one, the exponent of a quotient is read off its reciprocal. The reciprocal is taken a
little too small, so that a power of ten is not counted as one digit more. -/
theorem reciprocal_bounds {units perOne : Nat} (hunits : 0 < units) (hlt : units < perOne) :
    10 ^ (-(digitCount ((perOne - 1) / units) : Int)) ≤ (units : ℚ) / perOne ∧
      (units : ℚ) / perOne < 10 ^ (-(digitCount ((perOne - 1) / units) : Int) + 1) := by
  have honeQ : (0 : ℚ) < perOne := Nat.cast_pos.mpr (by omega)
  have hr : 0 < (perOne - 1) / units := Nat.div_pos (by omega) hunits
  have hcount := digitCount_pos ((perOne - 1) / units)
  have hupper : perOne ≤ 10 ^ digitCount ((perOne - 1) / units) * units := by
    have h := (Nat.div_lt_iff_lt_mul hunits).mp (lt_ten_pow_digitCount ((perOne - 1) / units))
    omega
  have hlower : 10 ^ (digitCount ((perOne - 1) / units) - 1) * units < perOne := by
    have h := (Nat.le_div_iff_mul_le hunits).mp (ten_pow_le_of_pos hr)
    omega
  have hnext : -(digitCount ((perOne - 1) / units) : Int) + 1 =
      -((digitCount ((perOne - 1) / units) - 1 : Nat) : Int) := by omega
  have hupperQ : (perOne : ℚ) ≤ 10 ^ digitCount ((perOne - 1) / units) * units := by
    exact_mod_cast hupper
  have hlowerQ : (10 : ℚ) ^ (digitCount ((perOne - 1) / units) - 1) * units < perOne := by
    exact_mod_cast hlower
  rw [hnext, zpow_neg, zpow_neg, zpow_natCast, zpow_natCast]
  constructor
  · rw [inv_le_iff_one_le_mul₀' (by positivity), ← mul_div_assoc, one_le_div honeQ]
    exact hupperQ
  · rw [lt_inv_comm₀ (by positivity) (by positivity), inv_div, lt_div_iff₀ (by positivity)]
    exact hlowerQ

/-- A magnitude that is not zero stands between the power of ten of its leading exponent and the
next. -/
theorem leadingExponent_bounds {units : Nat} (hunits : 0 < units) :
    10 ^ leadingExponent units ≤ (units / Double.unitsPerOne : ℚ) ∧
      (units / Double.unitsPerOne : ℚ) < 10 ^ (leadingExponent units + 1) := by
  unfold leadingExponent
  dsimp only
  split
  · next hbelow =>
      have hlt : units < Double.unitsPerOne := by
        rcases Nat.div_eq_zero_iff.mp hbelow with hzero | hlt
        · exact absurd hzero Double.unitsPerOne_pos.ne'
        · exact hlt
      exact reciprocal_bounds hunits hlt
  · next hwhole => exact quotient_bounds Double.unitsPerOne_pos hwhole

/-! ## The shortest decimal -/

theorem gridRatio_pos (units : Nat) (k : Int) : 0 < (gridRatio units k).2 := by
  cases k with
  | ofNat k =>
      have hpow : 0 < 10 ^ k := Nat.pow_pos (by decide)
      rw [gridRatio]
      exact Nat.mul_pos Double.unitsPerOne_pos hpow
  | negSucc k =>
      simpa only [gridRatio] using Double.unitsPerOne_pos

/-- The magnitude in steps of a grid. -/
theorem gridRatio_eq (units : Nat) (k : Int) :
    ((gridRatio units k).1 : ℚ) / (gridRatio units k).2 = units / Double.unitsPerOne / 10 ^ k := by
  cases k with
  | ofNat k =>
      simp only [gridRatio, Nat.pow_eq, Nat.cast_mul, Nat.cast_pow, Nat.cast_ofNat,
        Int.ofNat_eq_natCast, zpow_natCast, div_mul_eq_div_div]
  | negSucc k =>
      simp only [gridRatio, Nat.pow_eq, Nat.cast_mul, Nat.cast_pow, Nat.cast_ofNat, zpow_negSucc,
        div_inv_eq_mul, div_mul_eq_mul_div]

/-- The neighbours of a magnitude on a grid are the steps below and above it. -/
theorem mem_neighbours {units : Nat} {k : Int} {d : Decimal} (h : d ∈ neighbours units k) :
    d.exponent = k ∧ (d.coefficient = (gridRatio units k).1 / (gridRatio units k).2 ∨
      d.coefficient = (gridRatio units k).1 / (gridRatio units k).2 + 1) := by
  have hnear := roundHalfEven_eq_or (gridRatio units k).1 (gridRatio units k).2
  simp only [neighbours, nearestOnGrid, List.mem_cons, List.not_mem_nil, or_false] at h
  rcases h with rfl | rfl
  · exact ⟨rfl, hnear⟩
  · refine ⟨rfl, ?_⟩
    dsimp only
    omega

/-- On a grid that is no coarser than the first digit, the neighbours of a magnitude lie between the
two powers of ten around it. -/
theorem neighbours_value_bounds {units : Nat} (hunits : 0 < units) (n : Nat) {d : Decimal}
    (hd : d ∈ neighbours units (leadingExponent units - n)) :
    10 ^ leadingExponent units ≤ d.value ∧ d.value ≤ 10 ^ (leadingExponent units + 1) := by
  obtain ⟨hle, hlt⟩ := leadingExponent_bounds hunits
  obtain ⟨hexponent, hcoefficient⟩ := mem_neighbours hd
  have hden := gridRatio_pos units (leadingExponent units - n)
  have hratio := gridRatio_eq units (leadingExponent units - n)
  obtain ⟨k, hk⟩ : ∃ k, leadingExponent units - n = k := ⟨_, rfl⟩
  rw [hk] at hexponent hcoefficient hden hratio
  have hfirst : leadingExponent units = (n : Nat) + k := by omega
  have hnext : leadingExponent units + 1 = (n + 1 : Nat) + k := by omega
  rw [hnext, zpow_add₀ (by norm_num), zpow_natCast] at hlt ⊢
  rw [hfirst, zpow_add₀ (by norm_num), zpow_natCast] at hle ⊢
  have hpow := ten_zpow_pos k
  have hdenQ : (0 : ℚ) < (gridRatio units k).2 := Nat.cast_pos.mpr hden
  rw [← le_div_iff₀ hpow, ← hratio, le_div_iff₀ hdenQ] at hle
  rw [← div_lt_iff₀ hpow, ← hratio, div_lt_iff₀ hdenQ] at hlt
  -- the same bounds for the steps, which are whole numbers
  have hlow : 10 ^ n ≤ (gridRatio units k).1 / (gridRatio units k).2 :=
    (Nat.le_div_iff_mul_le hden).mpr (by exact_mod_cast hle)
  have hhigh : (gridRatio units k).1 / (gridRatio units k).2 < 10 ^ (n + 1) :=
    (Nat.div_lt_iff_lt_mul hden).mpr (by exact_mod_cast hlt)
  have hbounds : 10 ^ n ≤ d.coefficient ∧ d.coefficient ≤ 10 ^ (n + 1) := by omega
  have hlowQ : (10 : ℚ) ^ n ≤ d.coefficient := by exact_mod_cast hbounds.1
  have hhighQ : (d.coefficient : ℚ) ≤ 10 ^ (n + 1) := by exact_mod_cast hbounds.2
  rw [Decimal.value, hexponent]
  exact ⟨mul_le_mul_of_nonneg_right hlowQ hpow.le, mul_le_mul_of_nonneg_right hhighQ hpow.le⟩

/-- The shortest decimal of a double lies between the two powers of ten around it. -/
theorem shortest_value_bounds {bits : Nat} (hunits : 0 < Double.units bits) :
    10 ^ leadingExponent (Double.units bits) ≤ (shortest bits).value ∧
      (shortest bits).value ≤ 10 ^ (leadingExponent (Double.units bits) + 1) := by
  unfold shortest
  dsimp only
  cases hfound : (List.range 17).findSome? (fun n : Nat =>
      (neighbours (Double.units bits) (leadingExponent (Double.units bits) - n)).find?
        (·.bits = bits)) with
  | none =>
      obtain ⟨hle, hlt⟩ := leadingExponent_bounds hunits
      rw [Option.getD_none, value_exactDecimal]
      exact ⟨hle, le_of_lt hlt⟩
  | some d =>
      obtain ⟨n, -, hn⟩ := List.exists_of_findSome?_eq_some hfound
      exact neighbours_value_bounds hunits n (List.mem_of_find?_eq_some hn)

/-! ## The positional range -/

theorem value_ten_zpow (e : Int) : Decimal.value ⟨1, e⟩ = 10 ^ e := by
  simp [Decimal.value]

/-- A double and its shortest decimal are on the same side of every power of ten that is read
without becoming smaller. -/
theorem ten_zpow_le_shortest_iff {bits : Nat} (hbits : bits < Double.infinityBits)
    (hunits : 0 < Double.units bits) {e : Int}
    (hread : 10 ^ e ≤ Double.magnitude (Decimal.bits ⟨1, e⟩)) :
    10 ^ e ≤ (shortest bits).value ↔ 10 ^ e ≤ Double.magnitude bits := by
  obtain ⟨hle, hlt⟩ := leadingExponent_bounds hunits
  obtain ⟨hlow, hhigh⟩ := shortest_value_bounds hunits
  constructor
  · intro h
    by_contra hbelow
    have hfirst : leadingExponent (Double.units bits) + 1 ≤ e := by
      have hnot := mt (ten_zpow_le_iff hle hlt e).mpr hbelow
      omega
    have hpow : (10 : ℚ) ^ (leadingExponent (Double.units bits) + 1) ≤ 10 ^ e :=
      zpow_le_zpow_right₀ (by norm_num) hfirst
    -- the shortest decimal would be the power of ten itself, which is read as no smaller double
    have hvalue : (shortest bits).value = Decimal.value ⟨1, e⟩ := by
      rw [value_ten_zpow]
      linarith
    rw [← Decimal.bits_congr hvalue, bits_shortest_of_le hbits.le] at hread
    exact hbelow hread
  · intro h
    have hfirst := (ten_zpow_le_iff hle hlt e).mp h
    exact le_trans (zpow_le_zpow_right₀ (by norm_num) hfirst) hlow

theorem magnitude_ten_pow_sixteen :
    (10 : ℚ) ^ (16 : Int) ≤ Double.magnitude (Decimal.bits ⟨1, 16⟩) := by
  have hread : 10 ^ 16 * Double.unitsPerOne ≤ Double.units (Decimal.bits ⟨1, 16⟩) := by
    decide +kernel
  have hone : (0 : ℚ) < Double.unitsPerOne := Nat.cast_pos.mpr Double.unitsPerOne_pos
  rw [Double.magnitude, le_div_iff₀ hone]
  exact_mod_cast hread

theorem magnitude_ten_pow_minus_four :
    (10 : ℚ) ^ (-4 : Int) ≤ Double.magnitude (Decimal.bits ⟨1, -4⟩) := by
  have hread : Double.unitsPerOne ≤ Double.units (Decimal.bits ⟨1, -4⟩) * 10 ^ 4 := by
    decide +kernel
  have hreadQ : (Double.unitsPerOne : ℚ) ≤ Double.units (Decimal.bits ⟨1, -4⟩) * 10 ^ 4 := by
    have hcast := Nat.cast_le (α := ℚ).mpr hread
    rwa [Nat.cast_mul, Nat.cast_pow, Nat.cast_ofNat] at hcast
  have hone : (0 : ℚ) < Double.unitsPerOne := Nat.cast_pos.mpr Double.unitsPerOne_pos
  have hfour : (10 : ℚ) ^ (-4 : Int) = 1 / 10 ^ 4 := by norm_num
  rw [Double.magnitude, le_div_iff₀ hone, hfour, div_mul_eq_mul_div, one_mul,
    div_le_iff₀ (by norm_num)]
  exact hreadQ

/-- Only the pattern `0` stands for zero. -/
theorem units_pos {bits : Nat} (h : bits ≠ 0) : 0 < Double.units bits := by
  unfold Double.units
  split
  · exact Nat.pos_of_ne_zero h
  · exact Nat.mul_pos (Nat.add_pos_left (by decide) _) (Nat.two_pow_pos _)

/-- A finite magnitude is zero, or it is in the range in which doubles are written positionally. -/
def Double.IsPlain (bits : Nat) : Prop :=
  bits = 0 ∨ 1 / 10 ^ 4 ≤ Double.magnitude bits ∧ Double.magnitude bits < 10 ^ 16

/-- A double is written positionally exactly when it is zero or in the positional range. -/
theorem isPositional_shortest_iff {bits : Nat} (hbits : bits < Double.infinityBits) :
    Layout.value.isPositional (Layout.firstExponent (shortest bits)) = true ↔
      Double.IsPlain bits := by
  by_cases hzero : bits = 0
  · have hshortest : Layout.value.isPositional (Layout.firstExponent (shortest 0)) = true := by
      decide +kernel
    rw [hzero]
    exact ⟨fun _ => Or.inl rfl, fun _ => hshortest⟩
  · have hunits := units_pos hzero
    have hcoefficient : (shortest bits).coefficient ≠ 0 := by
      intro hnone
      have hlow := (shortest_value_bounds hunits).1
      have hpow := ten_zpow_pos (leadingExponent (Double.units bits))
      rw [Decimal.value, hnone, Nat.cast_zero, zero_mul] at hlow
      linarith
    obtain ⟨hle, hlt⟩ := Decimal.value_bounds hcoefficient
    have hleast := ten_zpow_le_shortest_iff hbits hunits magnitude_ten_pow_minus_four
    have hmost := ten_zpow_le_shortest_iff hbits hunits magnitude_ten_pow_sixteen
    rw [ten_zpow_le_iff hle hlt] at hleast hmost
    have hfour : (10 : ℚ) ^ (-4 : Int) = 1 / 10 ^ 4 := by norm_num
    have hsixteen : (10 : ℚ) ^ (16 : Int) = 10 ^ 16 := by norm_num
    rw [hfour] at hleast
    rw [hsixteen] at hmost
    rw [Double.IsPlain, or_iff_right hzero, ← hleast, ← not_le, ← hmost, not_le]
    rw [Layout.isPositional, Bool.and_eq_true, decide_eq_true_iff, decide_eq_true_iff]
    rfl

end Calculator
