import Mathlib
import Calculator.Number.Double

/-!
# Doubles and their patterns

A `Float` is determined by its bit pattern (`Double.ofBits_toBits`): the pattern falls into a sign,
an exponent and a significand, and putting these together again gives the pattern back. So a finite
double taken apart by `Double.ofFloat` is the one with that sign and magnitude
(`Double.withSign_of_ofFloat`). Conversely a sign and a magnitude up to that of infinity are those of
the double made from them (`Double.toBits_withSign`), and its opposite differs in the sign alone
(`Double.neg_withSign`).
-/

set_option autoImplicit false

namespace Calculator

open Float.Model Float.Model.UnpackedFloat

/-! ## The three parts of a pattern -/

theorem toBitVec_ofBitVec (b : BitVec 1) : (Sign.ofBitVec b).toBitVec = b := by
  rcases BitVec.eq_zero_or_eq_one b with rfl | rfl
  · rfl
  · rfl

/-- A pattern is its sign, its exponent and its significand, one after the other. -/
theorem packComponents_parts (b : BitVec Format.binary64.numBits) :
    packComponents .binary64 (.ofBitVec (unpackSign b)) (unpackExponent b) (unpackMantissa b) =
      b := by
  unfold packComponents
  rw [toBitVec_ofBitVec]
  apply BitVec.eq_of_getLsbD_eq
  intro i hi
  simp only [unpackSign, unpackExponent, unpackMantissa, BitVec.getLsbD_append,
    BitVec.getLsbD_cast, BitVec.getLsbD_extractLsb]
  grind

/-- A subnormal magnitude is packed with the exponent `0`. -/
theorem pack_subnormal (sign : Sign) (m : BitVec 52) (hm : 0 < m.toNat) :
    UnpackedFloat.pack .binary64 (.finite sign m.toNat (-1074) hm) =
      packComponents .binary64 sign 0#11 m := by
  have hlog : ¬ m.toNat.log2 + 1 = Format.binary64.mantissaBits := by
    intro h
    have hbits : Format.binary64.mantissaBits = 53 := rfl
    have hle : 2 ^ 52 ≤ m.toNat := (Nat.le_log2 (by omega)).mp (by omega)
    have hlt := m.isLt
    omega
  unfold UnpackedFloat.pack
  simp only
  rw [if_neg (by decide), if_neg hlog, BitVec.ofNat_toNat, BitVec.setWidth_eq]

/-- A normal magnitude is packed without the first bit of its significand. -/
theorem pack_normal (sign : Sign) (exponent : BitVec 11) (m : BitVec 52)
    (hexponent : exponent ≠ -1#11) (hpos : 0 < (1#1 ++ m).toNat) :
    UnpackedFloat.pack .binary64 (.finite sign (1#1 ++ m).toNat (exponent.toNat - 1075) hpos) =
      packComponents .binary64 sign exponent m := by
  have hnat : (1#1 ++ m).toNat = 2 ^ 52 + m.toNat := by
    rw [BitVec.toNat_append, ← Nat.shiftLeft_add_eq_or_of_lt m.isLt]
    rfl
  have hlog : (1#1 ++ m).toNat.log2 = 52 := by
    have hm := m.isLt
    rw [hnat]
    exact (Nat.log2_eq_iff (by omega)).mpr ⟨by omega, by omega⟩
  have hm : BitVec.ofNat 52 (1#1 ++ m).toNat = m := by
    apply BitVec.eq_of_toNat_eq
    rw [hnat, BitVec.toNat_ofNat]
    omega
  have hne : exponent.toNat ≠ 2047 := fun h => hexponent (BitVec.eq_of_toNat_eq h)
  have hlt := exponent.isLt
  have hbias : Format.binary64.exponentBias = 1023 := rfl
  have hbiased : ((exponent.toNat : Int) - 1075 + 1023 + 52).toNat = exponent.toNat := by omega
  unfold UnpackedFloat.pack
  simp only [hbias, Nat.cast_ofNat, hbiased, hlog, hm, BitVec.ofNat_toNat, BitVec.setWidth_eq]
  rw [if_neg (by omega)]
  rfl

/-- Packing undoes unpacking: the only patterns that are lost are further ones for a missing
number. -/
theorem pack_unpack {b : BitVec Format.binary64.numBits} (h : Format.binary64.Valid b) :
    UnpackedFloat.pack .binary64 (UnpackedFloat.unpack .binary64 b) = b := by
  have hwhole := packComponents_parts b
  unfold UnpackedFloat.unpack
  simp only
  split
  · next hexponent =>
      split
      · next hm =>
          rw [hexponent, hm] at hwhole
          exact hwhole
      · next hm => exact (h.eq_packedNaN hexponent hm).symm
  · next hexponent =>
      split
      · next hzero =>
          split
          · next hm =>
              rw [hzero, hm] at hwhole
              exact hwhole
          · rw [hzero] at hwhole
            simp only [hzero]
            exact (pack_subnormal _ _ _).trans hwhole
      · exact (pack_normal _ _ _ hexponent _).trans hwhole

/-! ## The parts as numbers -/

theorem toNat_unpackSign (b : BitVec Format.binary64.numBits) :
    (unpackSign b).toNat = b.toNat / 2 ^ 63 := by
  have hlt : b.toNat < 2 ^ 64 := b.isLt
  have hsign : (unpackSign b).toNat = b.toNat / 2 ^ 63 % 2 := by
    simp [unpackSign, Nat.shiftRight_eq_div_pow]
  omega

theorem toNat_unpackExponent (b : BitVec Format.binary64.numBits) :
    (unpackExponent b).toNat = b.toNat / 2 ^ 52 % 2 ^ 11 := by
  simp [unpackExponent, Nat.shiftRight_eq_div_pow]

theorem toNat_unpackMantissa (b : BitVec Format.binary64.numBits) :
    (unpackMantissa b).toNat = b.toNat % 2 ^ 52 := by
  simp [unpackMantissa]

/-- A pattern with a magnitude up to that of infinity is none of a missing number. -/
theorem valid_of_le {b : BitVec Format.binary64.numBits}
    (h : b.toNat % Double.signBit ≤ Double.infinityBits) : Format.binary64.Valid b := by
  refine ⟨fun hexponent hmantissa => absurd ?_ hmantissa⟩
  have hones : b.toNat / 2 ^ 52 % 2 ^ 11 = 2047 := by
    rw [← toNat_unpackExponent, hexponent]
    rfl
  have hmagnitude : b.toNat % 2 ^ 63 ≤ 2047 * 2 ^ 52 := h
  apply BitVec.eq_of_toNat_eq
  rw [toNat_unpackMantissa]
  show b.toNat % 2 ^ 52 = 0
  omega

/-- The other bit is the other sign. -/
theorem ofBitVec_of_ne {s s' : BitVec 1} (h : s' ≠ s) : Sign.ofBitVec s' = -Sign.ofBitVec s := by
  rcases BitVec.eq_zero_or_eq_one s with rfl | rfl <;>
    rcases BitVec.eq_zero_or_eq_one s' with rfl | rfl
  · exact absurd rfl h
  · rfl
  · rfl
  · exact absurd rfl h

/-- Patterns that differ in the sign alone stand for numbers that do. -/
theorem unpack_of_sign_ne {b b' : BitVec Format.binary64.numBits}
    (hsign : b'.toNat / 2 ^ 63 ≠ b.toNat / 2 ^ 63)
    (hmagnitude : b'.toNat % 2 ^ 63 = b.toNat % 2 ^ 63) :
    UnpackedFloat.unpack .binary64 b' = (UnpackedFloat.unpack .binary64 b).neg := by
  have hopposite : Sign.ofBitVec (unpackSign b') = -Sign.ofBitVec (unpackSign b) := by
    refine ofBitVec_of_ne fun h => hsign ?_
    rw [← toNat_unpackSign, ← toNat_unpackSign, h]
  have hexponent : unpackExponent b' = unpackExponent b := by
    apply BitVec.eq_of_toNat_eq
    rw [toNat_unpackExponent, toNat_unpackExponent]
    omega
  have hmantissa : unpackMantissa b' = unpackMantissa b := by
    apply BitVec.eq_of_toNat_eq
    rw [toNat_unpackMantissa, toNat_unpackMantissa]
    omega
  simp only [UnpackedFloat.unpack, hopposite, hexponent, hmantissa]
  split
  · split <;> rfl
  · split
    · split <;> rfl
    · rfl

/-! ## Doubles taken apart -/

namespace Double

/-- A double is determined by its pattern. -/
theorem ofBits_toBits (x : Float) : Float.ofBits x.toBits = x := by
  obtain ⟨⟨b, hb⟩⟩ := x
  unfold Float.toBits Float.ofBits Float.Model.ofBits Float.Model.pack
  simp [pack_unpack hb]

theorem signBit_eq : signBit = 2 ^ 63 := rfl

/-- A pattern is the sign bit, if it is set, and the pattern of the magnitude. -/
theorem toBits_eq (x : Float) :
    x.toBits.toNat = if isNegative x then signBit + x.toBits.toNat % signBit
      else x.toBits.toNat % signBit := by
  have hsize : x.toBits.toNat < 2 ^ 64 := x.toBits.toNat_lt
  rw [isNegative, signBit_eq]
  by_cases hsign : 2 ^ 63 ≤ x.toBits.toNat
  · rw [decide_eq_true hsign, if_pos rfl]
    omega
  · rw [decide_eq_false hsign, if_neg Bool.false_ne_true]
    omega

/-- The pattern of a finite double, and the bound on its magnitude. -/
theorem toBits_of_ofFloat {x : Float} {negative : Bool} {bits : Nat}
    (h : ofFloat x = .finite negative bits) :
    bits < infinityBits ∧ x.toBits.toNat = if negative then signBit + bits else bits := by
  unfold ofFloat at h
  dsimp only at h
  split at h
  · next hlt =>
      injection h with hnegative hbits
      have hsign : isNegative x = negative := hnegative
      rw [← hsign, ← hbits]
      exact ⟨hlt, toBits_eq x⟩
  · split at h <;> cases h

/-- A finite double is the one with its sign and magnitude. -/
theorem withSign_of_ofFloat {x : Float} {negative : Bool} {bits : Nat}
    (h : ofFloat x = .finite negative bits) : withSign negative bits = x := by
  obtain ⟨-, hbits⟩ := toBits_of_ofFloat h
  rw [withSign, ← hbits, UInt64.ofNat_toNat, ofBits_toBits]

/-! ## Doubles put together -/

/-- The pattern of a number or an infinity is that of the double made from it. -/
theorem toBits_ofBits {pattern : UInt64} (h : pattern.toNat % signBit ≤ infinityBits) :
    (Float.ofBits pattern).toBits = pattern :=
  UInt64.toBitVec_inj.mp (pack_unpack (valid_of_le (b := pattern.toBitVec) h))

/-- The opposite of a number or an infinity has the pattern with the other sign. -/
theorem neg_ofBits {pattern pattern' : UInt64} (h : pattern.toNat % signBit ≤ infinityBits)
    (hsign : pattern'.toNat / signBit ≠ pattern.toNat / signBit)
    (hmagnitude : pattern'.toNat % signBit = pattern.toNat % signBit) :
    -Float.ofBits pattern = Float.ofBits pattern' := by
  have hunpack : (Float.ofBits pattern).toModel.unpack =
      UnpackedFloat.unpack .binary64 pattern.toBitVec :=
    congrArg (UnpackedFloat.unpack .binary64)
      (pack_unpack (valid_of_le (b := pattern.toBitVec) h))
  show Float.ofModel (Float.Model.pack (Float.ofBits pattern).toModel.unpack.neg) = _
  rw [hunpack, ← unpack_of_sign_ne hsign hmagnitude]
  rfl

section

variable {bits : Nat} (negative : Bool) (h : bits ≤ infinityBits)
include h

/-- A sign bit on top of a magnitude leaves the magnitude as it is. -/
theorem signed_mod_signBit : (if negative then signBit + bits else bits) % signBit = bits := by
  have hlt : bits < signBit := Nat.lt_of_le_of_lt h (by decide)
  cases negative with
  | false => exact Nat.mod_eq_of_lt hlt
  | true => exact (Nat.add_mod_left _ _).trans (Nat.mod_eq_of_lt hlt)

theorem toNat_ofNat_signed :
    (UInt64.ofNat (if negative then signBit + bits else bits)).toNat =
      if negative then signBit + bits else bits := by
  have hinfinity : infinityBits = 2047 * 2 ^ 52 := rfl
  have hsize : (if negative then signBit + bits else bits) < 2 ^ 64 := by
    rw [signBit_eq]
    split <;> omega
  exact UInt64.toNat_ofNat_of_lt' hsize

theorem toBits_withSign :
    (withSign negative bits).toBits.toNat = if negative then signBit + bits else bits := by
  have hpattern := toNat_ofNat_signed negative h
  have hmagnitude := signed_mod_signBit negative h
  rw [withSign, toBits_ofBits, hpattern]
  rw [hpattern, hmagnitude]
  exact h

theorem isNegative_withSign : isNegative (withSign negative bits) = negative := by
  have hinfinity : infinityBits = 2047 * 2 ^ 52 := rfl
  rw [isNegative, toBits_withSign negative h, signBit_eq]
  cases negative with
  | false =>
      simp only [Bool.false_eq_true, if_false, decide_eq_false_iff_not]
      omega
  | true => simp

theorem ofFloat_withSign_ne_nan : ofFloat (withSign negative bits) ≠ .nan := by
  have hmagnitude := signed_mod_signBit negative h
  unfold ofFloat
  simp only [toBits_withSign negative h, hmagnitude]
  split
  · simp
  · rw [if_pos (by omega)]
    simp

/-- The opposite of a double has the other sign. -/
theorem neg_withSign : -withSign negative bits = withSign (!negative) bits := by
  have hlt : bits < signBit := Nat.lt_of_le_of_lt h (by decide)
  have hdiv : ∀ sign : Bool,
      (if sign then signBit + bits else bits) / signBit = sign.toNat := by
    intro sign
    cases sign with
    | false => exact Nat.div_eq_of_lt hlt
    | true => exact (Nat.add_div_left _ (by decide)).trans (by rw [Nat.div_eq_of_lt hlt]; rfl)
  refine neg_ofBits ?_ ?_ ?_
  · rw [toNat_ofNat_signed negative h, signed_mod_signBit negative h]
    exact h
  · rw [toNat_ofNat_signed negative h, toNat_ofNat_signed (!negative) h, hdiv, hdiv]
    cases negative <;> decide
  · rw [toNat_ofNat_signed negative h, toNat_ofNat_signed (!negative) h,
      signed_mod_signBit negative h, signed_mod_signBit (!negative) h]

end

/-- A sign and a finite magnitude are those of the double made from them. -/
theorem ofFloat_withSign {bits : Nat} (negative : Bool) (h : bits < infinityBits) :
    ofFloat (withSign negative bits) = .finite negative bits := by
  have hnegative : decide (signBit ≤ (withSign negative bits).toBits.toNat) = negative :=
    isNegative_withSign negative h.le
  rw [toBits_withSign negative h.le] at hnegative
  unfold ofFloat
  simp only [toBits_withSign negative h.le, signed_mod_signBit negative h.le, if_pos h, hnegative]

end Double

end Calculator
