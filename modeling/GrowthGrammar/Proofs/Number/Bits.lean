import GrowthGrammar.Proofs.Number.Rounding
import Mathlib

/-!
# Doubles and their bits

`isNegative` and `magnitude` take the bits of a double apart and `ofMagnitude` puts them together
again (`ofMagnitude_magnitude`).  Changing the sign changes one bit (`neg_ofMagnitude`); finiteness
and equality with zero are questions about the magnitude (`isFinite_iff`, `beq_zero_iff`).
-/

namespace GrowthGrammar.Number

open Float.Model (Format)
open Float.Model.UnpackedFloat

/-! ## The fields of the bits -/

/-- The sign in the bits of a double. -/
abbrev signField (b : BitVec 64) : Sign :=
  Sign.ofBitVec (@unpackSign Format.binary64 b)

/-- The exponent in the bits of a double. -/
abbrev exponentField (b : BitVec 64) : BitVec 11 :=
  @unpackExponent Format.binary64 b

/-- The fraction in the bits of a double. -/
abbrev fractionField (b : BitVec 64) : BitVec 52 :=
  @unpackMantissa Format.binary64 b

theorem toNat_fractionField (b : BitVec 64) : (fractionField b).toNat = b.toNat % 2 ^ 52 := by
  simp [fractionField, unpackMantissa]

theorem toNat_exponentField (b : BitVec 64) :
    (exponentField b).toNat = b.toNat / 2 ^ 52 % 2 ^ 11 := by
  simp [exponentField, unpackExponent, Nat.shiftRight_eq_div_pow]

theorem toNat_signField (b : BitVec 64) : (signField b).toBitVec.toNat = b.toNat / 2 ^ 63 := by
  have hb : b.toNat < 2 ^ 64 := b.isLt
  rw [Sign.toBitVec_ofBitVec]
  simp only [unpackSign, BitVec.extractLsb, BitVec.toNat_cast, BitVec.extractLsb'_toNat,
    Nat.shiftRight_eq_div_pow]
  omega

theorem signField_eq (b : BitVec 64) :
    signField b = if 2 ^ 63 ≤ b.toNat then .negative else .positive := by
  have hb : b.toNat < 2 ^ 64 := b.isLt
  have h := toNat_signField b
  cases hs : signField b <;> rw [hs] at h
  · rw [if_pos (by change 1 = _ at h; omega)]
  · rw [if_neg (by change 0 = _ at h; omega)]

/-- Bits with the same fields up to the sign stand for doubles that differ in nothing else. -/
theorem unpack_neg {a b : BitVec 64} (hs : signField b = -signField a)
    (he : exponentField b = exponentField a) (hm : fractionField b = fractionField a) :
    unpack Format.binary64 b = (unpack Format.binary64 a).neg := by
  unfold unpack
  simp only [signField, exponentField, fractionField] at hs he hm
  simp only [hs, he, hm]
  split_ifs <;> rfl

/-! ## Doubles as bits -/

theorem ofMagnitude_magnitude (x : Float) : ofMagnitude (isNegative x) (magnitude x) = x := by
  have hlt : x.toBits.toNat < 2 ^ 64 := x.toBits.toNat_lt
  have hbits : UInt64.ofNat (if isNegative x then twoTo 63 + magnitude x else magnitude x) =
      x.toBits := by
    apply UInt64.toNat_inj.1
    simp only [isNegative, magnitude, twoTo_63, decide_eq_true_eq, UInt64.toNat_ofNat']
    split_ifs <;> omega
  unfold ofMagnitude
  rw [hbits, Float.ofBits_toBits]

theorem infinityMagnitude_eq : infinityMagnitude = 2047 * 2 ^ 52 := by
  rw [infinityMagnitude, twoTo_52]

/-- The bits of a sign and a magnitude. -/
def magnitudeBits (negative : Bool) (M : ℕ) : BitVec 64 :=
  BitVec.ofNat 64 (if negative then twoTo 63 + M else M)

theorem toNat_magnitudeBits {M : ℕ} (h : M ≤ infinityMagnitude) (negative : Bool) :
    (magnitudeBits negative M).toNat = if negative then 2 ^ 63 + M else M := by
  have hinf := infinityMagnitude_eq
  rw [magnitudeBits, BitVec.toNat_ofNat, twoTo_63]
  split_ifs <;> omega

theorem valid_magnitudeBits {M : ℕ} (h : M ≤ infinityMagnitude) (negative : Bool) :
    Format.binary64.Valid (magnitudeBits negative M) := by
  have hinf := infinityMagnitude_eq
  have hbits := toNat_magnitudeBits h negative
  refine ⟨fun hexp hfrac => absurd ?_ hfrac⟩
  have he : (magnitudeBits negative M).toNat / 2 ^ 52 % 2 ^ 11 = 2047 := by
    rw [← toNat_exponentField, exponentField, hexp]
    rfl
  apply BitVec.eq_of_toNat_eq
  change (fractionField (magnitudeBits negative M)).toNat = 0
  rw [toNat_fractionField]
  split_ifs at hbits <;> omega

/-- Changing the sign changes the sign bit and nothing else. -/
theorem neg_ofMagnitude {M : ℕ} (h : M ≤ infinityMagnitude) :
    -ofMagnitude false M = ofMagnitude true M := by
  have hinf := infinityMagnitude_eq
  have hpos : (magnitudeBits false M).toNat = M := toNat_magnitudeBits h false
  have hneg : (magnitudeBits true M).toNat = 2 ^ 63 + M := toNat_magnitudeBits h true
  have hn : unpack Format.binary64 (magnitudeBits true M) =
      (unpack Format.binary64 (magnitudeBits false M)).neg := by
    apply unpack_neg
    · rw [signField_eq, signField_eq, hpos, hneg, if_pos (by omega), if_neg (by omega)]
      rfl
    · apply BitVec.eq_of_toNat_eq
      rw [toNat_exponentField, toNat_exponentField, hpos, hneg]
      omega
    · apply BitVec.eq_of_toNat_eq
      rw [toNat_fractionField, toNat_fractionField, hpos, hneg]
      omega
  have hp := pack_unpack_of_valid (valid_magnitudeBits h false)
  change Float.ofModel (.pack (unpack Format.binary64 (pack Format.binary64
      (unpack Format.binary64 (magnitudeBits false M)))).neg) =
    .ofModel (.pack (unpack Format.binary64 (magnitudeBits true M)))
  rw [hp, hn]

/-! ## Finite doubles and zero -/

theorem exponentField_toBits (x : Float) :
    (exponentField x.toBits.toBitVec).toNat = magnitude x / 2 ^ 52 := by
  have hx : x.toBits.toNat < 2 ^ 64 := x.toBits.toNat_lt
  rw [toNat_exponentField, magnitude, twoTo_63]
  change x.toBits.toNat / 2 ^ 52 % 2 ^ 11 = _
  omega

theorem isFinite_iff (x : Float) : x.isFinite ↔ magnitude x < infinityMagnitude := by
  have he := exponentField_toBits x
  have hmax : exponentField x.toBits.toBitVec = -1#11 ↔ ¬ magnitude x < infinityMagnitude := by
    have hx : magnitude x < 2 ^ 63 := twoTo_63 ▸ Nat.mod_lt _ (twoTo_pos 63)
    rw [← BitVec.toNat_inj, he, infinityMagnitude_eq]
    change magnitude x / 2 ^ 52 = 2047 ↔ _
    omega
  change (unpack Format.binary64 x.toBits.toBitVec).isFinite = true ↔ _
  unfold unpack
  dsimp only
  split_ifs <;> simp_all [Float.Model.UnpackedFloat.isFinite]

/-- The two zeros are the doubles that equal zero. -/
theorem beq_zero_iff (x : Float) : (x == 0) = true ↔ magnitude x = 0 := by
  have hx : x.toBits.toNat < 2 ^ 64 := x.toBits.toNat_lt
  have hzero : (0 : Float).toBits.toNat = 0 := rfl
  have hneg : (-0 : Float).toBits.toNat = 2 ^ 63 := rfl
  have hnan : Float.nan.toBits.toNat = 4095 * 2 ^ 51 := rfl
  rw [Float.beq_iff_ne_nan_and_eq]
  simp only [ne_eq, ← Float.toBits_inj, ← UInt64.toNat_inj, hzero, hneg, hnan, and_true, magnitude,
    twoTo_63]
  omega

theorem zero_eq_ofMagnitude : (0 : Float) = ofMagnitude false 0 := by
  rfl

end GrowthGrammar.Number
