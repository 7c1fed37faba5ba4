import Mathlib.Data.Nat.Log
import Mathlib.Tactic.Ring
import WalCheckpoint.Binary64

namespace WalCheckpoint.Binary64

/-! Numbers that are not too large have a finite float next to them. -/

theorem isInfinite_ofMagnitude {magnitude : Nat} (negative : Bool)
    (finite : magnitude < infinityMagnitude) :
    (ofMagnitude negative magnitude).isInfinite = false := by
  have bits : (ofMagnitude negative magnitude).bits.toNat =
      (if negative then signSize + magnitude else magnitude) := by
    rw [ofMagnitude, UInt64.toNat_ofNat']
    refine Nat.mod_eq_of_lt ?_
    rw [infinityMagnitude, fractionSize] at finite
    rw [signSize]
    split <;> omega
  have field : (if negative then signSize + magnitude else magnitude) / fractionSize % 2048 ≠
      2047 := by
    rw [infinityMagnitude, fractionSize] at finite
    rw [signSize, fractionSize]
    split <;> omega
  simp only [isInfinite, form, bits]
  generalize (if negative then signSize + magnitude else magnitude) = raw at field ⊢
  rw [if_neg field]
  by_cases subnormal : raw / fractionSize % 2048 = 0
  · rw [if_pos subnormal]
  · rw [if_neg subnormal]

theorem roundHalfEven_le (numerator denominator : Nat) :
    roundHalfEven numerator denominator ≤ numerator / denominator + 1 := by
  simp only [roundHalfEven]
  split
  · exact Nat.le_succ _
  · split
    · exact Nat.le_refl _
    · omega

/-- The exponent of the last bit leaves a mantissa of few bits. -/
theorem scale_lt {numerator denominator : Nat} (positive : 0 < denominator) {exponent : Int}
    (enough : (numerator.log2 : Int) - denominator.log2 - 53 ≤ exponent) :
    (scale numerator denominator exponent).1 <
      2 ^ 54 * (scale numerator denominator exponent).2 := by
  have above : numerator < 2 ^ (numerator.log2 + 1) := Nat.lt_log2_self
  have below : 2 ^ denominator.log2 ≤ denominator := Nat.log2_self_le (Nat.ne_of_gt positive)
  rw [scale]
  split
  · next fractional =>
      rw [Nat.shiftLeft_eq]
      calc numerator * 2 ^ exponent.natAbs
          < 2 ^ (numerator.log2 + 1) * 2 ^ exponent.natAbs :=
            Nat.mul_lt_mul_of_pos_right above (Nat.two_pow_pos _)
        _ = 2 ^ (numerator.log2 + 1 + exponent.natAbs) := (Nat.pow_add ..).symm
        _ ≤ 2 ^ (54 + denominator.log2) := Nat.pow_le_pow_right (by decide) (by omega)
        _ = 2 ^ 54 * 2 ^ denominator.log2 := Nat.pow_add ..
        _ ≤ 2 ^ 54 * denominator := Nat.mul_le_mul_left _ below
  · next whole =>
      rw [Nat.shiftLeft_eq]
      calc numerator
          < 2 ^ (numerator.log2 + 1) := above
        _ ≤ 2 ^ (54 + (denominator.log2 + exponent.natAbs)) :=
            Nat.pow_le_pow_right (by decide) (by omega)
        _ = 2 ^ 54 * (2 ^ denominator.log2 * 2 ^ exponent.natAbs) := by rw [Nat.pow_add, Nat.pow_add]
        _ ≤ 2 ^ 54 * (denominator * 2 ^ exponent.natAbs) :=
            Nat.mul_le_mul_left _ (Nat.mul_le_mul_right _ below)

theorem lastBit_bounds (numerator denominator : Nat) :
    (numerator.log2 : Int) - denominator.log2 - 53 ≤ lastBit numerator denominator ∧
      (lastBit numerator denominator ≤ numerator.log2 - 52 ∨
        lastBit numerator denominator = -1074) := by
  simp only [lastBit]
  split <;> omega

theorem isInfinite_ofRatio {numerator denominator : Nat} (negative : Bool)
    (fits : numerator < 2 ^ 64) (positive : 0 < denominator) :
    (ofRatio negative numerator denominator).isInfinite = false := by
  simp only [ofRatio]
  split
  · exact isInfinite_ofMagnitude negative (by decide)
  · next nonzero =>
      obtain ⟨enough, small⟩ := lastBit_bounds numerator denominator
      have mantissa := scale_lt positive enough
      have digits : numerator.log2 < 64 := (Nat.log2_lt (by omega)).mpr fits
      generalize lastBit numerator denominator = exponent at *
      generalize scale numerator denominator exponent = scaled at *
      have rounded := roundHalfEven_le scaled.1 scaled.2
      have quotient : scaled.1 / scaled.2 < 2 ^ 54 :=
        Nat.div_lt_of_lt_mul (by rwa [Nat.mul_comm])
      refine isInfinite_ofMagnitude negative (Nat.lt_of_le_of_lt (Nat.min_le_left ..) ?_)
      rw [infinityMagnitude, fractionSize]
      omega

theorem quotient?_eq_some {n : Int} {denominator : Nat} (fits : n.natAbs < 2 ^ 64)
    (positive : 0 < denominator) : quotient? n denominator = some (ofSignedRatio n denominator) := by
  rw [quotient?, ofSignedRatio, isInfinite_ofRatio _ fits positive]
  rfl

end WalCheckpoint.Binary64
