import ChartParams.Numeric.Binary64

/-!
# Finite doubles

Rounding a ratio gives a finite double as long as the ratio is not close to the largest one. So
every whole number of a machine word is finite, and so is a thousandth of a finite number.
-/

namespace ChartParams

namespace Binary64

variable {num den : Nat}

theorem isFinite_ofMagnitude {magnitude : Nat} (negative : Bool)
    (small : magnitude < topExponent * fractionCount) :
    (ofMagnitude negative magnitude).isFinite = true := by
  simp only [topExponent, fractionCount] at small
  have bits : (ofMagnitude negative magnitude).bits.toNat =
      (if negative then signBit else 0) + magnitude := by
    apply UInt64.toNat_ofNat_of_lt'
    simp only [UInt64.size, signBit]
    split <;> omega
  simp only [isFinite, exponentField, bits, topExponent, fractionCount, signBit, bne_iff_ne]
  split <;> omega

theorem isFinite_zero (negative : Bool) : (zero negative).isFinite = true :=
  isFinite_ofMagnitude negative (by decide)

theorem roundQuotient_le (num den : Nat) : roundQuotient num den ≤ num / den + 1 := by
  simp only [roundQuotient]
  split <;> omega

/-- A ratio is less than two to the 53 once it is divided by the power of two that it is above. -/
theorem dividedByPower_lt {power : Int} (positive : 0 < den)
    (large : (num.log2 : Int) + 1 ≤ 53 + den.log2 + power) :
    (dividedByPower num den power).1 / (dividedByPower num den power).2 < 2 * fractionCount := by
  have numBound : num < 2 ^ (num.log2 + 1) := Nat.lt_log2_self
  have denBound : 2 ^ den.log2 ≤ den := Nat.log2_self_le (Nat.ne_of_gt positive)
  have scaledPositive : 0 < den * 2 ^ power.toNat := Nat.mul_pos positive (Nat.two_pow_pos _)
  simp only [dividedByPower, Nat.pow_eq]
  rw [Nat.div_lt_iff_lt_mul scaledPositive]
  calc num * 2 ^ (-power).toNat
      < 2 ^ (num.log2 + 1) * 2 ^ (-power).toNat :=
        Nat.mul_lt_mul_of_pos_right numBound (Nat.two_pow_pos _)
    _ = 2 ^ (num.log2 + 1 + (-power).toNat) := (Nat.pow_add ..).symm
    _ ≤ 2 ^ (53 + (den.log2 + power.toNat)) := Nat.pow_le_pow_right (by decide) (by omega)
    _ = 2 ^ 53 * (2 ^ den.log2 * 2 ^ power.toNat) := by rw [Nat.pow_add, Nat.pow_add]
    _ ≤ 2 ^ 53 * (den * 2 ^ power.toNat) :=
        Nat.mul_le_mul_left _ (Nat.mul_le_mul_right _ denBound)

theorem isFinite_ofRatio (negative : Bool) (positive : 0 < den)
    (small : num.log2 ≤ den.log2 + 1022) : (ofRatio negative num den).isFinite = true := by
  unfold ofRatio
  split
  · exact isFinite_zero negative
  · dsimp only
    generalize lowest : max (-1074) ((num.log2 : Int) - den.log2 - 53) = low
    generalize chosen : (if (dividedByPower num den low).1 / (dividedByPower num den low).2 <
      2 * fractionCount then low else low + 1) = power
    have quotient : (dividedByPower num den power).1 / (dividedByPower num den power).2 <
        2 * fractionCount := by
      split at chosen
      · rename_i fits
        exact chosen ▸ fits
      · exact dividedByPower_lt positive (by omega)
    have rounded := roundQuotient_le (dividedByPower num den power).1
      (dividedByPower num den power).2
    have bounded : power ≤ 970 := by
      split at chosen <;> omega
    have magnitude : (power + 1074).toNat * fractionCount +
        roundQuotient (dividedByPower num den power).1 (dividedByPower num den power).2 <
          topExponent * fractionCount := by
      simp only [fractionCount, topExponent] at quotient ⊢
      omega
    rw [if_pos magnitude]
    exact isFinite_ofMagnitude negative magnitude

theorem log2_lt_of_lt {exponent : Nat} (positive : 0 < exponent)
    (bounded : num < Nat.pow 2 exponent) : num.log2 < exponent := by
  by_cases isZero : num = 0
  · subst isZero
    exact positive
  · exact (Nat.log2_lt isZero).mpr bounded

theorem isFinite_ofInt {n : Int} (isWord : IsWord n) : (ofInt n).isFinite = true := by
  have bounded : n.natAbs < 2 ^ 65 := by omega
  have small := log2_lt_of_lt (by decide) bounded
  exact isFinite_ofRatio _ Nat.one_pos (by omega)

theorem significand_lt (x : Binary64) : x.significand < 2 * fractionCount := by
  have fraction : x.fractionField < fractionCount := Nat.mod_lt _ (by decide)
  simp only [significand, fractionCount] at fraction ⊢
  split <;> omega

theorem exponent_le {x : Binary64} (finite : x.isFinite = true) : x.exponent ≤ 971 := by
  have range : x.exponentField < topExponent + 1 := Nat.mod_lt _ (by decide)
  simp only [isFinite, bne_iff_ne, topExponent] at finite range
  simp only [exponent]
  omega

theorem isFinite_div_thousand {x : Binary64} (finite : x.isFinite = true) :
    (x.div (.ofInt 1000)).isFinite = true := by
  have bounded := exponent_le finite
  have thousand : (ofInt 1000).significand = 0x1F_4000_0000_0000 ∧ (ofInt 1000).exponent = -43 := by
    decide +kernel
  unfold div
  simp only [thousand.1, thousand.2, Nat.pow_eq]
  generalize scaled : (x.exponent - -43).toNat = up
  have scaledPositive := Nat.two_pow_pos (-(x.exponent - -43)).toNat
  apply isFinite_ofRatio
  · exact Nat.mul_pos (by decide) scaledPositive
  · have numerator : (x.significand * 2 ^ up).log2 < 53 + up := by
      apply log2_lt_of_lt (by omega)
      rw [Nat.pow_eq, Nat.pow_add]
      exact Nat.mul_lt_mul_of_pos_right x.significand_lt (Nat.two_pow_pos up)
    have denominator : 52 ≤ (0x1F_4000_0000_0000 * 2 ^ (-(x.exponent - -43)).toNat).log2 := by
      rw [Nat.le_log2 (by omega)]
      omega
    omega

end Binary64

end ChartParams
