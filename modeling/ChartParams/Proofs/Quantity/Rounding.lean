import ChartParams.Quantity.Basic
import Mathlib.Algebra.Order.Field.Power
import Mathlib.Algebra.Order.Field.Rat
import Mathlib.Data.Rat.Floor
import Mathlib.Tactic.Linarith
import Mathlib.Tactic.Positivity
import Mathlib.Tactic.Ring

/-!
# Rounding away from zero

A whole number times a power of ten is computed in words of 128 bits and rounded away from zero. The
result is the exact one whenever it is a word of 64 bits, except that zero is not multiplied by a
power of ten that is no word. If the power of ten is too large to divide by, the sign is the exact
result, as the number is then smaller than the power.
-/

namespace ChartParams

/-- The whole number next to a number, on the side away from zero. -/
def roundAway (x : ℚ) : Int := if 0 ≤ x then ⌈x⌉ else ⌊x⌋

theorem roundAway_intCast (n : Int) : roundAway n = n := by
  rw [roundAway, Int.ceil_intCast, Int.floor_intCast, ite_self]

theorem roundAway_neg (x : ℚ) : roundAway (-x) = -roundAway x := by
  rcases lt_trichotomy x 0 with negative | rfl | positive
  · rw [roundAway, roundAway, if_pos (by linarith), if_neg (by linarith), Int.ceil_neg]
  · rfl
  · rw [roundAway, roundAway, if_neg (by linarith), if_pos (by linarith), Int.floor_neg]

theorem abs_le_abs_roundAway (x : ℚ) : |x| ≤ |(roundAway x : ℚ)| := by
  rw [roundAway]
  split
  · rename_i nonneg
    exact abs_le_abs_of_nonneg nonneg (Int.le_ceil x)
  · rename_i negative
    exact abs_le_abs_of_nonpos (le_of_not_ge negative) (Int.floor_le x)

/-- A number of more than 64 bits is no word, whichever way it is rounded. -/
theorem not_isSignedWord_roundAway {x : ℚ} (large : 10 ^ 39 ≤ |x|) :
    ¬IsSignedWord (roundAway x) := by
  intro fits
  have size : (10 : ℚ) ^ 39 ≤ |(roundAway x : ℚ)| := large.trans (abs_le_abs_roundAway x)
  rw [← Int.cast_abs] at size
  have whole : (10 : Int) ^ 39 ≤ |roundAway x| := by exact_mod_cast size
  rw [Int.abs_eq_natAbs] at whole
  omega

namespace Quantity

/-! ## Quotients -/

theorem divideAway_neg (num den : Int) : divideAway (-num) den = -divideAway num den := by
  simp only [divideAway, Int.neg_tmod, Int.neg_tdiv, Int.sign_neg, neg_eq_zero]
  split <;> ring

theorem roundAway_div (num : Int) {den : Int} (positive : 0 < den) :
    roundAway (num / den) = divideAway num den := by
  have positiveCast : (0 : ℚ) < den := Int.cast_pos.mpr positive
  have ofNonneg : ∀ num : Int, 0 ≤ num → roundAway (num / den) = divideAway num den := by
    intro num nonneg
    have isSum := Int.tmod_add_tdiv_mul num den
    have low := Int.tmod_nonneg den nonneg
    have high := Int.tmod_lt_of_pos num positive
    rw [roundAway, if_pos (div_nonneg (Int.cast_nonneg nonneg) positiveCast.le), Int.ceil_eq_iff,
      lt_div_iff₀ positiveCast, div_le_iff₀ positiveCast, divideAway]
    norm_cast
    split
    · constructor <;> linarith
    · rename_i remains
      have notZero : num ≠ 0 := by
        rintro rfl
        exact remains (Int.zero_tmod den)
      have someRemains : 0 < num.tmod den := lt_of_le_of_ne low (Ne.symm remains)
      rw [Int.sign_eq_one_of_pos (by omega)]
      constructor <;> linarith
  rcases Int.le_total 0 num with nonneg | nonpos
  · exact ofNonneg num nonneg
  · have mirrored := ofNonneg (-num) (Int.neg_nonneg_of_nonpos nonpos)
    rw [Int.cast_neg, neg_div, roundAway_neg, divideAway_neg] at mirrored
    exact neg_inj.mp mirrored

theorem divideAway_of_lt {num den : Int} (small : |num| < den) : divideAway num den = num.sign := by
  have ofNonneg : ∀ num : Int, 0 ≤ num → num < den → divideAway num den = num.sign := by
    intro num nonneg below
    rw [divideAway, Int.tdiv_eq_zero_of_lt nonneg below, Int.tmod_eq_of_lt nonneg below, zero_add]
    split
    · rename_i isZero
      rw [isZero, Int.sign_zero]
    · rfl
  obtain ⟨low, high⟩ := abs_lt.mp small
  rcases Int.le_total 0 num with nonneg | nonpos
  · exact ofNonneg num nonneg high
  · have mirrored := ofNonneg (-num) (by omega) (by omega)
    rw [divideAway_neg, Int.sign_neg] at mirrored
    exact neg_inj.mp mirrored

/-! ## Powers of ten -/

theorem le_abs_mul_power {num power : Int} (nonzero : num ≠ 0) (high : 39 ≤ power) :
    (10 : ℚ) ^ 39 ≤ |(num : ℚ) * 10 ^ power| := by
  have atLeastOne : (1 : ℚ) ≤ |(num : ℚ)| := by exact_mod_cast Int.one_le_abs nonzero
  have largePower : (10 : ℚ) ^ (39 : Int) ≤ 10 ^ power := zpow_le_zpow_right₀ (by norm_num) high
  have positivePower : (0 : ℚ) < 10 ^ power := zpow_pos (by norm_num) power
  rw [abs_mul, abs_of_pos positivePower]
  calc (10 : ℚ) ^ 39 ≤ 10 ^ power := largePower
    _ ≤ |(num : ℚ)| * 10 ^ power := le_mul_of_one_le_left positivePower.le atLeastOne

theorem roundAway_mul_pow (num : Int) (places : Nat) :
    roundAway (num * 10 ^ (places : Int)) = num * 10 ^ places := by
  have isWhole : (num : ℚ) * 10 ^ (places : Int) = ((num * 10 ^ places : Int) : ℚ) := by
    rw [zpow_natCast]
    push_cast
    rfl
  rw [isWhole, roundAway_intCast]

theorem roundAway_div_pow (num : Int) (places : Nat) :
    roundAway (num * 10 ^ (-places : Int)) = divideAway num (10 ^ places) := by
  have isQuotient : (num : ℚ) * 10 ^ (-places : Int) = num / ((10 ^ places : Int) : ℚ) := by
    rw [zpow_neg, zpow_natCast, div_eq_mul_inv]
    push_cast
    rfl
  rw [isQuotient, roundAway_div num (by positivity)]

/-- A number of 128 bits leaves its sign if it is divided by a power of ten that is larger. -/
theorem roundAway_of_low {num : Int} (inRange : IsSignedLongWord num) {places : Nat}
    (low : 39 ≤ places) : roundAway (num * 10 ^ (-places : Int)) = num.sign := by
  have large : (10 : Int) ^ 39 ≤ 10 ^ places := by
    exact_mod_cast Nat.pow_le_pow_right (by norm_num) low
  rw [roundAway_div_pow, divideAway_of_lt (abs_lt.mpr (by omega))]

/-! ## Steps of a conversion -/

theorem inRange?_eq_some_iff {n m : Int} : inRange? n = some m ↔ IsSignedLongWord n ∧ m = n := by
  rw [inRange?, Option.ite_none_right_eq_some, Option.some_inj, eq_comm (a := n)]

theorem powerOfTen?_eq_some_iff {exponent : Nat} {factor : Int} :
    powerOfTen? exponent = some factor ↔ exponent ≤ 38 ∧ factor = 10 ^ exponent := by
  rw [powerOfTen?, Option.ite_none_right_eq_some, Option.some_inj, eq_comm (b := factor)]
  norm_num

theorem rescale?_of_nonneg {num power : Int} (nonneg : 0 ≤ power) :
    rescale? num power =
      (powerOfTen? power.toNat).bind fun factor => (inRange? (num * factor)).bind int64? := by
  rw [rescale?, if_pos nonneg]
  rfl

theorem rescale?_of_neg {num power : Int} (negative : ¬0 ≤ power) :
    rescale? num power =
      int64? (((powerOfTen? power.natAbs).map (divideAway num)).getD num.sign) := by
  rw [rescale?, if_neg negative]
  cases powerOfTen? power.natAbs <;> rfl

/-- A word is rescaled to the rounded number, except that zero is not multiplied by a power of ten
that is no word. -/
theorem rescale?_eq_some_iff {num power : Int} (inRange : IsSignedLongWord num) {n : Int64} :
    rescale? num power = some n ↔
      (num = 0 → power ≤ 38) ∧ n.toInt = roundAway (num * 10 ^ power) := by
  by_cases nonneg : 0 ≤ power
  · obtain ⟨places, rfl⟩ := Int.eq_ofNat_of_zero_le nonneg
    simp only [rescale?_of_nonneg nonneg, Option.bind_eq_some_iff, powerOfTen?_eq_some_iff,
      inRange?_eq_some_iff, int64?_eq_some_iff, Int.toNat_natCast]
    constructor
    · rintro ⟨factor, ⟨small, rfl⟩, result, ⟨-, rfl⟩, isResult⟩
      exact ⟨fun _ => by omega, by rw [isResult, roundAway_mul_pow]⟩
    · rintro ⟨room, isRounded⟩
      have fits := isSignedWord_toInt n
      have small : places ≤ 38 := by
        by_contra high
        have nonzero : num ≠ 0 := fun isZero => high (by exact_mod_cast room isZero)
        rw [isRounded] at fits
        exact not_isSignedWord_roundAway (le_abs_mul_power nonzero (by omega)) fits
      rw [roundAway_mul_pow] at isRounded
      have inRange : IsSignedLongWord (num * 10 ^ places) := by
        rw [← isRounded]
        omega
      exact ⟨_, ⟨small, rfl⟩, _, ⟨inRange, rfl⟩, isRounded⟩
  · obtain ⟨places, rfl⟩ : ∃ places : Nat, power = -places := ⟨power.natAbs, by omega⟩
    have isQuotient : ((powerOfTen? places).map (divideAway num)).getD num.sign =
        roundAway (num * 10 ^ (-places : Int)) := by
      rw [powerOfTen?]
      split
      · exact (roundAway_div_pow num places).symm
      · exact (roundAway_of_low inRange (by omega)).symm
    rw [rescale?_of_neg nonneg, Int.natAbs_neg, Int.natAbs_natCast, isQuotient,
      int64?_eq_some_iff]
    exact ⟨fun isRounded => ⟨fun _ => by omega, isRounded⟩, And.right⟩

end Quantity

end ChartParams
