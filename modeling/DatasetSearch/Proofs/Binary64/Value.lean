import DatasetSearch.Binary64.Basic
import Mathlib.Algebra.Order.Field.Power
import Mathlib.Data.Rat.Cast.Order
import Mathlib.Tactic.Linarith
import Mathlib.Tactic.NormNum
import Mathlib.Tactic.Positivity

/-!
# The value of a floating-point number

A finite number stands for the rational number `toRat`. Its sign is that of the number
(`toRat_nonneg_iff`, `toRat_pos_iff`), and the fraction `ratio` is its absolute value
(`ratio_div_eq`). From `2 ^ 53` on the numbers are whole, so none of them lies between a natural
number of that size and the one before it (`toRat_le_sub_one`).
-/

set_option autoImplicit false
set_option relaxedAutoImplicit false

namespace DatasetSearch.Binary64

variable (x : Binary64)

/-- The rational number that a finite number stands for. -/
def toRat : ℚ :=
  (if x.negative then -1 else 1) * (x.significand * 2 ^ x.scale)

theorem isFinite_eq_false_iff :
    x.isFinite = false ↔ x.isNaN = true ∨ x.isInfinite = true := by
  simp only [isFinite, isNaN, isInfinite, bne_eq_false_iff_eq, Bool.and_eq_true, beq_iff_eq,
    bne_iff_ne]
  omega

/-! ### fractions -/

theorem ratio_snd_pos : 0 < x.ratio.2 := by
  rw [ratio, Nat.one_shiftLeft]
  positivity

theorem ratio_div_eq : (x.ratio.1 : ℚ) / x.ratio.2 = x.significand * 2 ^ x.scale := by
  have hscale : x.scale = x.scale.toNat - (-x.scale).toNat := (Int.toNat_sub_toNat_neg _).symm
  have hpower : (2 : ℚ) ^ x.scale = 2 ^ x.scale.toNat / 2 ^ (-x.scale).toNat := by
    conv_lhs => rw [hscale]
    rw [zpow_sub₀ two_ne_zero, zpow_natCast, zpow_natCast]
  rw [hpower, ratio, Nat.shiftLeft_eq, Nat.one_shiftLeft]
  push_cast
  rw [mul_div_assoc]

theorem significand_lt : x.significand < 2 ^ 53 := by
  have hfraction : x.fraction.val < 2 ^ 52 := x.fraction.isLt
  unfold significand
  split <;> omega

/-! ### signs -/

theorem significand_eq_zero_iff : x.significand = 0 ↔ x.isZero = true := by
  rw [isZero, Bool.and_eq_true, beq_iff_eq, beq_iff_eq]
  unfold significand
  split <;> omega

theorem magnitude_nonneg : (0 : ℚ) ≤ x.significand * 2 ^ x.scale := by
  positivity

theorem magnitude_eq_zero_iff : (x.significand * 2 ^ x.scale : ℚ) = 0 ↔ x.isZero = true := by
  have hpower : (2 : ℚ) ^ x.scale ≠ 0 := zpow_ne_zero _ two_ne_zero
  rw [mul_eq_zero, or_iff_left hpower, Nat.cast_eq_zero, significand_eq_zero_iff]

theorem toRat_of_not_negative (hsign : x.negative = false) :
    x.toRat = x.significand * 2 ^ x.scale := by
  rw [toRat, hsign, if_neg Bool.false_ne_true, one_mul]

theorem toRat_of_negative (hsign : x.negative = true) :
    x.toRat = -(x.significand * 2 ^ x.scale) := by
  rw [toRat, hsign, if_pos rfl, neg_one_mul]

/-- Numbers are not below zero if they have no minus sign or are zero all the same. -/
theorem toRat_nonneg_iff : 0 ≤ x.toRat ↔ x.negative = false ∨ x.isZero = true := by
  cases hsign : x.negative with
  | false => simpa [x.toRat_of_not_negative hsign] using x.magnitude_nonneg
  | true =>
    rw [x.toRat_of_negative hsign, neg_nonneg, ← magnitude_eq_zero_iff,
      or_iff_right Bool.true_eq_false.mp]
    exact ⟨fun hle ↦ le_antisymm hle x.magnitude_nonneg, le_of_eq⟩

/-- A number that is not below zero is its own absolute value. -/
theorem ratio_div_eq_toRat (hnonneg : 0 ≤ x.toRat) : (x.ratio.1 : ℚ) / x.ratio.2 = x.toRat := by
  rw [ratio_div_eq]
  cases hsign : x.negative with
  | false => exact (x.toRat_of_not_negative hsign).symm
  | true =>
    rw [x.toRat_of_negative hsign] at hnonneg ⊢
    have hmagnitude := x.magnitude_nonneg
    linarith

theorem toRat_pos_of_isPositive (hpositive : x.isPositive = true) : 0 < x.toRat := by
  simp only [isPositive, Bool.and_eq_true, Bool.not_eq_true'] at hpositive
  rw [x.toRat_of_not_negative hpositive.1.1]
  refine lt_of_le_of_ne x.magnitude_nonneg fun hzero ↦ ?_
  have hisZero := x.magnitude_eq_zero_iff.mp hzero.symm
  rw [hpositive.1.2] at hisZero
  cases hisZero

/-! ### whole numbers -/

/-- A number with a fraction is below `2 ^ 53`. -/
theorem exists_nat_of_le (hlarge : 2 ^ 53 ≤ x.toRat) : ∃ n : ℕ, x.toRat = n := by
  have hsign : x.negative = false := by
    by_contra hminus
    rw [x.toRat_of_negative (by simpa using hminus)] at hlarge
    have hmagnitude := x.magnitude_nonneg
    linarith
  rw [x.toRat_of_not_negative hsign] at hlarge ⊢
  have hscale : 0 ≤ x.scale := by
    by_contra hfraction
    have hpower : (2 : ℚ) ^ x.scale ≤ 1 := zpow_le_one_of_nonpos₀ one_le_two (by omega)
    have hsignificand : (x.significand : ℚ) < 2 ^ 53 := by exact_mod_cast x.significand_lt
    have hproduct : (x.significand : ℚ) * 2 ^ x.scale ≤ x.significand :=
      mul_le_of_le_one_right (Nat.cast_nonneg _) hpower
    linarith
  obtain ⟨power, hpower⟩ := Int.eq_ofNat_of_zero_le hscale
  refine ⟨x.significand * 2 ^ power, ?_⟩
  rw [hpower]
  push_cast
  rw [zpow_natCast]

/-- No number lies strictly between a large natural number and the one before it. -/
theorem toRat_le_sub_one (bound : ℕ) (hbound : 2 ^ 53 < bound) (hlt : x.toRat < bound) :
    x.toRat ≤ bound - 1 := by
  have hcast : (2 : ℚ) ^ 53 ≤ bound - 1 := by
    have hnat : (2 : ℚ) ^ 53 + 1 ≤ bound := by exact_mod_cast hbound
    linarith
  rcases le_or_gt (2 ^ 53) x.toRat with hlarge | hsmall
  · obtain ⟨n, hn⟩ := x.exists_nat_of_le hlarge
    rw [hn] at hlt ⊢
    have hsucc : n + 1 ≤ bound := by exact_mod_cast hlt
    have hsucc' : (n : ℚ) + 1 ≤ bound := by exact_mod_cast hsucc
    linarith
  · exact le_trans hsmall.le hcast

end DatasetSearch.Binary64
