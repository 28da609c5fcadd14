import BankFeed.Decimal.Basic
import Mathlib.Algebra.Order.Field.Power
import Mathlib.Algebra.Order.Ring.Rat
import Mathlib.Data.Nat.Log
import Mathlib.Tactic.FieldSimp
import Mathlib.Tactic.Positivity
import Mathlib.Tactic.Ring

/-!
# The value of a decimal

A decimal stands for a rational number, and many decimals stand for the same one. The order of
decimals is that of their values, however far apart the scales are.
-/

namespace BankFeed
namespace Decimal

def value (d : Decimal) : ℚ :=
  d.coefficient * 10 ^ (-d.scale)

/-!
## Digits
-/

theorem digitCount_eq_log (n : Nat) : digitCount n = Nat.log 10 n + 1 := by
  induction n using Nat.strongRecOn with
  | ind n ih =>
      unfold digitCount at ih ⊢
      by_cases hn : n < 10
      · rw [Nat.toDigits_of_lt_base hn, Nat.log_of_lt hn]
        rfl
      · rw [Nat.toDigits_of_base_le (by decide) (by omega), List.length_append,
          ih (n / 10) (by omega), Nat.log_of_one_lt_of_le (b := 10) (n := n) (by decide) (by omega)]
        rfl

theorem lt_pow_digitCount (n : Nat) : n < 10 ^ digitCount n := by
  rw [digitCount_eq_log]
  exact Nat.lt_pow_succ_log_self (by decide) n

theorem pow_digitCount_le {n : Nat} (h : 0 < n) : 10 ^ digitCount n ≤ 10 * n := by
  rw [digitCount_eq_log, Nat.pow_succ, Nat.mul_comm]
  exact Nat.mul_le_mul_left 10 (Nat.pow_log_le_self 10 (by omega))

/-!
## Magnitudes
-/

section Magnitudes

variable {m n : Nat} {s t : Int}

def magnitude (m : Nat) (s : Int) : ℚ :=
  m * 10 ^ (-s)

theorem magnitude_lt : magnitude m s < 10 ^ (digitCount m - s : Int) := by
  have hlt : (m : ℚ) < 10 ^ digitCount m := by exact_mod_cast lt_pow_digitCount m
  calc magnitude m s
      < 10 ^ digitCount m * 10 ^ (-s) := mul_lt_mul_of_pos_right hlt (by positivity)
    _ = 10 ^ (digitCount m - s : Int) := by
        rw [sub_eq_add_neg, zpow_add₀ (by norm_num), zpow_natCast]

theorem le_magnitude (hm : 0 < m) : 10 ^ (digitCount m - s - 1 : Int) ≤ magnitude m s := by
  have hle : (10 : ℚ) ^ digitCount m ≤ 10 * m := by exact_mod_cast pow_digitCount_le hm
  calc (10 : ℚ) ^ (digitCount m - s - 1 : Int)
      = 10 ^ digitCount m * 10 ^ (-s) / 10 := by
        rw [zpow_sub_one₀ (by norm_num), sub_eq_add_neg, zpow_add₀ (by norm_num), zpow_natCast,
          div_eq_mul_inv]
    _ ≤ 10 * m * 10 ^ (-s) / 10 := by gcongr
    _ = magnitude m s := by
        unfold magnitude
        ring

theorem magnitude_lt_of_place_lt (hn : 0 < n) (h : digitCount m - s < digitCount n - t) :
    magnitude m s < magnitude n t :=
  calc magnitude m s
      < 10 ^ (digitCount m - s : Int) := magnitude_lt
    _ ≤ 10 ^ (digitCount n - t - 1 : Int) := zpow_le_zpow_right₀ (by norm_num) (by omega)
    _ ≤ magnitude n t := le_magnitude hn

theorem magnitude_eq_mul (m : Nat) (s : Int) (k : Nat) :
    magnitude m s = magnitude (m * 10 ^ k) (s + k) := by
  unfold magnitude
  rw [neg_add, zpow_add₀ (by norm_num), zpow_neg 10 (k : Int), zpow_natCast]
  push_cast
  field_simp

theorem compare_magnitude_of_scale_eq : compare (magnitude m s) (magnitude n s) = compare m n := by
  have hpos : (0 : ℚ) < 10 ^ (-s) := by positivity
  unfold magnitude
  rcases Nat.lt_trichotomy m n with hlt | heq | hgt
  · rw [compare_lt_iff_lt.mpr hlt, compare_lt_iff_lt]
    exact mul_lt_mul_of_pos_right (by exact_mod_cast hlt) hpos
  · rw [heq, compare_eq_iff_eq.mpr rfl, compare_eq_iff_eq.mpr rfl]
  · rw [compare_gt_iff_gt.mpr hgt, compare_gt_iff_gt]
    exact mul_lt_mul_of_pos_right (by exact_mod_cast hgt) hpos

theorem compareMagnitudes_eq (hm : 0 < m) (hn : 0 < n) :
    compareMagnitudes m s n t = compare (magnitude m s) (magnitude n t) := by
  unfold compareMagnitudes
  rcases Int.lt_trichotomy (digitCount m - s) (digitCount n - t) with hlt | heq | hgt
  · rw [compare_lt_iff_lt.mpr hlt, compare_lt_iff_lt.mpr (magnitude_lt_of_place_lt hn hlt)]
    rfl
  · rw [compare_eq_iff_eq.mpr heq]
    have hscale : s + (digitCount n - digitCount m : Nat) =
        t + (digitCount m - digitCount n : Nat) := by omega
    rw [magnitude_eq_mul m s (digitCount n - digitCount m), hscale,
      magnitude_eq_mul n t (digitCount m - digitCount n), compare_magnitude_of_scale_eq]
    rfl
  · rw [compare_gt_iff_gt.mpr hgt, compare_gt_iff_gt.mpr (magnitude_lt_of_place_lt hm hgt)]
    rfl

end Magnitudes

/-!
## Decimals
-/

variable {a b d : Decimal}

theorem scaleFactor_pos (d : Decimal) : (0 : ℚ) < 10 ^ (-d.scale) := by
  positivity

theorem value_of_nonneg (h : 0 ≤ d.coefficient) :
    d.value = magnitude d.coefficient.natAbs d.scale := by
  have hcast : (d.coefficient.natAbs : ℚ) = d.coefficient := by
    rw [← Int.cast_natCast, Int.natAbs_of_nonneg h]
  unfold value magnitude
  rw [hcast]

theorem value_of_nonpos (h : d.coefficient ≤ 0) :
    d.value = -magnitude d.coefficient.natAbs d.scale := by
  have hcast : (d.coefficient.natAbs : ℚ) = -d.coefficient := by
    rw [← Int.cast_natCast, Int.ofNat_natAbs_of_nonpos h, Int.cast_neg]
  unfold value magnitude
  rw [hcast, neg_mul, neg_neg]

theorem value_eq_zero_iff : d.value = 0 ↔ d.coefficient = 0 := by
  unfold value
  rw [mul_eq_zero_iff_right d.scaleFactor_pos.ne', Int.cast_eq_zero]

theorem value_neg_iff : d.value < 0 ↔ d.coefficient < 0 := by
  unfold value
  rw [Rat.mul_neg_iff_of_pos_right d.scaleFactor_pos, Int.cast_lt_zero]

theorem value_pos_iff : 0 < d.value ↔ 0 < d.coefficient := by
  unfold value
  rw [mul_pos_iff_of_pos_right d.scaleFactor_pos, Int.cast_pos]

theorem value_lt_of_sign_lt (h : a.coefficient.sign < b.coefficient.sign) : a.value < b.value := by
  rcases Int.lt_trichotomy a.coefficient 0 with ha | ha | ha
  · have hb : 0 ≤ b.coefficient := by
      by_contra hb
      rw [Int.sign_eq_neg_one_of_neg ha, Int.sign_eq_neg_one_of_neg (by omega)] at h
      exact absurd h (by decide)
    exact lt_of_lt_of_le (value_neg_iff.mpr ha) (not_lt.mp (value_neg_iff.not.mpr (by omega)))
  · have hb : 0 < b.coefficient := by
      rw [ha, Int.sign_zero] at h
      exact Int.sign_pos_iff.mp h
    rw [value_eq_zero_iff.mpr ha]
    exact value_pos_iff.mpr hb
  · rw [Int.sign_eq_one_of_pos ha] at h
    rcases Int.sign_trichotomy b.coefficient with hb | hb | hb <;> rw [hb] at h <;>
      exact absurd h (by decide)

theorem compare_neg_neg (x y : ℚ) : compare (-x) (-y) = (compare x y).swap := by
  rcases lt_trichotomy x y with hlt | heq | hgt
  · rw [compare_lt_iff_lt.mpr hlt, compare_gt_iff_gt.mpr (neg_lt_neg hlt)]
    rfl
  · rw [heq, compare_eq_iff_eq.mpr rfl, compare_eq_iff_eq.mpr rfl]
    rfl
  · rw [compare_gt_iff_gt.mpr hgt, compare_lt_iff_lt.mpr (neg_lt_neg hgt)]
    rfl

theorem compare_value_of_sign_eq (h : a.coefficient.sign = b.coefficient.sign)
    (ha : a.coefficient ≠ 0) :
    compare a.value b.value =
      let order :=
        compareMagnitudes a.coefficient.natAbs a.scale b.coefficient.natAbs b.scale
      if 0 < a.coefficient then order else order.swap := by
  have hb : b.coefficient ≠ 0 := by
    intro hb
    rw [hb, Int.sign_zero] at h
    exact ha (Int.sign_eq_zero_iff_zero.mp h)
  rw [compareMagnitudes_eq (Int.natAbs_pos.mpr ha) (Int.natAbs_pos.mpr hb)]
  by_cases hpos : 0 < a.coefficient
  · have hbpos : 0 < b.coefficient := by
      rw [Int.sign_eq_one_of_pos hpos] at h
      exact Int.sign_eq_one_iff_pos.mp h.symm
    rw [value_of_nonneg hpos.le, value_of_nonneg hbpos.le]
    simp only [if_pos hpos]
  · have hbneg : b.coefficient < 0 := by
      rw [Int.sign_eq_neg_one_of_neg (by omega)] at h
      exact Int.sign_eq_neg_one_iff_neg.mp h.symm
    rw [value_of_nonpos (by omega), value_of_nonpos hbneg.le, compare_neg_neg]
    simp only [if_neg hpos]

/-- Decimals are ordered by value. -/
theorem cmp_eq_compare (a b : Decimal) : a.cmp b = compare a.value b.value := by
  unfold cmp
  rcases Int.lt_trichotomy a.coefficient.sign b.coefficient.sign with hlt | heq | hgt
  · rw [compare_lt_iff_lt.mpr hlt, compare_lt_iff_lt.mpr (value_lt_of_sign_lt hlt)]
  · rw [compare_eq_iff_eq.mpr heq]
    by_cases hzero : a.coefficient = 0
    · have hb : b.coefficient = 0 := by
        rw [hzero, Int.sign_zero] at heq
        exact Int.sign_eq_zero_iff_zero.mp heq.symm
      simp only [if_pos hzero]
      rw [value_eq_zero_iff.mpr hzero, value_eq_zero_iff.mpr hb, compare_eq_iff_eq.mpr rfl]
    · simp only [if_neg hzero]
      exact (compare_value_of_sign_eq heq hzero).symm
  · rw [compare_gt_iff_gt.mpr hgt, compare_gt_iff_gt.mpr (value_lt_of_sign_lt hgt)]

theorem cmp_congr_right {b' : Decimal} (h : b.value = b'.value) : a.cmp b = a.cmp b' := by
  rw [cmp_eq_compare, cmp_eq_compare, h]

end Decimal
end BankFeed
