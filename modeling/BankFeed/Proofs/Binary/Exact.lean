import BankFeed.Binary.Double
import BankFeed.Proofs.Decimal.Written

/-!
# The exact value of a double

Every double is a decimal: a power of two below the point is a power of five divided by one of
ten. The significand is made odd before that, unless the double is an integer or a denormal
number, so no place is written in vain.
-/

namespace BankFeed
namespace Binary64

open Decimal (signed)

def magnitude (x : Binary64) : ℚ :=
  x.significand * 2 ^ x.exponent

def value (x : Binary64) : ℚ :=
  if x.negative then -x.magnitude else x.magnitude

/-!
## Odd significands
-/

theorem lighten_value (steps m : Nat) (e : Int) :
    ((lighten steps m e).1 : ℚ) * 2 ^ (lighten steps m e).2 = m * 2 ^ e := by
  induction steps generalizing m e with
  | zero => rfl
  | succ steps ih =>
      unfold lighten
      split
      · next h =>
          have hhalf : m = 2 * (m / 2) := by omega
          have hcast : (m : ℚ) = 2 * (m / 2 : Nat) := by exact_mod_cast hhalf
          rw [ih, hcast, zpow_add_one₀ (by norm_num)]
          ring
      · rfl

theorem lighten_pos (steps : Nat) {m : Nat} (e : Int) (h : 0 < m) :
    0 < (lighten steps m e).1 := by
  induction steps generalizing m e with
  | zero => exact h
  | succ steps ih =>
      unfold lighten
      split
      · exact ih _ (by omega)
      · exact h

theorem lighten_le (steps m : Nat) (e : Int) : (lighten steps m e).1 ≤ m := by
  induction steps generalizing m e with
  | zero => exact Nat.le_refl m
  | succ steps ih =>
      unfold lighten
      split
      · exact Nat.le_trans (ih _ _) (Nat.div_le_self m 2)
      · exact Nat.le_refl m

theorem lighten_odd {steps m : Nat} (e : Int) (hpos : 0 < m) (h : m < 2 ^ steps) :
    0 ≤ (lighten steps m e).2 ∨ (lighten steps m e).1 % 2 = 1 := by
  induction steps generalizing m e with
  | zero => omega
  | succ steps ih =>
      unfold lighten
      split
      · exact ih _ (by omega) (by rw [Nat.pow_succ] at h; omega)
      · simp only
        omega

/-!
## Decimals
-/

theorem toDecimal_of_zero {x : Binary64} (h : x.significand = 0) :
    x.toDecimal.coefficient = 0 ∧ x.toDecimal.scale = 0 := by
  simp [toDecimal, toDecimalParts, h]

/-- The parts of the decimal of a double, by a significand that is odd where it can be. -/
theorem exists_toDecimal {x : Binary64} (h : x.significand ≠ 0) :
    ∃ (m : Nat) (e : Int), 0 < m ∧ m < 9007199254740992 ∧ x.magnitude = m * 2 ^ e ∧
      (0 ≤ e ∨ m % 2 = 1 ∨ e = -1074) ∧
      x.toDecimal.coefficient = signed x.negative (m * 2 ^ e.toNat * 5 ^ (-e).toNat) ∧
      x.toDecimal.scale = (-e).toNat := by
  by_cases hsmall : x.significand < 4503599627370496
  · refine ⟨x.significand, x.exponent, by omega, x.significand_lt, rfl, ?_, ?_, ?_⟩
    · have hnormal := x.normal
      omega
    · simp [toDecimal, toDecimalParts, h, hsmall, signed]
    · simp [toDecimal, toDecimalParts, h, hsmall]
  · refine ⟨(lighten 53 x.significand x.exponent).1, (lighten 53 x.significand x.exponent).2,
      lighten_pos 53 _ (by omega), Nat.lt_of_le_of_lt (lighten_le ..) x.significand_lt,
      (lighten_value ..).symm, ?_, ?_, ?_⟩
    · have hodd : 0 ≤ (lighten 53 x.significand x.exponent).2 ∨
          (lighten 53 x.significand x.exponent).1 % 2 = 1 :=
        lighten_odd x.exponent (by omega) x.significand_lt
      omega
    · simp [toDecimal, toDecimalParts, h, hsmall, signed]
    · simp [toDecimal, toDecimalParts, h, hsmall]

theorem two_zpow (e : Int) :
    (2 : ℚ) ^ e = 2 ^ e.toNat * 5 ^ (-e).toNat * 10 ^ (-((-e).toNat : Int)) := by
  obtain ⟨n, rfl | rfl⟩ := e.eq_nat_or_neg
  · simp
  · have hten : (10 : ℚ) ^ n = 2 ^ n * 5 ^ n := by
      rw [← mul_pow]
      norm_num
    rw [Int.neg_neg, Int.toNat_natCast, Int.toNat_neg_natCast, zpow_neg, zpow_neg, zpow_natCast,
      zpow_natCast, hten]
    field_simp

theorem value_toDecimal (x : Binary64) : x.toDecimal.value = x.value := by
  by_cases h : x.significand = 0
  · rw [Decimal.value_eq_zero_iff.mpr (toDecimal_of_zero h).1]
    simp [value, magnitude, h]
  · obtain ⟨m, e, -, -, hmagnitude, -, hcoefficient, hscale⟩ := exists_toDecimal h
    rw [Decimal.value_of_signed hcoefficient, hscale, value, hmagnitude, two_zpow]
    push_cast
    simp only [mul_assoc]

end Binary64
end BankFeed
