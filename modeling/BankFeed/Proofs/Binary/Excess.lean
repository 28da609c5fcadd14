import BankFeed.Proofs.Binary.Recovery

/-!
# A little too much

A decimal with few digits is a midpoint between two doubles or far away from all of them, far
beyond the last of 768 digits. So what exceeds it by less goes to the same double, unless the
decimal is a midpoint: then it may be rounded down, and what exceeds it is not.
-/

namespace BankFeed

theorem ShortDecimal.exists_scaled {length bound : Nat} {q : ℚ} (hq : ShortDecimal length q)
    (hlength : length ≤ bound) (hbound : q ≤ 10 ^ bound) :
    ∃ places n : Nat, q * 10 ^ places = n ∧ q * 10 ^ places ≤ 10 ^ bound := by
  rcases hq with ⟨digits, power, hdigits, rfl⟩
  obtain ⟨k, rfl | rfl⟩ := power.eq_nat_or_neg
  · refine ⟨0, digits * 10 ^ k, ?_, ?_⟩
    · push_cast
      rw [zpow_natCast, pow_zero, mul_one]
    · rwa [pow_zero, mul_one]
  · have hscaled : (digits : ℚ) * 10 ^ (-k : Int) * 10 ^ k = digits := by
      rw [zpow_neg, zpow_natCast, inv_mul_cancel_right₀ (by positivity)]
    have hlt : digits ≤ 10 ^ bound :=
      hdigits.le.trans (Nat.pow_le_pow_right (by decide) hlength)
    exact ⟨k, digits, hscaled, hscaled.trans_le (by exact_mod_cast hlt)⟩

namespace Binary64

variable {x : Binary64} {q r : ℚ}

theorem one_le_sub_of_scaled {c : ℚ} {m n : Nat} (hc : 0 < c) (hm : q * c = m) (hn : r * c = n)
    (h : q < r) : 1 ≤ (r - q) * c := by
  have hlt : (m : ℚ) < n := hm ▸ hn ▸ mul_lt_mul_of_pos_right h hc
  have hnat : m + 1 ≤ n := by exact_mod_cast hlt
  have hcast : (m : ℚ) + 1 ≤ n := by exact_mod_cast hnat
  rw [sub_mul, hm, hn]
  linarith

theorem exists_lowEnd_scaled (x : Binary64) :
    ∃ k n : Nat, k ≤ 1200 ∧ x.lowEnd * 2 ^ k = n := by
  have hexponent := x.exponent_ge
  have hscaled := zpow_mul_pow_toNat (by norm_num : (2 : ℚ) ≠ 0) (x.exponent - 2)
  refine ⟨(-(x.exponent - 2)).toNat, x.lowQuarters * 2 ^ (x.exponent - 2).toNat, by omega, ?_⟩
  push_cast
  rw [lowEnd, mul_assoc, hscaled]

theorem two_pow_le_ten_pow {k : Nat} (hk : k ≤ 1200) : (2 : ℚ) ^ k ≤ 10 ^ 400 :=
  calc (2 : ℚ) ^ k
      ≤ 2 ^ (3 * 400) := pow_le_pow_right₀ (by norm_num) hk
    _ = (2 ^ 3) ^ 400 := pow_mul 2 3 400
    _ ≤ 10 ^ 400 := pow_le_pow_left₀ (by norm_num) (by norm_num) 400

theorem lowEnd_le_of_excess (hq : ShortDecimal 15 q) (hgreatest : q ≤ 10 ^ 290)
    (hexcess : 10 ^ 768 * (r - q) ≤ q) (h : x.lowEnd ≤ r) : x.lowEnd ≤ q := by
  by_contra hbelow
  rcases hq.exists_scaled (by decide) hgreatest with ⟨places, m, hm, hbound⟩
  rcases exists_lowEnd_scaled x with ⟨k, n, hk, hn⟩
  -- Scaled to natural numbers the decimal and the midpoint are one apart, and the excess is less.
  have hgap : 1 ≤ (x.lowEnd - q) * (10 ^ places * 2 ^ k) := by
    refine one_le_sub_of_scaled (m := m * 2 ^ k) (n := n * 10 ^ places) (by positivity) ?_ ?_
      (not_le.mp hbelow)
    · push_cast
      rw [← mul_assoc, hm]
    · push_cast
      rw [mul_comm (10 ^ places), ← mul_assoc, hn]
  have hscaled : (10 : ℚ) ^ 768 ≤ 10 ^ 290 * 2 ^ k :=
    calc (10 : ℚ) ^ 768
        ≤ 10 ^ 768 * ((x.lowEnd - q) * (10 ^ places * 2 ^ k)) :=
          le_mul_of_one_le_right (by positivity) hgap
      _ ≤ 10 ^ 768 * ((r - q) * (10 ^ places * 2 ^ k)) := by gcongr
      _ = 10 ^ 768 * (r - q) * (10 ^ places * 2 ^ k) := (mul_assoc _ _ _).symm
      _ ≤ q * (10 ^ places * 2 ^ k) := by gcongr
      _ = q * 10 ^ places * 2 ^ k := (mul_assoc _ _ _).symm
      _ ≤ 10 ^ 290 * 2 ^ k := by gcongr
  have hsmall : (10 : ℚ) ^ 290 * 2 ^ k < 10 ^ 768 :=
    calc (10 : ℚ) ^ 290 * 2 ^ k
        ≤ 10 ^ 290 * 10 ^ 400 := mul_le_mul_of_nonneg_left (two_pow_le_ten_pow hk) (by positivity)
      _ = 10 ^ (290 + 400) := (pow_add 10 290 400).symm
      _ < 10 ^ 768 := pow_lt_pow_right₀ (by norm_num) (by decide)
  exact absurd hscaled (not_le.mpr hsmall)

/-- The double is odd and the number lies halfway between it and the next double below. -/
def HalfwayBelow (x : Binary64) (q : ℚ) : Prop :=
  q = x.lowEnd ∧ x.significand % 2 = 1

/-- A double that attracts what exceeds a decimal by so little attracts the decimal too, unless
this is a midpoint that is rounded down. -/
theorem Attracts.of_excess (h : x.Attracts r) (hq : ShortDecimal 15 q) (hgreatest : q ≤ 10 ^ 290)
    (hqr : q < r) (hexcess : 10 ^ 768 * (r - q) ≤ q) : x.Attracts q ∨ x.HalfwayBelow q := by
  have hlow := lowEnd_le_of_excess hq hgreatest hexcess h.low
  have hhigh := hqr.trans_le h.high
  by_cases hhalfway : x.HalfwayBelow q
  · exact .inr hhalfway
  · refine .inl ⟨hlow, hhigh.le, ?_⟩
    rintro (hend | hend)
    · exact Nat.mod_two_ne_one.mp fun hodd => hhalfway ⟨hend, hodd⟩
    · exact absurd hend hhigh.ne

end Binary64
end BankFeed
