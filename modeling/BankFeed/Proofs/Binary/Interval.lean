import BankFeed.Proofs.Binary.Shortest

/-!
# What reads back as a double

A double attracts the numbers between the midpoints to its neighbours, and the midpoints
themselves if its significand is even. These are the numbers for which the search for its shortest
digits tests.
-/

namespace BankFeed
namespace Binary64

variable {x : Binary64} {q r s : ℚ}

/-!
## The interval
-/

/-- The midpoint to the next double below. -/
def lowEnd (x : Binary64) : ℚ :=
  x.lowQuarters * 2 ^ (x.exponent - 2)

def highEnd (x : Binary64) : ℚ :=
  x.highQuarters * 2 ^ (x.exponent - 2)

structure Attracts (x : Binary64) (q : ℚ) : Prop where
  low : x.lowEnd ≤ q
  high : q ≤ x.highEnd
  even : q = x.lowEnd ∨ q = x.highEnd → x.significand % 2 = 0

theorem Attracts.between (hq : x.Attracts q) (hs : x.Attracts s) (hqr : q ≤ r) (hrs : r ≤ s) :
    x.Attracts r where
  low := hq.low.trans hqr
  high := hrs.trans hs.high
  even := by
    rintro (hlow | hhigh)
    · exact hq.even (.inl (le_antisymm (hqr.trans hlow.le) hq.low))
    · exact hs.even (.inr (le_antisymm hs.high (hhigh.ge.trans hrs)))

theorem magnitude_eq_quarters (x : Binary64) :
    x.magnitude = (4 * x.significand : Nat) * 2 ^ (x.exponent - 2) := by
  rw [magnitude, zpow_sub₀ (by norm_num)]
  push_cast
  ring

theorem lowQuarters_lt (h : x.significand ≠ 0) : x.lowQuarters < 4 * x.significand := by
  unfold lowQuarters
  split <;> omega

theorem le_lowQuarters (x : Binary64) : 4 * x.significand ≤ x.lowQuarters + 2 := by
  unfold lowQuarters
  split <;> omega

theorem attracts_magnitude (h : x.significand ≠ 0) : x.Attracts x.magnitude := by
  have hpos : (0 : ℚ) < 2 ^ (x.exponent - 2) := by positivity
  have hlow : x.lowEnd < x.magnitude := by
    rw [magnitude_eq_quarters, lowEnd]
    exact mul_lt_mul_of_pos_right (by exact_mod_cast lowQuarters_lt h) hpos
  have hhigh : x.magnitude < x.highEnd := by
    rw [magnitude_eq_quarters, highEnd]
    refine mul_lt_mul_of_pos_right ?_ hpos
    exact_mod_cast Nat.lt_add_of_pos_right (by decide)
  refine ⟨hlow.le, hhigh.le, ?_⟩
  rintro (hend | hend)
  · exact absurd hend hlow.ne'
  · exact absurd hend hhigh.ne

theorem Attracts.distance (h : x.Attracts q) : |q - x.magnitude| ≤ 2 ^ (x.exponent - 1) := by
  have hpos : (0 : ℚ) < 2 ^ (x.exponent - 2) := by positivity
  have hunit : (2 : ℚ) ^ (x.exponent - 1) = 2 * 2 ^ (x.exponent - 2) := by
    rw [← zpow_one_add₀ (by norm_num)]
    congr 1
    omega
  have hquarters : ((4 * x.significand : Nat) : ℚ) ≤ x.lowQuarters + 2 := by
    exact_mod_cast x.le_lowQuarters
  have hlow : x.magnitude ≤ x.lowEnd + 2 ^ (x.exponent - 1) := by
    rw [magnitude_eq_quarters, lowEnd, hunit, ← add_mul]
    exact mul_le_mul_of_nonneg_right hquarters hpos.le
  have hhigh : x.highEnd = x.magnitude + 2 ^ (x.exponent - 1) := by
    rw [magnitude_eq_quarters, highEnd, highQuarters, hunit]
    push_cast
    ring
  rw [abs_le]
  constructor
  · linarith [h.low]
  · linarith [h.high]

/-!
## The tests
-/

theorem zpow_mul_pow_toNat {b : ℚ} (hb : b ≠ 0) (p : Int) :
    b ^ p * b ^ (-p).toNat = b ^ p.toNat := by
  obtain ⟨n, rfl | rfl⟩ := p.eq_nat_or_neg
  · simp
  · simp [hb]

theorem compare_of_scaled {m n : Nat} {c : ℚ} (hc : 0 < c) (hm : (m : ℚ) = q * c)
    (hn : (n : ℚ) = r * c) : compare m n = compare q r := by
  rcases lt_trichotomy q r with hlt | heq | hgt
  · have hmn : (m : ℚ) < n := hm ▸ hn ▸ mul_lt_mul_of_pos_right hlt hc
    rw [compare_lt_iff_lt.mpr hlt, compare_lt_iff_lt]
    exact_mod_cast hmn
  · have hmn : (m : ℚ) = n := by rw [hm, hn, heq]
    rw [compare_eq_iff_eq.mpr heq, compare_eq_iff_eq]
    exact_mod_cast hmn
  · have hmn : (n : ℚ) < m := hm ▸ hn ▸ mul_lt_mul_of_pos_right hgt hc
    rw [compare_gt_iff_gt.mpr hgt, compare_gt_iff_gt]
    exact_mod_cast hmn

theorem compareQuarters_eq (digits : Nat) (power : Int) (quarters : Nat) (exponent : Int) :
    compareQuarters digits power quarters exponent =
      compare ((digits : ℚ) * 10 ^ power) (quarters * 2 ^ (exponent - 2)) := by
  have hten := zpow_mul_pow_toNat (by norm_num : (10 : ℚ) ≠ 0) power
  have htwo := zpow_mul_pow_toNat (by norm_num : (2 : ℚ) ≠ 0) (exponent - 2)
  rw [neg_sub] at htwo
  unfold compareQuarters
  refine compare_of_scaled (c := 10 ^ (-power).toNat * 2 ^ (2 - exponent).toNat) (by positivity)
    ?_ ?_
  · push_cast
    rw [← hten]
    ring
  · push_cast
    rw [← htwo]
    ring

/-- The test for reading back asks whether the decimal is attracted. -/
theorem readsBack_iff (digits : Nat) (power : Int) :
    x.readsBack digits power = true ↔ x.Attracts (digits * 10 ^ power) := by
  have hlow := compareQuarters_eq digits power x.lowQuarters x.exponent
  have hhigh := compareQuarters_eq digits power x.highQuarters x.exponent
  rw [← lowEnd] at hlow
  rw [← highEnd] at hhigh
  simp only [readsBack, hlow, hhigh, Bool.and_eq_true, Bool.or_eq_true, beq_iff_eq,
    compare_gt_iff_gt, compare_lt_iff_lt, compare_eq_iff_eq]
  constructor
  · rintro ⟨hleft, hright⟩
    refine ⟨?_, ?_, ?_⟩
    · rcases hleft with hgt | ⟨-, heq⟩
      · exact hgt.le
      · exact heq.ge
    · rcases hright with hlt | ⟨-, heq⟩
      · exact hlt.le
      · exact heq.le
    · rintro (hend | hend)
      · rcases hleft with hgt | ⟨heven, -⟩
        · exact absurd hend hgt.ne'
        · exact heven
      · rcases hright with hlt | ⟨heven, -⟩
        · exact absurd hend hlt.ne
        · exact heven
  · intro h
    constructor
    · rcases h.low.lt_or_eq with hlt | heq
      · exact .inl hlt
      · exact .inr ⟨h.even (.inl heq.symm), heq.symm⟩
    · rcases h.high.lt_or_eq with hlt | heq
      · exact .inl hlt
      · exact .inr ⟨h.even (.inr heq), heq⟩

end Binary64
end BankFeed
