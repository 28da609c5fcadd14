import BankFeed.Proofs.Binary.Interval

/-!
# The nearest double

Rounding gives the double that attracts the number: it is off by at most half a unit of the last
place, and by as much only if the significand comes out even. Here the numbers are those between
ten to the powers of -290 and 300, whose doubles have all bits of a significand.
-/

namespace BankFeed

/-!
## Quotients
-/

namespace Binary

variable {num den : Nat}

theorem roundHalfEven_bounds (num : Nat) (hden : 0 < den) :
    2 * (roundHalfEven num den * den) ≤ 2 * num + den ∧
      2 * num ≤ 2 * (roundHalfEven num den * den) + den ∧
      (2 * (roundHalfEven num den * den) = 2 * num + den ∨
        2 * num = 2 * (roundHalfEven num den * den) + den → roundHalfEven num den % 2 = 0) := by
  have hdiv := Nat.div_add_mod' num den
  have hmod := Nat.mod_lt num hden
  unfold roundHalfEven
  simp only
  split
  · simp only [Nat.succ_mul]
    generalize num / den * den = floor at hdiv ⊢
    omega
  · generalize num / den * den = floor at hdiv ⊢
    omega

theorem roundHalfEven_spec (hden : 0 < den) {y : ℚ} (hy : y * den = num) :
    (roundHalfEven num den : ℚ) - 1 / 2 ≤ y ∧ y ≤ roundHalfEven num den + 1 / 2 ∧
      (y = roundHalfEven num den - 1 / 2 ∨ y = roundHalfEven num den + 1 / 2 →
        roundHalfEven num den % 2 = 0) := by
  have hdenQ : (0 : ℚ) < den := by exact_mod_cast hden
  rcases roundHalfEven_bounds num hden with ⟨hlow, hhigh, htie⟩
  generalize roundHalfEven num den = n at hlow hhigh htie ⊢
  have hlowQ : 2 * ((n : ℚ) * den) ≤ 2 * num + den := by exact_mod_cast hlow
  have hhighQ : 2 * (num : ℚ) ≤ 2 * (n * den) + den := by exact_mod_cast hhigh
  refine ⟨?_, ?_, ?_⟩
  · refine le_of_mul_le_mul_right ?_ hdenQ
    linarith
  · refine le_of_mul_le_mul_right ?_ hdenQ
    linarith
  · intro hend
    apply htie
    rcases hend with hend | hend
    · left
      have hsame : 2 * ((n : ℚ) * den) = 2 * num + den := by
        rw [← hy, hend]
        ring
      exact_mod_cast hsame
    · right
      have hsame : 2 * (num : ℚ) = 2 * (n * den) + den := by
        rw [← hy, hend]
        ring
      exact_mod_cast hsame

end Binary

/-!
## Doubles
-/

namespace Binary64

variable {x : Binary64} {y : ℚ} {num den : Nat}

theorem attracts_of_quarters (hlow : (x.lowQuarters : ℚ) ≤ 4 * y)
    (hhigh : 4 * y ≤ x.highQuarters)
    (heven : 4 * y = x.lowQuarters ∨ 4 * y = x.highQuarters → x.significand % 2 = 0) :
    x.Attracts (y * 2 ^ x.exponent) := by
  have hpos : (0 : ℚ) < 2 ^ (x.exponent - 2) := by positivity
  have hunits : y * 2 ^ x.exponent = 4 * y * 2 ^ (x.exponent - 2) := by
    rw [zpow_sub₀ (by norm_num)]
    ring
  rw [hunits]
  refine ⟨mul_le_mul_of_nonneg_right hlow hpos.le, mul_le_mul_of_nonneg_right hhigh hpos.le, ?_⟩
  intro hend
  apply heven
  rcases hend with hend | hend
  · exact .inl (mul_right_cancel₀ hpos.ne' hend)
  · exact .inr (mul_right_cancel₀ hpos.ne' hend)

theorem attracts_of_near (hfull : 4503599627370496 ≤ y)
    (hlow : (x.significand : ℚ) - 1 / 2 ≤ y) (hhigh : y ≤ x.significand + 1 / 2)
    (htie : y = x.significand - 1 / 2 ∨ y = x.significand + 1 / 2 → x.significand % 2 = 0) :
    x.Attracts (y * 2 ^ x.exponent) := by
  have hsignificand : (2 : ℚ) ≤ x.significand := by linarith
  have htwo : 2 ≤ 4 * x.significand := by
    have hnat : 2 ≤ x.significand := by exact_mod_cast hsignificand
    omega
  have hhighQuarters : (x.highQuarters : ℚ) = 4 * x.significand + 2 := by
    unfold highQuarters
    push_cast
    rfl
  -- The doubles below the least full significand lie closer, but the number is not below it.
  by_cases hnarrow : x.significand = 4503599627370496 ∧ -1074 < x.exponent
  · have hlowQuarters : (x.lowQuarters : ℚ) ≤ 4 * 4503599627370496 := by
      rw [lowQuarters, if_pos hnarrow, hnarrow.1]
      norm_num
    refine attracts_of_quarters (by linarith) (by linarith) ?_
    intro _
    rw [hnarrow.1]
  · have hlowQuarters : (x.lowQuarters : ℚ) = 4 * x.significand - 2 := by
      rw [lowQuarters, if_neg hnarrow, Nat.cast_sub htwo]
      push_cast
      rfl
    refine attracts_of_quarters (by linarith) (by linarith) ?_
    intro hend
    apply htie
    rcases hend with hend | hend
    · left
      linarith
    · right
      linarith

theorem attracts_of_carry (hsignificand : x.significand = 4503599627370496)
    (hexponent : -1074 < x.exponent) (hlow : 9007199254740992 - 1 / 2 ≤ y)
    (hhigh : y < 9007199254740992) : x.Attracts (y / 2 * 2 ^ x.exponent) := by
  have hlowQuarters : (x.lowQuarters : ℚ) = 18014398509481983 := by
    rw [lowQuarters, if_pos ⟨hsignificand, hexponent⟩, hsignificand]
    norm_num
  have hhighQuarters : (x.highQuarters : ℚ) = 18014398509481986 := by
    rw [highQuarters, hsignificand]
    norm_num
  refine attracts_of_quarters (by linarith) (by linarith) ?_
  intro _
  rw [hsignificand]

theorem units_bounds {q : ℚ} {place : Int} (hlow : 2 ^ place ≤ q) (hhigh : q < 2 ^ (place + 1)) :
    4503599627370496 ≤ q / 2 ^ (place - 52) ∧ q / 2 ^ (place - 52) < 9007199254740992 := by
  have hpow : (0 : ℚ) < 2 ^ (place - 52) := by positivity
  have htwo : (2 : ℚ) ≠ 0 := by norm_num
  rw [le_div_iff₀ hpow, div_lt_iff₀ hpow]
  constructor
  · calc (4503599627370496 : ℚ) * 2 ^ (place - 52)
        = 2 ^ (52 : Int) * 2 ^ (place - 52) := by norm_num
      _ = 2 ^ place := by
          rw [← zpow_add₀ htwo]
          congr 1
          omega
      _ ≤ q := hlow
  · calc q
        < 2 ^ (place + 1) := hhigh
      _ = 2 ^ (53 : Int) * 2 ^ (place - 52) := by
          rw [← zpow_add₀ htwo]
          congr 1
          omega
      _ = 9007199254740992 * 2 ^ (place - 52) := by norm_num

theorem exists_of_units (negative : Bool) {m : Nat} {e : Int} (hfull : 4503599627370496 ≤ y)
    (hbelow : y < 9007199254740992) (hlow : (m : ℚ) - 1 / 2 ≤ y) (hhigh : y ≤ m + 1 / 2)
    (htie : y = m - 1 / 2 ∨ y = m + 1 / 2 → m % 2 = 0) (hleast : -1074 ≤ e)
    (hgreatest : e < 971) :
    let parts := if m = 9007199254740992 then (4503599627370496, e + 1) else (m, e)
    ∃ x : Binary64, ofParts? negative parts.1 parts.2 = some x ∧ x.negative = negative ∧
      4503599627370496 ≤ x.significand ∧ x.Attracts (y * 2 ^ e) := by
  have hmLow : 4503599627370496 ≤ m := by
    have hlt : (4503599627370495 : ℚ) < m := by linarith
    exact_mod_cast hlt
  have hmHigh : m ≤ 9007199254740992 := by
    have hlt : (m : ℚ) < 9007199254740993 := by linarith
    exact Nat.le_of_lt_succ (by exact_mod_cast hlt)
  intro parts
  by_cases hcarry : m = 9007199254740992
  · let x : Binary64 :=
      { negative := negative, significand := 4503599627370496, exponent := e + 1
        significand_lt := by decide, exponent_ge := by omega, exponent_le := by omega
        normal := .inl le_rfl }
    have hparts : parts = (4503599627370496, e + 1) := if_pos hcarry
    have hattracts : x.Attracts (y / 2 * 2 ^ x.exponent) := by
      refine attracts_of_carry rfl (by simp only [x]; omega) ?_ hbelow
      rw [hcarry] at hlow
      exact_mod_cast hlow
    have hunits : y / 2 * 2 ^ x.exponent = y * 2 ^ e := by
      rw [zpow_add_one₀ (by norm_num)]
      ring
    rw [hparts]
    exact ⟨x, ofParts?_eq_some.mpr ⟨rfl, rfl, rfl⟩, rfl, le_rfl, hunits ▸ hattracts⟩
  · let x : Binary64 :=
      { negative := negative, significand := m, exponent := e
        significand_lt := by omega, exponent_ge := hleast, exponent_le := hgreatest.le
        normal := .inl hmLow }
    have hparts : parts = (m, e) := if_neg hcarry
    rw [hparts]
    exact ⟨x, ofParts?_eq_some.mpr ⟨rfl, rfl, rfl⟩, rfl, hmLow,
      attracts_of_near hfull hlow hhigh htie⟩

theorem exists_round (negative : Bool) (hnum : 0 < num) (hden : 0 < den)
    (hleast : (2 : ℚ) ^ (-1000 : Int) ≤ num / den)
    (hgreatest : (num / den : ℚ) < 2 ^ (1000 : Int)) :
    ∃ x : Binary64, ofParts? negative (Binary.double.round num den).1
        (Binary.double.round num den).2 = some x ∧ x.negative = negative ∧
      4503599627370496 ≤ x.significand ∧ x.Attracts (num / den) := by
  rcases Binary.leadingPlace_spec Binary.counts_bitCount hnum hden with ⟨hplaceLow, hplaceHigh⟩
  push_cast at hplaceLow hplaceHigh
  generalize hplace : Binary.leadingPlace 2 Binary.bitCount num den = place at hplaceLow hplaceHigh
  have hplaceGe : -1001 < place := by
    have hlow := hleast.trans_lt hplaceHigh
    rw [zpow_lt_zpow_iff_right₀ (by norm_num)] at hlow
    omega
  have hplaceLt : place < 1000 := by
    have hhigh := hplaceLow.trans_lt hgreatest
    rwa [zpow_lt_zpow_iff_right₀ (by norm_num)] at hhigh
  have hexponent :
      max (place - (Binary.double.precision - 1)) Binary.double.leastExponent = place - 52 := by
    simp only [Binary.double]
    omega
  rcases units_bounds hplaceLow hplaceHigh with ⟨hfull, hbelow⟩
  have hunits : (num / den : ℚ) / 2 ^ (place - 52) * 2 ^ (place - 52) = num / den :=
    div_mul_cancel₀ _ (by positivity)
  have hscaled : (num / den : ℚ) / 2 ^ (place - 52) * (den * 2 ^ (place - 52).toNat : Nat) =
      (num * 2 ^ (-(place - 52)).toNat : Nat) := by
    have htwo := zpow_mul_pow_toNat (by norm_num : (2 : ℚ) ≠ 0) (place - 52)
    have hdenQ : (den : ℚ) ≠ 0 := by exact_mod_cast hden.ne'
    push_cast
    rw [← htwo]
    field_simp
  rcases Binary.roundHalfEven_spec (by positivity) hscaled with ⟨hlow, hhigh, htie⟩
  have hround :=
    exists_of_units (e := place - 52) negative hfull hbelow hlow hhigh htie (by omega) (by omega)
  rw [hunits] at hround
  rw [Binary.Format.round, if_neg hnum.ne']
  simp only [hplace, hexponent]
  exact hround

theorem ten_zpow_300_lt : (10 : ℚ) ^ (300 : Int) < 2 ^ (1000 : Int) := by
  rw [zpow_ofNat, zpow_ofNat]
  calc (10 : ℚ) ^ 300
      = (10 ^ 30) ^ 10 := by rw [← pow_mul]
    _ < (2 ^ 100) ^ 10 := pow_lt_pow_left₀ (by norm_num) (by positivity) (by decide)
    _ = 2 ^ 1000 := by rw [← pow_mul]

section Scientific

variable {digits : Nat} {power : Int} (hleast : (10 : ℚ) ^ (-290 : Int) ≤ digits * 10 ^ power)
  (hgreatest : (digits : ℚ) * 10 ^ power ≤ 10 ^ (300 : Int))

include hleast

theorem digits_pos : 0 < digits := by
  by_contra hzero
  obtain rfl : digits = 0 := by omega
  rw [Nat.cast_zero, zero_mul] at hleast
  exact absurd hleast (not_le.mpr (by positivity))

include hgreatest

theorem place_bounds : -290 < Decimal.digitCount digits + power ∧
    Decimal.digitCount digits + power ≤ 301 := by
  have hvalue : Decimal.magnitude digits (-power) = digits * 10 ^ power := by
    rw [Decimal.magnitude, neg_neg]
  rw [← hvalue] at hleast hgreatest
  have habove := hleast.trans_lt Decimal.magnitude_lt
  have hbelow := (Decimal.le_magnitude (digits_pos (hvalue ▸ hleast))).trans hgreatest
  rw [zpow_lt_zpow_iff_right₀ (by norm_num)] at habove
  rw [zpow_le_zpow_iff_right₀ (by norm_num)] at hbelow
  omega

/-- The double that a decimal is rounded to attracts it. -/
theorem exists_ofScientific? (negative : Bool) :
    ∃ x : Binary64, ofScientific? negative digits power = some x ∧ x.negative = negative ∧
      4503599627370496 ≤ x.significand ∧ x.Attracts (digits * 10 ^ power) := by
  have hdigits := digits_pos hleast
  have hplace := place_bounds hleast hgreatest
  have hquotient : ((digits * 10 ^ power.toNat : Nat) : ℚ) / (10 ^ (-power).toNat : Nat) =
      digits * 10 ^ power := by
    push_cast
    rw [← zpow_mul_pow_toNat (by norm_num : (10 : ℚ) ≠ 0) power]
    field_simp
  have hinverse : (2 : ℚ) ^ (-1000 : Int) ≤ 10 ^ (-290 : Int) :=
    calc (2 : ℚ) ^ (-1000 : Int)
        ≤ 10 ^ (-300 : Int) := by
          rw [zpow_neg, zpow_neg]
          exact (inv_strictAnti₀ (by positivity) ten_zpow_300_lt).le
      _ ≤ 10 ^ (-290 : Int) := zpow_le_zpow_right₀ (by norm_num) (by decide)
  have hnum : 0 < digits * 10 ^ power.toNat := by positivity
  have hden : 0 < 10 ^ (-power).toNat := by positivity
  rcases exists_round negative hnum hden (hquotient ▸ hinverse.trans hleast)
    (hquotient ▸ hgreatest.trans_lt ten_zpow_300_lt) with ⟨x, hx, hnegative, hfull, hattracts⟩
  have hparts := ofParts?_eq_some.mp hx
  refine ⟨x, ?_, hnegative, hfull, hquotient ▸ hattracts⟩
  rw [ofScientific?, Binary.Format.ofScientific?, if_neg (by simp only [Binary.farPlace]; omega),
    if_neg (by simp only [Binary.farPlace]; omega)]
  simp only
  rw [if_pos (hparts.2.2 ▸ x.exponent_le)]
  exact hx

end Scientific

end Binary64
end BankFeed
