import BankFeed.Proofs.Binary.Interval

/-!
# Decimals that survive a double

Decimals with at most fifteen digits lie farther apart than the doubles near them, as long as these
have full significands. So a double attracts at most one of them, and if it attracts one, its
shortest digits are the digits of this one.
-/

namespace BankFeed

/-!
## Decimals with few digits
-/

/-- A number with so many significant decimal digits or fewer. -/
def ShortDecimal (length : Nat) (q : ℚ) : Prop :=
  ∃ (digits : Nat) (power : Int), digits < 10 ^ length ∧ q = digits * 10 ^ power

namespace ShortDecimal

variable {length : Nat} {q r : ℚ}

theorem lt_zpow {digits : Nat} (hdigits : digits < 10 ^ length) (power : Int) :
    (digits : ℚ) * 10 ^ power < 10 ^ length * 10 ^ power := by
  have hlt : (digits : ℚ) < 10 ^ length := by exact_mod_cast hdigits
  exact mul_lt_mul_of_pos_right hlt (by positivity)

theorem exists_multiple_of_le (digits : Nat) {power least : Int} (h : power ≤ least) :
    ∃ m : Nat, (digits : ℚ) * 10 ^ least = m * 10 ^ power := by
  have hshift : ((least - power).toNat : Int) = least - power := Int.toNat_of_nonneg (by omega)
  refine ⟨digits * 10 ^ (least - power).toNat, ?_⟩
  push_cast
  rw [mul_assoc, ← zpow_natCast, hshift, ← zpow_add₀ (by norm_num), sub_add_cancel]

theorem exists_multiple {place power : Int} (hq : ShortDecimal length q) (hlarge : 10 ^ place ≤ q)
    (hpower : power + length = place + 1) : ∃ m : Nat, q = m * 10 ^ power := by
  rcases hq with ⟨digits, least, hdigits, rfl⟩
  have hplace := hlarge.trans_lt (lt_zpow hdigits least)
  rw [← zpow_natCast, ← zpow_add₀ (by norm_num), zpow_lt_zpow_iff_right₀ (by norm_num)] at hplace
  exact exists_multiple_of_le digits (by omega)

/-- Numbers with few digits lie apart in proportion to their size. -/
theorem lt_mul_sub (hq : ShortDecimal length q) (hr : ShortDecimal length r) (h : q < r) :
    q < 10 ^ length * (r - q) := by
  rcases hq with ⟨a, p, ha, hqValue⟩
  rcases hr with ⟨b, s, hb, hrValue⟩
  rcases exists_multiple_of_le a (min_le_left p s) with ⟨m, hm⟩
  rcases exists_multiple_of_le b (min_le_right p s) with ⟨n, hn⟩
  have hpow : (0 : ℚ) < 10 ^ min p s := by positivity
  have hbound : q < 10 ^ length * 10 ^ min p s := by
    rcases min_choice p s with hleast | hleast
    · rw [hleast, hqValue]
      exact lt_zpow ha p
    · rw [hleast]
      exact h.trans (hrValue.trans_lt (lt_zpow hb s))
  rw [← hqValue] at hm
  rw [← hrValue] at hn
  have hgap : 10 ^ min p s ≤ r - q := by
    rw [hm, hn] at h
    have hlt : m < n := by exact_mod_cast lt_of_mul_lt_mul_right h hpow.le
    have hle : (m : ℚ) + 1 ≤ n := by exact_mod_cast hlt
    rw [hm, hn, ← sub_mul]
    exact le_mul_of_one_le_left hpow.le (by linarith)
  exact hbound.trans_le (mul_le_mul_of_nonneg_left hgap (by positivity))

end ShortDecimal

namespace Binary64

variable {x : Binary64} {q r : ℚ} {tie : Tie} {length : Nat}

/-!
## At most one
-/

theorem Attracts.not_lt_of_short (hfull : 4503599627370496 ≤ x.significand) (hq : x.Attracts q)
    (hr : x.Attracts r) (hqShort : ShortDecimal 15 q) (hrShort : ShortDecimal 15 r) :
    ¬ q < r := by
  intro hlt
  have hgap := hqShort.lt_mul_sub hrShort hlt
  have hunit : (2 : ℚ) ^ x.exponent = 2 * 2 ^ (x.exponent - 1) := by
    rw [← zpow_one_add₀ (by norm_num)]
    congr 1
    omega
  have hmagnitude : 9007199254740992 * 2 ^ (x.exponent - 1) ≤ x.magnitude := by
    have hfullQ : (4503599627370496 : ℚ) ≤ x.significand := by exact_mod_cast hfull
    have hpow : (0 : ℚ) < 2 ^ (x.exponent - 1) := by positivity
    rw [magnitude, hunit, ← mul_assoc]
    exact mul_le_mul_of_nonneg_right (by linarith) hpow.le
  have hqNear := abs_le.mp hq.distance
  have hrNear := abs_le.mp hr.distance
  linarith

theorem Attracts.eq_of_short (hfull : 4503599627370496 ≤ x.significand) (hq : x.Attracts q)
    (hr : x.Attracts r) (hqShort : ShortDecimal 15 q) (hrShort : ShortDecimal 15 r) : q = r :=
  le_antisymm (le_of_not_gt (hr.not_lt_of_short hfull hq hrShort hqShort))
    (le_of_not_gt (hq.not_lt_of_short hfull hr hqShort hrShort))

/-!
## The search finds it
-/

theorem attracts_of_ofLength? {found : Nat × Int} (h : ofLength? tie x length = some found) :
    x.Attracts (found.1 * 10 ^ found.2) := by
  unfold ofLength? at h
  simp only at h
  generalize Binary.leadingPlace 10 Decimal.digitCount x.numerator x.denominator + 1 - length =
    power at h
  generalize x.numerator * 10 ^ (-power).toNat / (x.denominator * 10 ^ power.toNat) = g at h
  rcases Option.map_eq_some_iff.mp h with ⟨digits, hdigits, rfl⟩
  have hreads : x.readsBack digits power = true := by
    split at hdigits
    · cases hdigits
    · next hlower _ => exact Option.some.inj hdigits ▸ hlower
    · next _ hupper => exact Option.some.inj hdigits ▸ hupper
    · next hlower hupper =>
        cases hdigits
        rcases nearer_cases (x := x) tie g power with heq | heq
        · rwa [heq]
        · rwa [heq]
  have hattracts := readsBack_iff digits power |>.mp hreads
  split
  · next hall =>
      have hsame : ((1 : Nat) : ℚ) * 10 ^ (power + length) = digits * 10 ^ power := by
        rw [hall, zpow_add₀ (by norm_num), zpow_natCast]
        push_cast
        ring
      exact hsame ▸ hattracts
  · exact hattracts

theorem zpow_le_lower {g : Nat} {place power : Int} (hlength : 0 < length)
    (hpower : power + length = place + 1) (hplace : 10 ^ place ≤ q)
    (hupper : q < (g + 1) * 10 ^ power) : (10 : ℚ) ^ place ≤ g * 10 ^ power := by
  have hpow : (0 : ℚ) < 10 ^ power := by positivity
  have hleading : (10 : ℚ) ^ place = (10 ^ (length - 1) : Nat) * 10 ^ power := by
    push_cast
    rw [← zpow_natCast, ← zpow_add₀ (by norm_num)]
    congr 1
    omega
  rw [hleading] at hplace ⊢
  have hlt : 10 ^ (length - 1) < g + 1 := by
    exact_mod_cast lt_of_mul_lt_mul_right (hplace.trans_lt hupper) hpow.le
  have hle : ((10 ^ (length - 1) : Nat) : ℚ) ≤ g := by exact_mod_cast Nat.le_of_lt_succ hlt
  exact mul_le_mul_of_nonneg_right hle hpow.le

theorem ofLength?_isSome (hx : x.significand ≠ 0) (hlength : 0 < length) (hq : x.Attracts q)
    (hqShort : ShortDecimal length q) : (ofLength? tie x length).isSome := by
  have hplace := (place_spec hx).1
  have hmagnitude := attracts_magnitude hx
  unfold ofLength?
  simp only
  generalize Binary.leadingPlace 10 Decimal.digitCount x.numerator x.denominator = place at hplace ⊢
  have hpower : place + 1 - length + length = place + 1 := Int.sub_add_cancel ..
  generalize place + 1 - length = power at hpower ⊢
  rcases x.lower_bounds power with ⟨hlower, hupper⟩
  generalize x.numerator * 10 ^ (-power).toNat / (x.denominator * 10 ^ power.toNat) = g
    at hlower hupper ⊢
  have hreads : x.readsBack g power = true ∨ x.readsBack (g + 1) power = true := by
    rw [readsBack_iff, readsBack_iff]
    push_cast
    rcases le_or_gt q (g * 10 ^ power) with hbelow | hbelow
    · exact .inl (hq.between hmagnitude hbelow hlower)
    rcases le_or_gt (((g : ℚ) + 1) * 10 ^ power) q with habove | habove
    · exact .inr (hmagnitude.between hq hupper.le habove)
    -- Strictly between the two there are only decimals with more digits.
    have hlarge := (zpow_le_lower hlength hpower hplace hupper).trans hbelow.le
    rcases hqShort.exists_multiple hlarge hpower with ⟨m, rfl⟩
    have hpow : (0 : ℚ) < 10 ^ power := by positivity
    have hlow : (g : ℚ) < m := lt_of_mul_lt_mul_right hbelow hpow.le
    have hhigh : (m : ℚ) < g + 1 := lt_of_mul_lt_mul_right habove hpow.le
    norm_cast at hlow hhigh
    omega
  rcases hreads with hreads | hreads
  · cases x.readsBack (g + 1) power <;> simp [hreads]
  · cases x.readsBack g power <;> simp [hreads]

theorem shortest_of_attracts (tie : Tie) (hx : x.significand ≠ 0) (hlength : 0 < length)
    (hle : length ≤ 17) (hq : x.Attracts q) (hqShort : ShortDecimal length q) :
    x.Attracts ((x.shortest tie).1 * 10 ^ (x.shortest tie).2) ∧
      (x.shortest tie).1 < 10 ^ length := by
  have hhit : ((List.range length).findSome? fun i => ofLength? tie x (i + 1)).isSome := by
    refine List.findSome?_isSome_iff.mpr ⟨length - 1, List.mem_range.mpr (by omega), ?_⟩
    rw [Nat.sub_add_cancel hlength]
    exact ofLength?_isSome hx hlength hq hqShort
  rcases Option.isSome_iff_exists.mp hhit with ⟨found, hfound⟩
  have hshortest : x.shortest tie = found := by
    have hrange : List.range 17 =
        List.range length ++ (List.range (17 - length)).map (length + ·) := by
      rw [← List.range_add, Nat.add_sub_cancel' hle]
    rw [shortest, if_neg hx, hrange, List.findSome?_append, hfound]
    rfl
  rcases List.exists_of_findSome?_eq_some hfound with ⟨i, hi, hofLength⟩
  have hlt := List.mem_range.mp hi
  rw [hshortest]
  constructor
  · exact attracts_of_ofLength? hofLength
  · exact (close_of_ofLength? hx (Nat.succ_pos i) (by omega) hofLength).lt.trans_le
      (Nat.pow_le_pow_right (by decide) hlt)

/-- The shortest digits of a double that attracts a decimal with fifteen digits are its digits. -/
theorem shortest_eq_of_attracts (tie : Tie) (hfull : 4503599627370496 ≤ x.significand)
    (hq : x.Attracts q) (hqShort : ShortDecimal 15 q) :
    (x.shortest tie).1 * 10 ^ (x.shortest tie).2 = q := by
  have hx : x.significand ≠ 0 := by omega
  rcases shortest_of_attracts tie hx (by decide) (by decide) hq hqShort with ⟨hattracts, hlt⟩
  exact hattracts.eq_of_short hfull hq ⟨_, _, hlt, rfl⟩ hqShort

end Binary64
end BankFeed
