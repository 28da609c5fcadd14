import BankFeed.Binary.Printer
import BankFeed.Proofs.Binary.Exact
import BankFeed.Proofs.Decimal.Equality
import Mathlib.Data.Nat.Cast.Order.Field
import Mathlib.Tactic.Linarith
import Mathlib.Tactic.NormNum

/-!
# The shortest digits of a double

They are at most seventeen, they stand no lower than the digits of the least double, and their
number is not more than twice the double. What is written without an exponent is a decimal with
these digits.
-/

namespace BankFeed

/-!
## Leading places
-/

namespace Binary

structure Counts (base : Nat) (size : Nat → Nat) : Prop where
  one_lt : 1 < base
  lt_pow : ∀ n, n < base ^ size n
  pow_le : ∀ n, 0 < n → base ^ size n ≤ base * n

theorem counts_digitCount : Counts 10 Decimal.digitCount where
  one_lt := by decide
  lt_pow := Decimal.lt_pow_digitCount
  pow_le := fun _ hn => Decimal.pow_digitCount_le hn

theorem counts_bitCount : Counts 2 bitCount where
  one_lt := by decide
  lt_pow := fun _ => Nat.lt_log2_self
  pow_le := by
    intro n hn
    rw [bitCount, Nat.pow_succ, Nat.mul_comm]
    exact Nat.mul_le_mul_left 2 (Nat.log2_self_le hn.ne')

section

variable {base : Nat} {size : Nat → Nat} (hcounts : Counts base size) {num den : Nat}

include hcounts

theorem Counts.base_pos : (0 : ℚ) < base := by
  exact_mod_cast Nat.lt_trans Nat.zero_lt_one hcounts.one_lt

theorem test_place_iff (hden : 0 < den) (l : Int) :
    den * base ^ l.toNat ≤ num * base ^ (-l).toNat ↔ (base : ℚ) ^ l ≤ num / den := by
  have hbase := hcounts.base_pos
  have hdenQ : (0 : ℚ) < den := by exact_mod_cast hden
  rw [le_div_iff₀ hdenQ]
  obtain ⟨n, rfl | rfl⟩ := l.eq_nat_or_neg
  · rw [zpow_natCast, Int.toNat_natCast, Int.toNat_neg_natCast]
    norm_cast
    rw [Nat.pow_zero, Nat.mul_one, Nat.mul_comm]
  · rw [Int.neg_neg, Int.toNat_natCast, Int.toNat_neg_natCast, zpow_neg, zpow_natCast,
      inv_mul_le_iff₀ (by positivity)]
    norm_cast
    rw [Nat.pow_zero, Nat.mul_one, Nat.mul_comm num]

theorem bracket (hnum : 0 < num) (hden : 0 < den) :
    (base : ℚ) ^ (size num - size den - 1 : Int) ≤ num / den ∧
      (num / den : ℚ) < base ^ (size num - size den + 1 : Int) := by
  have hbase := hcounts.base_pos
  have hdenQ : (0 : ℚ) < den := by exact_mod_cast hden
  have hnumLt : (num : ℚ) < base ^ size num := by exact_mod_cast hcounts.lt_pow num
  have hdenLt : (den : ℚ) < base ^ size den := by exact_mod_cast hcounts.lt_pow den
  have hnumLe : (base : ℚ) ^ size num ≤ base * num := by exact_mod_cast hcounts.pow_le num hnum
  have hdenLe : (base : ℚ) ^ size den ≤ base * den := by exact_mod_cast hcounts.pow_le den hden
  constructor
  · rw [zpow_sub_one₀ hbase.ne', zpow_sub₀ hbase.ne', zpow_natCast, zpow_natCast,
      ← div_eq_mul_inv, div_div, div_le_div_iff₀ (by positivity) hdenQ]
    calc (base : ℚ) ^ size num * den
        ≤ base * num * base ^ size den := by gcongr
      _ = num * (base ^ size den * base) := by ring
  · rw [zpow_add_one₀ hbase.ne', zpow_sub₀ hbase.ne', zpow_natCast, zpow_natCast,
      div_mul_eq_mul_div, div_lt_div_iff₀ hdenQ (by positivity)]
    calc (num : ℚ) * base ^ size den
        < base ^ size num * base ^ size den := by gcongr
      _ ≤ base ^ size num * (base * den) := by gcongr
      _ = base ^ size num * base * den := by ring

theorem leadingPlace_spec (hnum : 0 < num) (hden : 0 < den) :
    (base : ℚ) ^ leadingPlace base size num den ≤ num / den ∧
      (num / den : ℚ) < base ^ (leadingPlace base size num den + 1) := by
  obtain ⟨hlow, hhigh⟩ := bracket hcounts hnum hden
  unfold leadingPlace
  simp only [test_place_iff hcounts hden]
  split
  · next htest => exact ⟨htest, hhigh⟩
  · next htest =>
      rw [sub_add_cancel]
      exact ⟨hlow, not_le.mp htest⟩

end

end Binary

namespace Binary64

open Decimal (signed signedText)

variable {x : Binary64} {tie : Tie}

theorem numerator_pos (h : x.significand ≠ 0) : 0 < x.numerator :=
  Nat.mul_pos (Nat.pos_of_ne_zero h) (Nat.pow_pos (by decide))

theorem denominator_pos (x : Binary64) : 0 < x.denominator :=
  Nat.pow_pos (by decide)

theorem magnitude_eq_div (x : Binary64) : x.magnitude = x.numerator / x.denominator := by
  rw [magnitude, numerator, denominator]
  push_cast
  obtain ⟨n, hn | hn⟩ := x.exponent.eq_nat_or_neg
  · rw [hn]
    simp
  · rw [hn]
    simp [div_eq_mul_inv]

/-- A decimal of so many digits next to the magnitude. -/
structure Close (x : Binary64) (length : Nat) (found : Nat × Int) : Prop where
  pos : 0 < found.1
  lt : found.1 < 10 ^ length
  le : (found.1 : ℚ) * 10 ^ found.2 ≤ 2 * x.magnitude
  power_ge : -340 ≤ found.2

theorem ten_zpow_lt_two_zpow : (10 : ℚ) ^ (-324 : Int) < 2 ^ (-1074 : Int) := by
  have hpow : (2 : ℚ) ^ 1074 < 10 ^ 324 :=
    calc (2 : ℚ) ^ 1074
        = (2 ^ 179) ^ 6 := by rw [← pow_mul]
      _ < (10 ^ 54) ^ 6 := pow_lt_pow_left₀ (by norm_num) (by positivity) (by decide)
      _ = 10 ^ 324 := by rw [← pow_mul]
  rw [zpow_neg, zpow_neg, zpow_ofNat, zpow_ofNat]
  exact inv_strictAnti₀ (by positivity) hpow

theorem le_magnitude (h : x.significand ≠ 0) : (2 : ℚ) ^ (-1074 : Int) ≤ x.magnitude := by
  have hone : (1 : ℚ) ≤ x.significand := by exact_mod_cast Nat.one_le_iff_ne_zero.mpr h
  calc (2 : ℚ) ^ (-1074 : Int)
      ≤ 2 ^ x.exponent := zpow_le_zpow_right₀ (by norm_num) x.exponent_ge
    _ = 1 * 2 ^ x.exponent := (one_mul _).symm
    _ ≤ x.significand * 2 ^ x.exponent := mul_le_mul_of_nonneg_right hone (by positivity)

theorem nearer_cases (tie : Tie) (g : Nat) (power : Int) :
    nearer tie x g power = g ∨ nearer tie x g power = g + 1 := by
  unfold nearer
  split
  · exact .inl rfl
  · exact .inr rfl
  · split
    · exact .inr rfl
    · split
      · exact .inl rfl
      · exact .inr rfl

theorem ofLength?_cases {length : Nat} {found : Nat × Int}
    (h : ofLength? tie x length = some found) :
    let power := Binary.leadingPlace 10 Decimal.digitCount x.numerator x.denominator + 1 - length
    let g := x.numerator * 10 ^ (-power).toNat / (x.denominator * 10 ^ power.toNat)
    ∃ digits, (digits = g ∨ digits = g + 1) ∧
      found = if digits = 10 ^ length then (1, power + length) else (digits, power) := by
  intro power g
  unfold ofLength? at h
  obtain ⟨digits, hdigits, hfound⟩ := Option.map_eq_some_iff.mp h
  refine ⟨digits, ?_, hfound.symm⟩
  split at hdigits
  · cases hdigits
  · exact .inl (Option.some.inj hdigits).symm
  · exact .inr (Option.some.inj hdigits).symm
  · obtain rfl := Option.some.inj hdigits
    exact nearer_cases ..

theorem close_of_lower {power : Int} {length g digits : Nat} (hlength : 0 < length) (hpos : 0 < g)
    (hlt : g < 10 ^ length) (hle : (g : ℚ) * 10 ^ power ≤ x.magnitude)
    (hdigits : digits = g ∨ digits = g + 1) (hpower : -340 ≤ power) :
    x.Close length (if digits = 10 ^ length then (1, power + length) else (digits, power)) := by
  have htwice : (digits : ℚ) * 10 ^ power ≤ 2 * x.magnitude := by
    have hdouble : (digits : ℚ) ≤ 2 * g := by exact_mod_cast (by omega : digits ≤ 2 * g)
    calc (digits : ℚ) * 10 ^ power
        ≤ 2 * g * 10 ^ power := mul_le_mul_of_nonneg_right hdouble (by positivity)
      _ = 2 * (g * 10 ^ power) := mul_assoc ..
      _ ≤ 2 * x.magnitude := mul_le_mul_of_nonneg_left hle (by norm_num)
  split
  · next hall =>
      refine ⟨Nat.one_pos, Nat.one_lt_pow hlength.ne' (by decide), ?_, by simp only; omega⟩
      rw [hall] at htwice
      simp only [Nat.cast_one, one_mul, add_comm power, zpow_add₀ (by norm_num : (10 : ℚ) ≠ 0),
        zpow_natCast]
      exact_mod_cast htwice
  · next hfewer => exact ⟨by simp only; omega, by simp only; omega, htwice, hpower⟩

theorem lower_bounds (x : Binary64) (power : Int) :
    let g := x.numerator * 10 ^ (-power).toNat / (x.denominator * 10 ^ power.toNat)
    (g : ℚ) * 10 ^ power ≤ x.magnitude ∧ x.magnitude < (g + 1) * 10 ^ power := by
  intro g
  have htenPos : (0 : ℚ) < 10 ^ power := by positivity
  have hquotient : ((x.numerator * 10 ^ (-power).toNat : Nat) : ℚ) /
      (x.denominator * 10 ^ power.toNat : Nat) = x.magnitude / 10 ^ power := by
    rw [magnitude_eq_div]
    obtain ⟨n, rfl | rfl⟩ := power.eq_nat_or_neg
    · simp [div_div]
    · simp [div_mul_eq_mul_div]
  have hdenPos : 0 < x.denominator * 10 ^ power.toNat :=
    Nat.mul_pos x.denominator_pos (Nat.pow_pos (by decide))
  have hdenQ : (0 : ℚ) < (x.denominator * 10 ^ power.toNat : Nat) := by exact_mod_cast hdenPos
  rw [← le_div_iff₀ htenPos, ← div_lt_iff₀ htenPos, ← hquotient]
  refine ⟨Nat.cast_div_le, ?_⟩
  have hlt : x.numerator * 10 ^ (-power).toNat <
      (g + 1) * (x.denominator * 10 ^ power.toNat) := by
    rw [Nat.mul_comm (g + 1)]
    exact Nat.lt_mul_div_succ _ hdenPos
  rw [div_lt_iff₀ hdenQ]
  exact_mod_cast hlt

section Lengths

variable (hx : x.significand ≠ 0)

include hx

theorem place_spec :
    (10 : ℚ) ^ Binary.leadingPlace 10 Decimal.digitCount x.numerator x.denominator ≤ x.magnitude ∧
      x.magnitude <
        10 ^ (Binary.leadingPlace 10 Decimal.digitCount x.numerator x.denominator + 1) := by
  rw [magnitude_eq_div]
  exact_mod_cast
    Binary.leadingPlace_spec Binary.counts_digitCount (numerator_pos hx) x.denominator_pos

theorem leadingPlace_ge :
    -324 ≤ Binary.leadingPlace 10 Decimal.digitCount x.numerator x.denominator := by
  have hplace :=
    (ten_zpow_lt_two_zpow.trans_le (le_magnitude hx)).trans (place_spec hx).2
  rw [zpow_lt_zpow_iff_right₀ (by norm_num)] at hplace
  omega

theorem lower_spec {power : Int} {length : Nat} (hlength : 0 < length)
    (hpower : power + length =
      Binary.leadingPlace 10 Decimal.digitCount x.numerator x.denominator + 1) :
    let g := x.numerator * 10 ^ (-power).toNat / (x.denominator * 10 ^ power.toNat)
    0 < g ∧ g < 10 ^ length ∧ (g : ℚ) * 10 ^ power ≤ x.magnitude := by
  intro g
  obtain ⟨hlow, hhigh⟩ := place_spec hx
  obtain ⟨hgLe, hgLt⟩ := x.lower_bounds power
  have htenPos : (0 : ℚ) < 10 ^ power := by positivity
  refine ⟨?_, ?_, hgLe⟩
  · have hone : (10 : ℚ) ^ power ≤ x.magnitude :=
      (zpow_le_zpow_right₀ (by norm_num) (by omega)).trans hlow
    have hg : (1 : ℚ) < g + 1 :=
      lt_of_mul_lt_mul_right ((one_mul ((10 : ℚ) ^ power)).le.trans_lt (hone.trans_lt hgLt))
        htenPos.le
    have hgPos : (0 : ℚ) < g := by linarith
    exact_mod_cast hgPos
  · have hlt : (g : ℚ) * 10 ^ power < 10 ^ length * 10 ^ power := by
      rw [← zpow_natCast, ← zpow_add₀ (by norm_num), add_comm, hpower]
      exact hgLe.trans_lt hhigh
    exact_mod_cast lt_of_mul_lt_mul_right hlt htenPos.le

theorem close_of_ofLength? {length : Nat} {found : Nat × Int} (hlength : 0 < length)
    (hle : length ≤ 17) (h : ofLength? tie x length = some found) : x.Close length found := by
  have hplace := leadingPlace_ge hx
  obtain ⟨digits, hdigits, rfl⟩ := ofLength?_cases h
  obtain ⟨hpos, hlt, hlower⟩ := lower_spec hx hlength (sub_add_cancel _ _)
  exact close_of_lower hlength hpos hlt hlower hdigits (by omega)

theorem shortest_cases (tie : Tie) :
    x.shortest tie = (x.toDecimalParts.1.natAbs, -x.toDecimalParts.2) ∨
      x.Close 17 (x.shortest tie) := by
  unfold shortest
  rw [if_neg hx]
  cases hfound : (List.range 17).findSome? fun i => ofLength? tie x (i + 1) with
  | none => exact .inl rfl
  | some found =>
      obtain ⟨i, hi, hlength⟩ := List.exists_of_findSome?_eq_some hfound
      have hclose := close_of_ofLength? hx (Nat.succ_pos i)
        (Nat.succ_le_of_lt (List.mem_range.mp hi)) hlength
      refine .inr ⟨hclose.pos, Nat.lt_of_lt_of_le hclose.lt ?_, hclose.le, hclose.power_ge⟩
      exact Nat.pow_le_pow_right (by decide) (Nat.succ_le_of_lt (List.mem_range.mp hi))

end Lengths

theorem power_ge (tie : Tie) (x : Binary64) : -1074 ≤ (x.shortest tie).2 := by
  by_cases hx : x.significand = 0
  · rw [shortest_of_significand_eq_zero hx]
    decide
  · rcases shortest_cases hx tie with hexact | hclose
    · have hscale := x.toDecimalParts_scale
      rw [hexact]
      simp only
      omega
    · exact (by decide : (-1074 : Int) ≤ -340).trans hclose.power_ge

/-!
## The text without an exponent
-/

theorem read_positional (negative : Bool) (digits : Nat) {power : Int} (h : -1074 ≤ power) :
    ∃ d, Decimal.read (signedText negative (positional (Nat.toDigits 10 digits) power)) = .ok d ∧
      d.coefficient = signed negative (digits * 10 ^ power.toNat) ∧ d.scale = (-power).toNat := by
  unfold positional
  by_cases hinteger : 0 ≤ power
  · refine ⟨.ofInt (signed negative (digits * 10 ^ power.toNat)), ?_, rfl, ?_⟩
    · rw [if_pos hinteger, Decimal.read_digits (by simp [Nat.toDigits_ne_nil])
        (Text.isDigits_append.mpr ⟨Text.isDigits_toDigits _, Text.isDigits_replicate_zero _⟩),
        Nat.ofDigitChars_append, Nat.ofDigitChars_ten_toDigits, Nat.ofDigitChars_replicate_zero,
        Nat.mul_comm]
    · simp only [Decimal.ofInt]
      omega
  · let d : Decimal :=
      { coefficient := signed negative digits, scale := -power
        scale_ge := by omega, scale_le := by omega }
    have hscale : 0 ≤ d.scale := by
      simp only [d]
      omega
    refine ⟨d, ?_, ?_, ?_⟩
    · rw [if_neg hinteger]
      exact Decimal.read_pointText rfl hscale
    · have hpower : power.toNat = 0 := by omega
      simp [d, hpower]
    · simp only [d]
      omega

theorem read_plainText (x : Binary64) :
    ∃ d, Decimal.read x.plainText = .ok d ∧
      d.coefficient = signed x.negative ((x.shortest .up).1 * 10 ^ (x.shortest .up).2.toNat) ∧
      d.scale = (-(x.shortest .up).2).toNat :=
  read_positional x.negative (x.shortest .up).1 (power_ge .up x)

/-- The number that the shortest digits stand for. -/
def shortestValue (x : Binary64) : ℚ :=
  let magnitude : ℚ := (x.shortest .up).1 * 10 ^ (x.shortest .up).2
  if x.negative then -magnitude else magnitude

theorem ten_zpow (power : Int) :
    (10 : ℚ) ^ power = 10 ^ power.toNat * 10 ^ (-((-power).toNat : Int)) := by
  obtain ⟨n, rfl | rfl⟩ := power.eq_nat_or_neg
  · simp
  · simp

/-!
## The shortest digits and the exact value
-/

theorem Close.lt_sq {digits : Nat} {power : Int} (hclose : x.Close 17 (digits, power))
    (hsmall : x.magnitude < 9007199254740992 ∨ power < 0) :
    digits * 10 ^ power.toNat < Decimal.wordBase * Decimal.wordBase := by
  have hdigits := hclose.lt
  by_cases hneg : power < 0
  · have hpower : power.toNat = 0 := by omega
    rw [hpower, Nat.pow_zero, Nat.mul_one]
    exact Nat.lt_trans hdigits (by decide)
  · have hmagnitude := hsmall.resolve_right hneg
    have hcast : ((power.toNat : Nat) : Int) = power := by omega
    have hle := hclose.le
    simp only at hle
    rw [← hcast, zpow_natCast] at hle
    have hlt : ((digits * 10 ^ power.toNat : Nat) : ℚ) < 18014398509481984 := by
      push_cast
      linarith
    have hbound : digits * 10 ^ power.toNat < 18014398509481984 := by exact_mod_cast hlt
    exact Nat.lt_trans hbound (by decide)

/-- With more places than shortest digits the exact value ends in an odd digit, so it is no
product with a power of ten; the test sees that. -/
theorem sameScaled_odd {m n shift : Nat} {e : Int} (hneg : e < 0) (hodd : m % 2 = 1)
    (hn : n < Decimal.wordBase * Decimal.wordBase) (hshift : 0 < shift) :
    Decimal.sameScaled (m * 2 ^ e.toNat * 5 ^ (-e).toNat) n shift = true ↔
      m * 2 ^ e.toNat * 5 ^ (-e).toNat = n * 10 ^ shift := by
  have hplaces : (-e).toNat ≠ 0 := by omega
  have hinteger : e.toNat = 0 := by omega
  rw [hinteger, Nat.pow_zero, Nat.mul_one]
  constructor
  · exact Decimal.eq_of_sameScaled hn hshift (Dvd.dvd.mul_left (dvd_pow_self 5 hplaces) m)
  · intro heq
    have hoddProduct : m * 5 ^ (-e).toNat % 2 = 1 := by
      rw [Nat.mul_mod, hodd, Nat.pow_mod]
      simp
    have hevenProduct : n * 10 ^ shift % 2 = 0 :=
      Nat.mod_eq_zero_of_dvd (Dvd.dvd.mul_left (dvd_pow (by decide) hshift.ne') n)
    omega

theorem lt_of_exponent_neg {m : Nat} {e : Int} (hm : m < 9007199254740992) (hneg : e < 0) :
    (m : ℚ) * 2 ^ e < 9007199254740992 := by
  have hpow : (2 : ℚ) ^ e ≤ 1 := zpow_le_one_of_nonpos₀ (by norm_num) hneg.le
  have hlt : (m : ℚ) < 9007199254740992 := by exact_mod_cast hm
  calc (m : ℚ) * 2 ^ e
      ≤ m * 1 := mul_le_mul_of_nonneg_left hpow (Nat.cast_nonneg m)
    _ < 9007199254740992 := by rwa [mul_one]

section Shortest

variable {d : Decimal}
  (hcoefficient :
    d.coefficient = signed x.negative ((x.shortest .up).1 * 10 ^ (x.shortest .up).2.toNat))
  (hscale : d.scale = (-(x.shortest .up).2).toNat)

include hcoefficient hscale

theorem value_eq_shortestValue : d.value = x.shortestValue := by
  rw [Decimal.value_of_signed hcoefficient, hscale, shortestValue,
    ten_zpow (x.shortest .up).2]
  push_cast
  simp only [mul_assoc]

/-- The test for equality tells whether the shortest digits are exact. -/
theorem same_toDecimal : x.toDecimal.same d = true ↔ x.toDecimal.value = d.value := by
  by_cases hx : x.significand = 0
  · rw [shortest_of_significand_eq_zero hx] at hscale
    refine Decimal.same_iff_value_eq (.inl ?_)
    rw [(toDecimal_of_zero hx).2, hscale]
    decide
  · rcases shortest_cases hx .up with hexact | hclose
    · rw [hexact] at hscale
      refine Decimal.same_iff_value_eq (.inl ?_)
      have hplaces := x.toDecimalParts_scale
      rw [hscale, toDecimal]
      simp only
      omega
    · obtain ⟨m, e, hpos, hlt, hmagnitude, hodd, haCoefficient, haScale⟩ := exists_toDecimal hx
      generalize x.shortest .up = found at hclose hcoefficient hscale
      obtain ⟨digits, power⟩ := found
      have hpower : -340 ≤ power := hclose.power_ge
      have hdigits : 0 < digits := hclose.pos
      simp only at hcoefficient hscale
      have ha : x.toDecimal.coefficient.natAbs = m * 2 ^ e.toNat * 5 ^ (-e).toNat := by
        rw [haCoefficient, Decimal.natAbs_signed]
      have hd : d.coefficient.natAbs = digits * 10 ^ power.toNat := by
        rw [hcoefficient, Decimal.natAbs_signed]
      -- The shortest digits are scaled to the places of the exact value, or the other way round.
      refine Decimal.same_iff_value_eq_of ?_ ?_
      · intro hlower _ _ hnear
        rw [haScale, hscale] at hlower hnear ⊢
        rw [ha, hd]
        have hneg : e < 0 := by omega
        refine sameScaled_odd hneg (by omega) (hclose.lt_sq (.inl ?_)) (by omega)
        exact hmagnitude ▸ lt_of_exponent_neg hlt hneg
      · intro hlower _ _ _
        rw [haScale, hscale] at hlower ⊢
        rw [ha, hd]
        exact Decimal.sameScaled_iff_of_lt_sq (by positivity) (by positivity)
          (hclose.lt_sq (.inr (by omega)))

end Shortest

end Binary64
end BankFeed
