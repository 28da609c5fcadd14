import BankFeed.Proofs.Binary.Excess
import BankFeed.Proofs.Binary.Nearest
import BankFeed.Proofs.Clause.Literal
import BankFeed.Proofs.Json.Cut

/-!
# Numbers in clauses

A number with a fraction or an exponent becomes a double on the way to a clause. The shortest
digits of the double are those that were written, as long as there are no more than fifteen and the
double needs no denormal number.
-/

namespace BankFeed

open Json (NumberLiteral NumberText)

namespace Json.NumberLiteral

variable {l : NumberLiteral}

theorem shortDecimal_magnitude {length : Nat} (h : l.digits.length ≤ length) :
    ShortDecimal length l.magnitude := by
  rcases l.exists_magnitude_eq with ⟨power, hpower⟩
  have hlt := Text.ofDigitChars_lt l.isDigits_digits
  exact ⟨_, power, hlt.trans_le (Nat.pow_le_pow_right (by decide) h), hpower⟩

theorem nearest_of_zero (hzero : l.magnitude = 0) :
    nearest l.negative l.scanned.significant = .double (.zero l.negative) := by
  have hdigits : Nat.ofDigitChars 10 l.scanned.significant.1 0 = 0 := by
    rw [magnitude_eq_significant] at hzero
    have hpow : (10 : ℚ) ^ l.scanned.significant.2 ≠ 0 := by positivity
    exact_mod_cast (mul_eq_zero.mp hzero).resolve_right hpow
  rw [nearest, hdigits]
  rfl

theorem shortestValue_of_attracts {x : Binary64} (hdigits : l.digits.length ≤ 15)
    (hfull : 4503599627370496 ≤ x.significand) (hnegative : x.negative = l.negative)
    (hattracts : x.Attracts l.magnitude) : x.shortestValue = l.value := by
  have hshortest := Binary64.shortest_eq_of_attracts .up hfull hattracts
    (shortDecimal_magnitude hdigits)
  rw [Binary64.shortestValue, hnegative, hshortest]
  rfl

theorem exists_nearest (hdigits : l.digits.length ≤ 15)
    (hrange : l.value = 0 ∨ 10 ^ (-290 : Int) ≤ |l.value| ∧ |l.value| ≤ 10 ^ (290 : Int)) :
    ∃ x, nearest l.negative l.scanned.significant = .double x ∧ x.shortestValue = l.value := by
  rw [← abs_eq_zero, abs_value] at hrange
  rcases hrange with hzero | ⟨hleast, hgreatest⟩
  · refine ⟨.zero l.negative, nearest_of_zero hzero, ?_⟩
    rw [Binary64.shortestValue, Binary64.shortest_of_significand_eq_zero rfl, value, hzero]
    simp
  · have hfar : l.magnitude ≤ 10 ^ (300 : Int) :=
      hgreatest.trans (zpow_le_zpow_right₀ (by norm_num) (by decide))
    rw [magnitude_eq_significant] at hleast hfar
    rcases Binary64.exists_ofScientific? hleast hfar l.negative with
      ⟨x, hx, hnegative, hfull, hattracts⟩
    rw [← magnitude_eq_significant] at hattracts
    refine ⟨x, ?_, shortestValue_of_attracts hdigits hfull hnegative hattracts⟩
    rw [nearest, hx]

/-- Of a literal that is cut short a little too much is read, and the double is still the nearest
one unless the literal lies halfway below it. -/
theorem exists_cut (hdigits : l.digits.length ≤ 15) (hleast : 10 ^ (-290 : Int) ≤ l.magnitude)
    (hgreatest : l.magnitude ≤ 10 ^ (290 : Int))
    (hlong : NumberText.digitLimit < l.scanned.significant.1.length) :
    (∃ x, l.scanned.toDouble l.negative = .double x ∧ x.shortestValue = l.value) ∨
      ∃ x : Binary64, x.HalfwayBelow l.magnitude := by
  rcases l.condense_exceeds hlong (shortDecimal_magnitude (hdigits.trans (by decide))) with
    ⟨hmore, hexcess⟩
  generalize hrow : NumberText.condense l.scanned.significant.1 l.scanned.significant.2 = row
    at hmore hexcess
  have hfar : (Nat.ofDigitChars 10 row.1 0 : ℚ) * 10 ^ row.2 ≤ 10 ^ (300 : Int) := by
    have hdouble : (Nat.ofDigitChars 10 row.1 0 : ℚ) * 10 ^ row.2 - l.magnitude ≤ l.magnitude :=
      (le_mul_of_one_le_left (sub_nonneg.mpr hmore.le) (one_le_pow₀ (by norm_num))).trans hexcess
    have hpos := l.magnitude_pos_of_long hlong
    calc (Nat.ofDigitChars 10 row.1 0 : ℚ) * 10 ^ row.2
        ≤ 10 * l.magnitude := by linarith
      _ ≤ 10 * 10 ^ (290 : Int) := by gcongr
      _ ≤ 10 ^ (300 : Int) := by
          rw [← zpow_one_add₀ (by norm_num)]
          exact zpow_le_zpow_right₀ (by norm_num) (by decide)
  rcases Binary64.exists_ofScientific? (hleast.trans hmore.le) hfar l.negative with
    ⟨x, hx, hnegative, hfull, hattracts⟩
  rw [zpow_ofNat] at hgreatest
  rcases hattracts.of_excess (shortDecimal_magnitude hdigits) hgreatest hmore hexcess with
    hattracted | hhalfway
  · refine .inl ⟨x, ?_, shortestValue_of_attracts hdigits hfull hnegative hattracted⟩
    rw [NumberText.toDouble_eq, hrow, nearest, hx]
  · exact .inr ⟨x, hhalfway⟩

theorem exists_toDouble (hdigits : l.digits.length ≤ 15)
    (hrange : l.value = 0 ∨ 10 ^ (-290 : Int) ≤ |l.value| ∧ |l.value| ≤ 10 ^ (290 : Int))
    (hnearest : NumberText.digitLimit < l.scanned.significant.1.length →
      (∃ x : Binary64, x.HalfwayBelow |l.value|) →
      l.scanned.toDouble l.negative = nearest l.negative l.scanned.significant) :
    ∃ x, l.scanned.toDouble l.negative = .double x ∧ x.shortestValue = l.value := by
  have hround := exists_nearest hdigits hrange
  rcases Nat.lt_or_ge NumberText.digitLimit l.scanned.significant.1.length with hlong | hshort
  · rw [← abs_eq_zero, abs_value] at hrange
    rcases hrange.resolve_left (l.magnitude_pos_of_long hlong).ne' with ⟨hleast, hgreatest⟩
    rcases exists_cut hdigits hleast hgreatest hlong with hfound | hhalfway
    · exact hfound
    · rw [← abs_value] at hhalfway
      rwa [hnearest hlong hhalfway]
  · rwa [NumberText.toDouble_eq_nearest hshort]

end Json.NumberLiteral

/-- A number with at most fifteen significant digits is read as the number that is written. The
reader counts what it cuts off behind the 768th digit as more than nothing, even if it is nothing but
zeros, and so turns a number up that lies halfway between two doubles. Only where this is wrong, the
upper one of the two being odd, is it assumed that such a row is read as the nearest double. -/
theorem ClauseValue.number_as_written (l : NumberLiteral) (hfloat : l.IsFloat)
    (hdigits : l.digits.length ≤ 15)
    (hrange : l.value = 0 ∨ 10 ^ (-290 : Int) ≤ |l.value| ∧ |l.value| ≤ 10 ^ (290 : Int))
    (hnearest : NumberText.digitLimit < l.scanned.significant.1.length →
      (∃ x : Binary64, x.HalfwayBelow |l.value|) →
      l.scanned.toDouble l.negative = Json.nearest l.negative l.scanned.significant) :
    ∃ d, ClauseValue.codec.read l.text = .ok (.number d) ∧ d.value = l.value := by
  rcases Json.NumberLiteral.exists_toDouble hdigits hrange hnearest with ⟨x, hx, hvalue⟩
  rcases exists_bothReadings (j := .double x) trivial with ⟨_, d, hreadings⟩
  refine ⟨d, ?_, hreadings.value_eq.trans hvalue⟩
  rw [Codec.read_of_document (l.read_text hfloat), hx]
  exact hreadings.value_read

namespace CentPrice

def literal : NumberLiteral where
  negative := false
  whole := ['1', '9']
  places := ['9', '9']
  exponent := none
  isDigits_whole := Text.isDigits_toDigits 19
  isDigits_places := Text.isDigits_toDigits 99
  whole_ne_nil := by decide
  leading := by decide

theorem value_literal : literal.value = 1999 / 100 := by
  have hdigits : Nat.ofDigitChars 10 (literal.whole ++ literal.places) 0 = 1999 := by decide
  have hpower : literal.power = -2 := by decide
  rw [NumberLiteral.value, NumberLiteral.magnitude, hdigits, hpower]
  norm_num [literal]

theorem price_as_written :
    (literal.IsFloat ∧ literal.digits.length ≤ 15 ∧
      (literal.value = 0 ∨ 10 ^ (-290 : Int) ≤ |literal.value| ∧
        |literal.value| ≤ 10 ^ (290 : Int)) ∧
      literal.scanned.significant.1.length ≤ NumberText.digitLimit) ∧
    literal.text = ['1', '9', '.', '9', '9'] ∧
    ∃ d, ClauseValue.codec.read literal.text = .ok (.number d) ∧ d.value = 1999 / 100 := by
  have hfloat : literal.IsFloat := .inl (by decide)
  have hdigits : literal.digits.length ≤ 15 := by decide
  have hrange : 10 ^ (-290 : Int) ≤ |literal.value| ∧ |literal.value| ≤ 10 ^ (290 : Int) := by
    rw [value_literal, abs_of_nonneg (by norm_num)]
    constructor
    · calc (10 : ℚ) ^ (-290 : Int)
          ≤ 10 ^ (0 : Int) := zpow_le_zpow_right₀ (by norm_num) (by decide)
        _ ≤ 1999 / 100 := by norm_num
    · calc (1999 / 100 : ℚ)
          ≤ 10 ^ (2 : Int) := by norm_num
        _ ≤ 10 ^ (290 : Int) := zpow_le_zpow_right₀ (by norm_num) (by decide)
  have hshort : literal.scanned.significant.1.length ≤ NumberText.digitLimit := by decide
  have hread := ClauseValue.number_as_written literal hfloat hdigits (.inr hrange)
    (fun hlong _ => absurd hshort (Nat.not_le_of_lt hlong))
  rw [value_literal] at hread
  exact ⟨⟨hfloat, hdigits, .inr hrange, hshort⟩, by decide, hread⟩

end CentPrice

end BankFeed
