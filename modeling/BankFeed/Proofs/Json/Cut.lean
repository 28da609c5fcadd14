import BankFeed.Proofs.Binary.Recovery
import BankFeed.Proofs.Json.Numbers

/-!
# Rows of digits that are cut short

The reader cuts a long row of digits after its 768th and puts a one there for the rest. Where this
rest is nothing but zeros, the row exceeds the number that is written, and by next to nothing.
-/

namespace BankFeed
namespace Json
namespace NumberText

open Text (IsDigits)

variable {digits : List Char} {power : Int}

theorem pow_le_leading (hdigits : IsDigits digits) (hfirst : digits.head? ≠ some '0')
    (hlong : digitLimit < digits.length) (power : Int) :
    (10 : ℚ) ^ (power + digits.length - 1) ≤ Nat.ofDigitChars 10 digits 0 * 10 ^ power := by
  have hne : digits ≠ [] := by
    rintro rfl
    exact absurd hlong (Nat.not_lt_zero _)
  have hleading : (10 : ℚ) ^ digits.length ≤ 10 * Nat.ofDigitChars 10 digits 0 := by
    exact_mod_cast Text.pow_le_ofDigitChars hdigits hne hfirst
  rw [zpow_sub_one₀ (by norm_num), zpow_add₀ (by norm_num), zpow_natCast, ← div_eq_mul_inv,
    div_le_iff₀ (by norm_num)]
  calc (10 : ℚ) ^ power * 10 ^ digits.length
      ≤ 10 ^ power * (10 * Nat.ofDigitChars 10 digits 0) := by gcongr
    _ = Nat.ofDigitChars 10 digits 0 * 10 ^ power * 10 := by ring

theorem eq_mul_of_short {rest : Nat} (hdigits : IsDigits digits) (hfirst : digits.head? ≠ some '0')
    (hlong : digitLimit < digits.length) (hrest : digits.length = digitLimit + rest)
    (hshort : ShortDecimal digitLimit (Nat.ofDigitChars 10 digits 0 * 10 ^ power)) :
    Nat.ofDigitChars 10 digits 0 = Nat.ofDigitChars 10 (digits.take digitLimit) 0 * 10 ^ rest := by
  have hlarge := pow_le_leading hdigits hfirst hlong power
  have hplace : power + rest + digitLimit = power + digits.length - 1 + 1 := by omega
  rcases hshort.exists_multiple hlarge hplace with ⟨m, hm⟩
  have hmultiple : Nat.ofDigitChars 10 digits 0 = m * 10 ^ rest := by
    have hpow : (10 : ℚ) ^ power ≠ 0 := by positivity
    rw [zpow_add₀ (by norm_num), zpow_natCast, mul_comm (10 ^ power), ← mul_assoc] at hm
    exact_mod_cast mul_right_cancel₀ hpow hm
  have hback : (digits.drop digitLimit).length = rest := by
    rw [List.length_drop]
    omega
  have hcut := Text.ofDigitChars_lt (hdigits.drop digitLimit)
  rw [hback] at hcut
  have hsplit : Nat.ofDigitChars 10 digits 0 =
      Nat.ofDigitChars 10 (digits.take digitLimit) 0 * 10 ^ rest +
        Nat.ofDigitChars 10 (digits.drop digitLimit) 0 := by
    conv => lhs; rw [← List.take_append_drop digitLimit digits]
    rw [Nat.ofDigitChars_append, Nat.ofDigitChars_eq_ofDigitChars_zero, hback, Nat.mul_comm]
  have hwhole : 10 ^ rest ∣ Nat.ofDigitChars 10 digits 0 := Dvd.intro_left m hmultiple.symm
  rw [hsplit] at hwhole
  -- What is cut off is less than this power of ten and a multiple of it.
  have hzeros := (Nat.dvd_add_right (Nat.dvd_mul_left _ _)).mp hwhole
  rw [hsplit, Nat.eq_zero_of_dvd_of_lt hzeros hcut, Nat.add_zero]

/-- The row that is read stands for a little more than the one that is written. -/
theorem condense_exceeds (hdigits : IsDigits digits) (hfirst : digits.head? ≠ some '0')
    (hlong : digitLimit < digits.length)
    (hshort : ShortDecimal digitLimit (Nat.ofDigitChars 10 digits 0 * 10 ^ power)) :
    let row := condense digits power
    let q : ℚ := Nat.ofDigitChars 10 digits 0 * 10 ^ power
    let r : ℚ := Nat.ofDigitChars 10 row.1 0 * 10 ^ row.2
    q < r ∧ 10 ^ digitLimit * (r - q) ≤ q := by
  intro row q r
  obtain ⟨rest, hrest⟩ : ∃ rest, digits.length = digitLimit + (rest + 1) :=
    ⟨digits.length - digitLimit - 1, by omega⟩
  have hrow : row = (digits.take digitLimit ++ ['1'], power + rest) := by
    have hcount : digits.length - digitLimit - 1 = rest := by omega
    show condense digits power = _
    rw [condense, if_neg (Nat.not_le.mpr hlong), hcount]
  have hexcess : r = q + 10 ^ (power + rest : Int) := by
    show (Nat.ofDigitChars 10 row.1 0 : ℚ) * 10 ^ row.2 = _
    rw [hrow, Nat.ofDigitChars_append, zpow_add₀ (by norm_num), zpow_natCast]
    show _ = (Nat.ofDigitChars 10 digits 0 : ℚ) * 10 ^ power + _
    rw [eq_mul_of_short hdigits hfirst hlong hrest hshort]
    simp only [Nat.ofDigitChars_cons, Nat.ofDigitChars_nil]
    push_cast
    ring
  have hleading := pow_le_leading hdigits hfirst hlong power
  have hpos : (0 : ℚ) < 10 ^ (power + rest : Int) := by positivity
  constructor
  · rw [hexcess]
    exact lt_add_of_pos_right q hpos
  · rw [hexcess, add_sub_cancel_left]
    calc (10 : ℚ) ^ digitLimit * 10 ^ (power + rest : Int)
        = 10 ^ (power + digits.length - 1 : Int) := by
          rw [← zpow_natCast, ← zpow_add₀ (by norm_num), hrest]
          congr 1
          push_cast
          ring
      _ ≤ q := hleading

end NumberText

namespace NumberLiteral

variable (l : NumberLiteral)

theorem isDigits_significant : Text.IsDigits l.scanned.significant.1 := by
  have hplaces : Text.IsDigits (l.scanned.places.getD []) := by
    unfold scanned
    split
    · exact Text.isDigits_nil
    · exact l.isDigits_places
  intro c hc
  have hmem := (List.dropWhile_suffix _).subset hc
  rcases List.mem_append.mp hmem with hwhole | hplace
  · exact l.isDigits_whole c hwhole
  · exact hplaces c (List.mem_reverse.mp ((List.dropWhile_suffix _).subset
      (List.mem_reverse.mp hplace)))

theorem head?_significant_ne_zero : l.scanned.significant.1.head? ≠ some '0' := by
  intro hzero
  have hfirst := List.head?_dropWhile_not (fun c => decide (c = '0'))
    (l.scanned.whole ++ Text.dropEndZeros (l.scanned.places.getD []))
  have hsame : ((l.scanned.whole ++ Text.dropEndZeros (l.scanned.places.getD [])).dropWhile
      (fun c => decide (c = '0'))).head? = some '0' := hzero
  rw [hsame] at hfirst
  cases hfirst

theorem magnitude_pos_of_long (hlong : NumberText.digitLimit < l.scanned.significant.1.length) :
    0 < l.magnitude := by
  have hleading := NumberText.pow_le_leading l.isDigits_significant l.head?_significant_ne_zero hlong
    l.scanned.significant.2
  rw [magnitude_eq_significant]
  exact lt_of_lt_of_le (by positivity) hleading

theorem condense_exceeds (hlong : NumberText.digitLimit < l.scanned.significant.1.length)
    (hshort : ShortDecimal NumberText.digitLimit l.magnitude) :
    let row := NumberText.condense l.scanned.significant.1 l.scanned.significant.2
    let r : ℚ := Nat.ofDigitChars 10 row.1 0 * 10 ^ row.2
    l.magnitude < r ∧ 10 ^ NumberText.digitLimit * (r - l.magnitude) ≤ l.magnitude := by
  rw [magnitude_eq_significant] at hshort ⊢
  exact NumberText.condense_exceeds l.isDigits_significant l.head?_significant_ne_zero hlong hshort

end NumberLiteral
end Json
end BankFeed
