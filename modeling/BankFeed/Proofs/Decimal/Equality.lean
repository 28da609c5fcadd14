import BankFeed.Decimal.Equality
import BankFeed.Proofs.Decimal.Value

/-!
# Where the test for equality is exact

As long as the power of ten fits a word, no product of words with a carry passes two words, and
nothing is lost. So the test agrees with the values where the scales differ by less than ten; it
also does where they differ so much that words are not used.
-/

namespace BankFeed
namespace Decimal

/-!
## Words
-/

theorem lt_wordBase_pow (n : Nat) : n < wordBase ^ (n.log2 / 32 + 1) := by
  have hbits : n < 2 ^ (n.log2 + 1) := Nat.lt_log2_self
  have hbase : wordBase ^ (n.log2 / 32 + 1) = 2 ^ (32 * (n.log2 / 32 + 1)) := by
    rw [Nat.pow_mul]
    rfl
  rw [hbase]
  exact Nat.lt_of_lt_of_le hbits (Nat.pow_le_pow_right (by decide) (by omega))

theorem wordsUpTo_zero (count : Nat) : wordsUpTo count 0 = [] := by
  cases count <;> rfl

theorem div_wordBase_lt {count n : Nat} (h : n < wordBase ^ (count + 1)) :
    n / wordBase < wordBase ^ count :=
  Nat.div_lt_of_lt_mul (by rwa [Nat.pow_succ, Nat.mul_comm] at h)

theorem wordsUpTo_eq {count count' n : Nat} (h : n < wordBase ^ count)
    (h' : n < wordBase ^ count') : wordsUpTo count n = wordsUpTo count' n := by
  induction count generalizing count' n with
  | zero =>
      obtain rfl : n = 0 := by simpa using h
      rw [wordsUpTo_zero, wordsUpTo_zero]
  | succ count ih =>
      cases count' with
      | zero =>
          obtain rfl : n = 0 := by simpa using h'
          rw [wordsUpTo_zero, wordsUpTo_zero]
      | succ count' => rw [wordsUpTo, wordsUpTo, ih (div_wordBase_lt h) (div_wordBase_lt h')]

theorem words_zero : words 0 = [] := rfl

theorem words_of_ne_zero {n : Nat} (h : n ≠ 0) :
    words n = n % wordBase :: words (n / wordBase) := by
  have hrest := div_wordBase_lt (lt_wordBase_pow n)
  rw [words, wordsUpTo, if_neg h, words, wordsUpTo_eq hrest (lt_wordBase_pow _)]

theorem div_wordBase_lt_self {n : Nat} (h : n ≠ 0) : n / wordBase < n :=
  Nat.div_lt_self (Nat.pos_of_ne_zero h) (by decide)

/-- A number is a sum if the lowest words agree and the rest is the sum of what is carried. -/
theorem eq_add_mul_wordBase_iff (m p r : Nat) :
    m = p + wordBase * r ↔ m % wordBase = p % wordBase ∧ m / wordBase = r + p / wordBase := by
  unfold wordBase
  omega

/-!
## Products
-/

theorem sameWords_words_nil (factor m : Nat) {carry : Nat} (hcarry : carry < wordBase) :
    sameWords factor carry (words m) [] = some (decide (m = carry)) := by
  induction m using Nat.strongRecOn generalizing carry with
  | ind m ih =>
      by_cases hm : m = 0
      · rw [hm, words_zero, sameWords]
        rw [Bool.beq_eq_decide_eq, decide_eq_decide.mpr eq_comm]
      · have hsum := eq_add_mul_wordBase_iff m carry 0
        rw [Nat.mul_zero, Nat.add_zero, Nat.mod_eq_of_lt hcarry, Nat.div_eq_of_lt hcarry] at hsum
        rw [words_of_ne_zero hm, sameWords, ih (m / wordBase) (div_wordBase_lt_self hm) (by decide)]
        by_cases hword : m % wordBase = carry
        · simp [hword, hsum]
        · simp [hword, hsum]

section Factors

variable {factor : Nat} (hpos : 0 < factor) (hfactor : factor < wordBase)

include hpos hfactor

theorem sameWords_words (m n : Nat) {carry : Nat} (hcarry : carry < wordBase) :
    sameWords factor carry (words m) (words n) = some (decide (m = n * factor + carry)) := by
  induction m using Nat.strongRecOn generalizing n carry with
  | ind m ih =>
      by_cases hn : n = 0
      · rw [hn, words_zero, sameWords_words_nil factor m hcarry, Nat.zero_mul, Nat.zero_add]
      · have hproduct : n % wordBase * factor + carry < wordBase * wordBase := by
          have hword : n % wordBase < wordBase := Nat.mod_lt n (by decide)
          calc n % wordBase * factor + carry
              ≤ (wordBase - 1) * (wordBase - 1) + (wordBase - 1) :=
                Nat.add_le_add (Nat.mul_le_mul (by omega) (by omega)) (by omega)
            _ < wordBase * wordBase := by decide
        have hsplit : n * factor + carry =
            n % wordBase * factor + carry + wordBase * (n / wordBase * factor) := by
          conv_lhs => rw [← Nat.mod_add_div n wordBase]
          ring
        by_cases hm : m = 0
        · have hproductPos : 0 < n * factor := Nat.mul_pos (by omega) hpos
          rw [hm, words_zero, words_of_ne_zero hn, sameWords, decide_eq_false (by omega)]
        · have hcarry' : (n % wordBase * factor + carry) / wordBase < wordBase :=
            Nat.div_lt_of_lt_mul hproduct
          rw [words_of_ne_zero hm, words_of_ne_zero hn, sameWords, if_neg (by omega),
            Nat.mod_eq_of_lt hproduct, hsplit]
          simp only [ih (m / wordBase) (div_wordBase_lt_self hm) (n / wordBase) hcarry',
            eq_add_mul_wordBase_iff m]
          by_cases hword : m % wordBase = (n % wordBase * factor + carry) % wordBase
          · simp [hword]
          · simp [hword]

end Factors

theorem log2_add_le_log2_mul {m n : Nat} (hm : 0 < m) (hn : 0 < n) :
    m.log2 + n.log2 ≤ (m * n).log2 := by
  rw [Nat.le_log2 (Nat.mul_pos hm hn).ne', Nat.pow_add]
  exact Nat.mul_le_mul (Nat.log2_self_le hm.ne') (Nat.log2_self_le hn.ne')

theorem ne_mul_of_log2_lt {m n factor : Nat} (hn : 0 < n) (hfactor : 0 < factor)
    (h : m.log2 < n.log2 + factor.log2) : m ≠ n * factor := by
  rintro rfl
  exact absurd (log2_add_le_log2_mul hn hfactor) (by omega)

theorem sameScaled_eq {m n shift : Nat} (hn : 0 < n) (hshift : shift < 10) :
    sameScaled m n shift = decide (m = n * 10 ^ shift) := by
  have hpow : 10 ^ shift < wordBase :=
    Nat.lt_of_le_of_lt (Nat.pow_le_pow_right (by decide) (Nat.le_of_lt_succ hshift) : _ ≤ 10 ^ 9)
      (by decide)
  have hpos : 0 < 10 ^ shift := Nat.pow_pos (by decide)
  unfold sameScaled
  by_cases hbits : m.log2 < n.log2 + (10 ^ shift).log2
  · rw [if_pos hbits, decide_eq_false (ne_mul_of_log2_lt hn hpos hbits)]
  · rw [if_neg hbits, sameWords_words hpos hpow m n (by decide)]
    rfl

/-!
## Large factors

A larger power of ten does not fit a word. With a single word on the other side nothing is carried
yet, so nothing is lost. With two words the excess over three words is lost at most once.
-/

section LargeFactors

variable {factor m n : Nat}

theorem sameWords_words_cons (hm : m ≠ 0) (hn : n ≠ 0) (carry : Nat) :
    sameWords factor carry (words m) (words n) =
      if wordBase * wordBase ≤ n % wordBase * factor then none
      else
        let wide := (n % wordBase * factor + carry) % (wordBase * wordBase)
        if m % wordBase = wide % wordBase then
          sameWords factor (wide / wordBase) (words (m / wordBase)) (words (n / wordBase))
        else some false := by
  rw [words_of_ne_zero hm, words_of_ne_zero hn, sameWords]

theorem sameWords_zero_words (hn : n ≠ 0) (carry : Nat) :
    sameWords factor carry (words 0) (words n) = some false := by
  rw [words_zero, words_of_ne_zero hn, sameWords]

theorem eq_of_sameWords_of_lt {carry : Nat} (hn : n < wordBase) (hcarry : carry < wordBase)
    (h : sameWords factor carry (words m) (words n) = some true) :
    m = n * factor + carry ∨ m + wordBase * wordBase = n * factor + carry := by
  by_cases hzero : n = 0
  · subst hzero
    rw [words_zero, sameWords_words_nil factor m hcarry] at h
    have hm : m = carry := by simpa using h
    exact .inl (by rw [hm, Nat.zero_mul, Nat.zero_add])
  · by_cases hm : m = 0
    · rw [hm, sameWords_zero_words hzero] at h
      cases h
    · rw [sameWords_words_cons hm hzero, Nat.mod_eq_of_lt hn, Nat.div_eq_of_lt hn, words_zero] at h
      split at h
      · cases h
      · next hfits =>
          have hwide : (n * factor + carry) % (wordBase * wordBase) / wordBase < wordBase :=
            Nat.div_lt_of_lt_mul (Nat.mod_lt _ (by decide))
          simp only [sameWords_words_nil factor _ hwide] at h
          split at h
          · next hword =>
              have hrest : m / wordBase =
                  (n * factor + carry) % (wordBase * wordBase) / wordBase := by simpa using h
              -- Of the two words nothing but a multiple of their capacity can be missing.
              have hsum : m = (n * factor + carry) % (wordBase * wordBase) := by
                rw [← Nat.mod_add_div m wordBase, hword, hrest, Nat.mod_add_div]
              unfold wordBase at *
              omega
          · cases h

theorem sameScaled_iff_of_lt {shift : Nat} (hm : 0 < m) (hn : 0 < n) (hword : n < wordBase) :
    sameScaled m n shift = true ↔ m = n * 10 ^ shift := by
  unfold sameScaled
  by_cases hbits : m.log2 < n.log2 + (10 ^ shift).log2
  · rw [if_pos hbits]
    simp [ne_mul_of_log2_lt hn (Nat.pow_pos (by decide)) hbits]
  · rw [if_neg hbits, sameWords_words_cons hm.ne' hn.ne', Nat.mod_eq_of_lt hword,
      Nat.div_eq_of_lt hword, words_zero]
    by_cases hfits : wordBase * wordBase ≤ n * 10 ^ shift
    · rw [if_pos hfits, beq_iff_eq]
    · have hcarry : n * 10 ^ shift / wordBase < wordBase := Nat.div_lt_of_lt_mul (not_le.mp hfits)
      have hsum := eq_add_mul_wordBase_iff m (n * 10 ^ shift) 0
      rw [Nat.mul_zero, Nat.add_zero, Nat.zero_add] at hsum
      rw [if_neg hfits, Nat.add_zero, Nat.mod_eq_of_lt (not_le.mp hfits)]
      simp only [sameWords_words_nil _ _ hcarry, hsum]
      by_cases hfirst : m % wordBase = n * 10 ^ shift % wordBase
      · simp [hfirst]
      · simp [hfirst]

theorem log2_lt_of_lt_sq {shift : Nat} (hm : m < wordBase * wordBase) (hn : wordBase ≤ n)
    (hshift : 10 ≤ shift) : m.log2 < n.log2 + (10 ^ shift).log2 := by
  have hmBits : m.log2 < 64 := by
    by_cases hzero : m = 0
    · rw [hzero]
      decide
    · exact (Nat.log2_lt hzero).mpr hm
  have hnBits : 32 ≤ n.log2 :=
    (Nat.le_log2 (Nat.lt_of_lt_of_le (by decide) hn).ne').mpr hn
  have hpowBits : 32 ≤ (10 ^ shift).log2 := by
    rw [Nat.le_log2 (Nat.pow_pos (by decide)).ne']
    exact Nat.le_trans (by decide) (Nat.pow_le_pow_right (by decide) hshift)
  omega

theorem sameScaled_iff_of_lt_sq {shift : Nat} (hm : 0 < m) (hn : 0 < n)
    (hwords : m < wordBase * wordBase) : sameScaled m n shift = true ↔ m = n * 10 ^ shift := by
  by_cases hshift : shift < 10
  · rw [sameScaled_eq hn hshift, decide_eq_true_eq]
  · by_cases hword : n < wordBase
    · exact sameScaled_iff_of_lt hm hn hword
    · have hbits := log2_lt_of_lt_sq hwords (not_lt.mp hword) (not_lt.mp hshift)
      rw [sameScaled, if_pos hbits]
      simp [ne_mul_of_log2_lt hn (Nat.pow_pos (by decide)) hbits]

/-- Two words are multiplied without loss, or the excess over three words is missing. -/
theorem eq_of_sameWords (hn : n < wordBase * wordBase)
    (h : sameWords factor 0 (words m) (words n) = some true) :
    m = n * factor ∨ m + wordBase * (wordBase * wordBase) = n * factor := by
  by_cases hzero : n = 0
  · exact (eq_of_sameWords_of_lt (hzero ▸ by decide) (by decide) h).imp id fun hsum => by
      rw [hzero, Nat.zero_mul] at hsum
      exact absurd hsum (by unfold wordBase; omega)
  · by_cases hm : m = 0
    · rw [hm, sameWords_zero_words hzero] at h
      cases h
    · rw [sameWords_words_cons hm hzero, Nat.add_zero] at h
      split at h
      · cases h
      · next hfits =>
          have hlast : n / wordBase < wordBase := Nat.div_lt_of_lt_mul hn
          have hcarry : n % wordBase * factor / wordBase < wordBase :=
            Nat.div_lt_of_lt_mul (not_le.mp hfits)
          have hsplit : n * factor =
              n % wordBase * factor + wordBase * (n / wordBase * factor) := by
            conv_lhs => rw [← Nat.mod_add_div n wordBase]
            ring
          rw [Nat.mod_eq_of_lt (not_le.mp hfits)] at h
          simp only at h
          split at h
          · next hfirst =>
              rw [hsplit]
              rcases eq_of_sameWords_of_lt hlast hcarry h with hrest | hrest
              · exact .inl ((eq_add_mul_wordBase_iff ..).mpr ⟨hfirst, hrest⟩)
              · refine .inr ((eq_add_mul_wordBase_iff ..).mpr ?_)
                rw [Nat.add_mul_mod_self_left, Nat.add_mul_div_left _ _ (by decide)]
                exact ⟨hfirst, hrest⟩
          · cases h

/-- A multiple of five is no product with something missing. -/
theorem eq_of_sameScaled {shift : Nat} (hn : n < wordBase * wordBase) (hshift : 0 < shift)
    (hfive : 5 ∣ m) (h : sameScaled m n shift = true) : m = n * 10 ^ shift := by
  unfold sameScaled at h
  split at h
  · cases h
  · split at h
    · next answer hanswer =>
        subst h
        rcases eq_of_sameWords hn hanswer with hproduct | hmissing
        · exact hproduct
        · have hproduct : 5 ∣ n * 10 ^ shift :=
            Dvd.dvd.mul_left (dvd_pow (by decide) hshift.ne') n
          rw [← hmissing, Nat.dvd_add_right hfive] at hproduct
          exact absurd hproduct (by decide)
    · exact beq_iff_eq.mp h

end LargeFactors

/-!
## Decimals
-/

section Magnitudes

variable {m n : Nat} {s t : Int}

theorem magnitude_inj_of_scale_eq : magnitude m s = magnitude n s ↔ m = n := by
  rw [← compare_eq_iff_eq, compare_magnitude_of_scale_eq, compare_eq_iff_eq]

theorem magnitude_eq_iff_of_le (h : t ≤ s) :
    magnitude m s = magnitude n t ↔ m = n * 10 ^ (s - t).toNat := by
  have hscale : t + ((s - t).toNat : Int) = s := by omega
  rw [magnitude_eq_mul n t (s - t).toNat, hscale, magnitude_inj_of_scale_eq]

end Magnitudes

variable {a b : Decimal}

theorem sign_eq_of_value_eq (h : a.value = b.value) :
    a.coefficient.sign = b.coefficient.sign := by
  rcases Int.lt_trichotomy a.coefficient.sign b.coefficient.sign with hlt | heq | hgt
  · exact absurd h (value_lt_of_sign_lt hlt).ne
  · exact heq
  · exact absurd h (value_lt_of_sign_lt hgt).ne'

theorem value_eq_iff_of_sign_eq (h : a.coefficient.sign = b.coefficient.sign) :
    a.value = b.value ↔
      magnitude a.coefficient.natAbs a.scale = magnitude b.coefficient.natAbs b.scale := by
  by_cases ha : 0 ≤ a.coefficient
  · have hb : 0 ≤ b.coefficient := by
      rw [← Int.sign_nonneg_iff] at ha ⊢
      rwa [← h]
    rw [value_of_nonneg ha, value_of_nonneg hb]
  · have hb : b.coefficient < 0 := by
      rw [Int.sign_eq_neg_one_of_neg (by omega)] at h
      exact Int.sign_eq_neg_one_iff_neg.mp h.symm
    rw [value_of_nonpos (by omega), value_of_nonpos hb.le, neg_inj]

theorem value_eq_iff_of_scale_eq (h : a.scale = b.scale) :
    a.value = b.value ↔ a.coefficient = b.coefficient := by
  unfold value
  rw [h, mul_left_inj' b.scaleFactor_pos.ne', Int.cast_inj]

theorem same_iff_value_eq_of
    (hless : b.scale < a.scale → a.coefficient ≠ 0 → b.coefficient ≠ 0 → a.scale - b.scale < 20 →
      (sameScaled a.coefficient.natAbs b.coefficient.natAbs (a.scale - b.scale).toNat = true ↔
        a.coefficient.natAbs = b.coefficient.natAbs * 10 ^ (a.scale - b.scale).toNat))
    (hgreater : a.scale < b.scale → a.coefficient ≠ 0 → b.coefficient ≠ 0 →
      b.scale - a.scale < 20 →
      (sameScaled b.coefficient.natAbs a.coefficient.natAbs (b.scale - a.scale).toNat = true ↔
        b.coefficient.natAbs = a.coefficient.natAbs * 10 ^ (b.scale - a.scale).toNat)) :
    a.same b = true ↔ a.value = b.value := by
  by_cases hscale : a.scale = b.scale
  · rw [same_of_scale_eq hscale, value_eq_iff_of_scale_eq hscale]
  · by_cases hsign : a.coefficient.sign = b.coefficient.sign
    -- Numbers of one sign are compared by their magnitudes, in the order of the test's own cases.
    · by_cases hzero : a.coefficient = 0
      · have hb : b.coefficient = 0 := by
          rw [hzero, Int.sign_zero] at hsign
          exact Int.sign_eq_zero_iff_zero.mp hsign.symm
        simp [same, hzero, hb, value_eq_zero_iff.mpr hzero, value_eq_zero_iff.mpr hb]
      · have hb : b.coefficient ≠ 0 := by
          intro hb
          rw [hb, Int.sign_zero] at hsign
          exact hzero (Int.sign_eq_zero_iff_zero.mp hsign)
        unfold same
        rw [if_neg (not_not.mpr hsign), if_neg hzero, if_neg hscale]
        by_cases hfar : wordShiftLimit ≤ (a.scale - b.scale).natAbs
        · rw [if_pos hfar, cmp_eq_compare, beq_iff_eq, compare_eq_iff_eq]
        · rw [if_neg hfar, value_eq_iff_of_sign_eq hsign]
          unfold wordShiftLimit at hfar
          by_cases hlower : b.scale < a.scale
          · rw [if_pos hlower, hless hlower hzero hb (by omega), magnitude_eq_iff_of_le hlower.le]
          · rw [if_neg hlower, hgreater (by omega) hzero hb (by omega)]
            exact (magnitude_eq_iff_of_le (not_lt.mp hlower)).symm.trans eq_comm
    · have hne : a.value ≠ b.value := fun heq => hsign (sign_eq_of_value_eq heq)
      simp [same, hsign, hne]

/-- The test agrees with the values where no product of words can pass two words. -/
theorem same_iff_value_eq
    (h : (a.scale - b.scale).natAbs < 10 ∨ 20 ≤ (a.scale - b.scale).natAbs) :
    a.same b = true ↔ a.value = b.value := by
  refine same_iff_value_eq_of (fun hlower _ hb hnear => ?_) (fun hlower ha _ hnear => ?_)
  · rw [sameScaled_eq (Int.natAbs_pos.mpr hb) (by omega), decide_eq_true_eq]
  · rw [sameScaled_eq (Int.natAbs_pos.mpr ha) (by omega), decide_eq_true_eq]

end Decimal
end BankFeed
