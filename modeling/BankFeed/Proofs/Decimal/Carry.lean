import BankFeed.Proofs.Decimal.Equality

/-!
# Lost carries

The test for equality goes wrong in one way only: at some word the product with the power of ten
fits two words by itself, and together with what the lower words carry it does not. Where this does
not happen the test says whether the values are equal, and it never happens while coefficients have
two words at most.
-/

namespace BankFeed
namespace Decimal

variable {factor carry m n shift : Nat}

/-- When `n` is multiplied word by word, the carry is dropped at some word: the product of the word
alone fits two words, and with the carry of the lower words it does not. -/
def DropsCarry (factor carry n : Nat) : Prop :=
  ∃ i, n / wordBase ^ i % wordBase * factor < wordBase * wordBase ∧
    wordBase * wordBase ≤ (n % wordBase ^ (i + 1) * factor + carry) / wordBase ^ i

/-- What is carried past the lowest word is all that the higher words need to know of it. -/
theorem wide_succ (factor carry n i : Nat) :
    (n % wordBase ^ (i + 1 + 1) * factor + carry) / wordBase ^ (i + 1) =
      (n / wordBase % wordBase ^ (i + 1) * factor + (n % wordBase * factor + carry) / wordBase) /
        wordBase ^ i := by
  have hsplit : n % wordBase ^ (i + 1 + 1) * factor + carry =
      n % wordBase * factor + carry + wordBase * (n / wordBase % wordBase ^ (i + 1) * factor) := by
    rw [Nat.pow_succ' (n := i + 1), Nat.mod_mul]
    ring
  calc (n % wordBase ^ (i + 1 + 1) * factor + carry) / wordBase ^ (i + 1)
      = (n % wordBase * factor + carry + wordBase * (n / wordBase % wordBase ^ (i + 1) * factor)) /
          wordBase / wordBase ^ i := by
        rw [hsplit, Nat.div_div_eq_div_mul, ← Nat.pow_succ']
    _ = (n / wordBase % wordBase ^ (i + 1) * factor + (n % wordBase * factor + carry) / wordBase) /
          wordBase ^ i := by
        rw [Nat.add_mul_div_left _ _ (by decide), Nat.add_comm]

theorem DropsCarry.of_rest
    (h : DropsCarry factor ((n % wordBase * factor + carry) / wordBase) (n / wordBase)) :
    DropsCarry factor carry n := by
  rcases h with ⟨i, hfits, hwide⟩
  refine ⟨i + 1, ?_, ?_⟩
  · rwa [Nat.pow_succ', ← Nat.div_div_eq_div_mul]
  · rwa [wide_succ]

theorem not_dropsCarry_lowest (h : ¬ DropsCarry factor carry n)
    (hfits : n % wordBase * factor < wordBase * wordBase) :
    n % wordBase * factor + carry < wordBase * wordBase := by
  by_contra hwide
  apply h
  refine ⟨0, ?_, ?_⟩
  · simpa using hfits
  · simpa using hwide

theorem sameWords_words_of_not_dropsCarry (hpos : 0 < factor) (hcarry : carry < wordBase)
    (h : ¬ DropsCarry factor carry n) :
    sameWords factor carry (words m) (words n) = none ∨
      sameWords factor carry (words m) (words n) = some (decide (m = n * factor + carry)) := by
  induction m using Nat.strongRecOn generalizing n carry with
  | ind m ih =>
      by_cases hn : n = 0
      · rw [hn, words_zero, sameWords_words_nil factor m hcarry, Nat.zero_mul, Nat.zero_add]
        exact .inr rfl
      · by_cases hm : m = 0
        · have hproduct : 0 < n * factor := Nat.mul_pos (by omega) hpos
          rw [hm, sameWords_zero_words hn, decide_eq_false (by omega)]
          exact .inr rfl
        · rw [sameWords_words_cons hm hn]
          by_cases hwide : wordBase * wordBase ≤ n % wordBase * factor
          · rw [if_pos hwide]
            exact .inl rfl
          -- The lowest word drops nothing, nor does the rest, as the whole would drop it too.
          · have hsum := not_dropsCarry_lowest h (not_le.mp hwide)
            have hcarry' : (n % wordBase * factor + carry) / wordBase < wordBase :=
              Nat.div_lt_of_lt_mul hsum
            have hsplit : n * factor + carry =
                n % wordBase * factor + carry + wordBase * (n / wordBase * factor) := by
              conv_lhs => rw [← Nat.mod_add_div n wordBase]
              ring
            rw [if_neg hwide, Nat.mod_eq_of_lt hsum, hsplit]
            simp only [eq_add_mul_wordBase_iff m]
            by_cases hword : m % wordBase = (n % wordBase * factor + carry) % wordBase
            · rw [if_pos hword]
              simpa [hword] using
                ih (m / wordBase) (div_wordBase_lt_self hm) hcarry' (fun hrest => h hrest.of_rest)
            · rw [if_neg hword]
              exact .inr (by simp [hword])

theorem sameScaled_iff_of_not_dropsCarry (hn : 0 < n)
    (h : n.log2 + (10 ^ shift).log2 ≤ m.log2 → ¬ DropsCarry (10 ^ shift) 0 n) :
    sameScaled m n shift = true ↔ m = n * 10 ^ shift := by
  have hpos : 0 < 10 ^ shift := Nat.pow_pos (by decide)
  unfold sameScaled
  by_cases hbits : m.log2 < n.log2 + (10 ^ shift).log2
  · rw [if_pos hbits]
    simp [ne_mul_of_log2_lt hn hpos hbits]
  · rw [if_neg hbits]
    rcases sameWords_words_of_not_dropsCarry (m := m) hpos (by decide) (h (not_lt.mp hbits)) with
      hnone | hsome
    · rw [hnone, beq_iff_eq]
    · rw [hsome]
      simp

/-!
## Decimals
-/

variable {a b : Decimal}

/-- The coefficient of `b` is scaled to that of `a`, which is long enough, and drops a carry. -/
def LosesCarry (a b : Decimal) : Prop :=
  b.scale < a.scale ∧ a.scale - b.scale < wordShiftLimit ∧
    b.coefficient.natAbs.log2 + (10 ^ (a.scale - b.scale).toNat).log2 ≤
      a.coefficient.natAbs.log2 ∧
    DropsCarry (10 ^ (a.scale - b.scale).toNat) 0 b.coefficient.natAbs

def MayLoseCarry (a b : Decimal) : Prop :=
  LosesCarry a b ∨ LosesCarry b a

theorem same_iff_value_eq_of_not_mayLoseCarry (h : ¬ MayLoseCarry a b) :
    a.same b = true ↔ a.value = b.value := by
  refine same_iff_value_eq_of ?_ ?_
  · intro hlower _ hb hnear
    apply sameScaled_iff_of_not_dropsCarry (Int.natAbs_pos.mpr hb)
    intro hbits hdrops
    exact h (.inl ⟨hlower, hnear, hbits, hdrops⟩)
  · intro hlower ha _ hnear
    apply sameScaled_iff_of_not_dropsCarry (Int.natAbs_pos.mpr ha)
    intro hbits hdrops
    exact h (.inr ⟨hlower, hnear, hbits, hdrops⟩)

/-!
## Short coefficients
-/

theorem not_dropsCarry_of_factor_lt (h : factor < wordBase) : ¬ DropsCarry factor 0 n := by
  intro hdrops
  rcases hdrops with ⟨i, _, hwide⟩
  have hproduct : n % wordBase ^ (i + 1) * factor + 0 < wordBase ^ i * (wordBase * wordBase) :=
    calc n % wordBase ^ (i + 1) * factor
        < wordBase ^ (i + 1) * wordBase :=
          Nat.mul_lt_mul'' (Nat.mod_lt n (Nat.pow_pos (by decide))) h
      _ = wordBase ^ i * (wordBase * wordBase) := by
          rw [Nat.pow_succ, Nat.mul_assoc]
  exact absurd (Nat.div_lt_of_lt_mul hproduct) (not_lt.mpr hwide)

theorem not_dropsCarry_of_lt (hn : n < wordBase) (hfactor : factor < wordBase * wordBase) :
    ¬ DropsCarry factor 0 n := by
  intro hdrops
  rcases hdrops with ⟨i, hfits, hwide⟩
  have hlow : n < wordBase ^ (i + 1) :=
    Nat.lt_of_lt_of_le hn (Nat.le_self_pow (Nat.succ_ne_zero i) wordBase)
  rw [Nat.mod_eq_of_lt hlow, Nat.add_zero] at hwide
  cases i with
  | zero =>
      rw [Nat.pow_zero, Nat.div_one] at hwide hfits
      rw [Nat.mod_eq_of_lt hn] at hfits
      exact absurd hfits (not_lt.mpr hwide)
  | succ i =>
      have hproduct : n * factor < wordBase ^ (i + 1) * (wordBase * wordBase) :=
        calc n * factor
            < wordBase * (wordBase * wordBase) := Nat.mul_lt_mul'' hn hfactor
          _ ≤ wordBase ^ (i + 1) * (wordBase * wordBase) :=
            Nat.mul_le_mul_right _ (Nat.le_self_pow (Nat.succ_ne_zero i) wordBase)
      exact absurd (Nat.div_lt_of_lt_mul hproduct) (not_lt.mpr hwide)

/-- A coefficient of two words drops no carry: the other one has a single word, or the power of ten
does, or the two are of different length. -/
theorem not_losesCarry_of_lt (h : a.coefficient.natAbs < wordBase * wordBase) :
    ¬ LosesCarry a b := by
  intro hloses
  rcases hloses with ⟨_, hnear, hbits, hdrops⟩
  unfold wordShiftLimit at hnear
  generalize hshift : (a.scale - b.scale).toNat = shift at hbits hdrops
  by_cases hshort : shift < 10
  · have hfactor : 10 ^ shift < wordBase :=
      Nat.lt_of_le_of_lt (Nat.pow_le_pow_right (by decide) (Nat.le_of_lt_succ hshort))
        (by decide : 10 ^ 9 < wordBase)
    exact not_dropsCarry_of_factor_lt hfactor hdrops
  · by_cases hword : b.coefficient.natAbs < wordBase
    · have hfactor : 10 ^ shift < wordBase * wordBase :=
        Nat.lt_of_le_of_lt (Nat.pow_le_pow_right (by decide) (by omega))
          (by decide : 10 ^ 19 < wordBase * wordBase)
      exact not_dropsCarry_of_lt hword hfactor hdrops
    · exact absurd (log2_lt_of_lt_sq h (not_lt.mp hword) (not_lt.mp hshort)) (not_lt.mpr hbits)

theorem not_mayLoseCarry_of_lt (ha : a.coefficient.natAbs < wordBase * wordBase)
    (hb : b.coefficient.natAbs < wordBase * wordBase) : ¬ MayLoseCarry a b := by
  intro hloses
  rcases hloses with hleft | hright
  · exact not_losesCarry_of_lt ha hleft
  · exact not_losesCarry_of_lt hb hright

end Decimal
end BankFeed
