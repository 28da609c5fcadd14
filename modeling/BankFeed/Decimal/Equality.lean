import BankFeed.Decimal.Basic

/-!
# Equality of decimals

The test for equality is made for speed. Where the scales differ by less than twenty, the
coefficient of the smaller scale is multiplied by the power of ten word by word and compared
with the other coefficient on the way, before the product is complete. Words have 32 bits and
are multiplied in 64 bits: where a product and the carry together pass 64 bits, the excess is
lost. Such a loss may make equal decimals differ and different ones equal; the comparison by
order is exact, so it does not always agree. Decimals of the same scale are compared exactly,
and so are those whose scales are further apart.
-/

namespace BankFeed
namespace Decimal

-- Powers are those of natural numbers, whatever algebra is in scope.
attribute [local instance (high)] instPowNat

/-! ## Words -/

def wordBase : Nat := 4294967296

def wordsUpTo : Nat → Nat → List Nat
  | 0, _ => []
  | count + 1, n => if n = 0 then [] else n % wordBase :: wordsUpTo count (n / wordBase)

def words (n : Nat) : List Nat :=
  wordsUpTo (n.log2 / 32 + 1) n

/-! ## The test -/

/-- Compares words with the words of a product, lowest first. There is no answer once a
product alone passes 64 bits. -/
def sameWords (factor : Nat) (carry : Nat) : List Nat → List Nat → Option Bool
  | [], [] => some (carry == 0)
  | [], _ :: _ => some false
  | w :: ws, [] => if w = carry then sameWords factor 0 ws [] else some false
  | w :: ws, v :: vs =>
      if wordBase * wordBase ≤ v * factor then none
      else
        let wide := (v * factor + carry) % (wordBase * wordBase)
        if w = wide % wordBase then sameWords factor (wide / wordBase) ws vs else some false

/-- Tests whether `m` is `n * 10 ^ shift` for positive numbers: by their lengths in bits,
then by words, then exactly if the words give no answer. -/
def sameScaled (m n shift : Nat) : Bool :=
  if m.log2 < n.log2 + (10 ^ shift).log2 then false
  else
    match sameWords (10 ^ shift) 0 (words m) (words n) with
    | some answer => answer
    | none => m == n * 10 ^ shift

/-- From this difference of scales on words are not used. -/
def wordShiftLimit : Int := 20

def same (a b : Decimal) : Bool :=
  if a.coefficient.sign ≠ b.coefficient.sign then false
  else if a.coefficient = 0 then true
  else if a.scale = b.scale then a.coefficient == b.coefficient
  else if wordShiftLimit ≤ (a.scale - b.scale).natAbs then a.cmp b == .eq
  else if b.scale < a.scale then
    sameScaled a.coefficient.natAbs b.coefficient.natAbs (a.scale - b.scale).toNat
  else
    sameScaled b.coefficient.natAbs a.coefficient.natAbs (b.scale - a.scale).toNat

theorem same_of_scale_eq {a b : Decimal} (h : a.scale = b.scale) :
    a.same b = true ↔ a.coefficient = b.coefficient := by
  unfold same
  by_cases hsign : a.coefficient.sign = b.coefficient.sign
  · by_cases hzero : a.coefficient = 0
    · have hb : b.coefficient = 0 := by
        rw [hzero, Int.sign_zero] at hsign
        exact Int.sign_eq_zero_iff_zero.mp hsign.symm
      simp [hzero, hb]
    · simp [hsign, hzero, h]
  · have hne : a.coefficient ≠ b.coefficient := fun e => hsign (by rw [e])
    simp [hsign, hne]

theorem same_self (a : Decimal) : a.same a = true :=
  (same_of_scale_eq rfl).mpr rfl

end Decimal
end BankFeed
