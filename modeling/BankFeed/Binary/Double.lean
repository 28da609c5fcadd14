import BankFeed.Binary.Rounding

/-!
# Double-precision numbers

A finite double is a signed significand of 53 bits times a power of two, in the one form in
which the significand is as large as the least exponent lets it be. Zero has two signs.
-/

namespace BankFeed

-- Powers are those of natural numbers, whatever algebra is in scope.
attribute [local instance (high)] instPowNat

structure Binary64 where
  negative : Bool
  significand : Nat
  exponent : Int
  significand_lt : significand < 9007199254740992
  exponent_ge : -1074 ≤ exponent
  exponent_le : exponent ≤ 971
  normal : 4503599627370496 ≤ significand ∨ exponent = -1074
  deriving DecidableEq, Repr

inductive Double where
  | finite (x : Binary64)
  | infinite (negative : Bool)
  | undefined
  deriving DecidableEq, Repr

namespace Binary64

def ofParts? (negative : Bool) (significand : Nat) (exponent : Int) : Option Binary64 :=
  if h : significand < 9007199254740992 ∧ -1074 ≤ exponent ∧ exponent ≤ 971 ∧
      (4503599627370496 ≤ significand ∨ exponent = -1074) then
    some ⟨negative, significand, exponent, h.1, h.2.1, h.2.2.1, h.2.2.2⟩
  else none

def zero (negative : Bool) : Binary64 :=
  { negative := negative, significand := 0, exponent := -1074
    significand_lt := by decide, exponent_ge := by decide, exponent_le := by decide
    normal := by decide }

def nearest? (negative : Bool) (num den : Nat) : Option Binary64 :=
  let (m, e) := Binary.double.round num den
  ofParts? negative m e

def ofScientific? (negative : Bool) (digits : Nat) (exponent : Int) : Option Binary64 := do
  let (m, e) ← Binary.double.ofScientific? digits exponent
  ofParts? negative m e

def ofScientificSingle? (negative : Bool) (digits : Nat) (exponent : Int) :
    Option Binary64 := do
  let (m, e) ← Binary.single.ofScientific? digits exponent
  nearest? negative (m * 2 ^ e.toNat) (2 ^ (-e).toNat)

def numerator (x : Binary64) : Nat :=
  x.significand * 2 ^ x.exponent.toNat

def denominator (x : Binary64) : Nat :=
  2 ^ (-x.exponent).toNat

/-- A power of two dividing the significand is moved into a negative exponent, which stops
at zero. Denormal numbers keep their exponent. -/
def lighten : Nat → Nat → Int → Nat × Int
  | 0, m, e => (m, e)
  | steps + 1, m, e =>
      if e < 0 ∧ m % 2 = 0 then lighten steps (m / 2) (e + 1) else (m, e)

/-- The exact value in decimal digits: an integer where the exponent is not negative, else
`significand * 5 ^ k` with `k` places. -/
def toDecimalParts (x : Binary64) : Int × Int :=
  if x.significand = 0 then (0, 0)
  else
    let (m, e) :=
      if x.significand < 4503599627370496 then (x.significand, x.exponent)
      else lighten 53 x.significand x.exponent
    let magnitude : Nat := m * 2 ^ e.toNat * 5 ^ (-e).toNat
    let coefficient : Int := if x.negative then -(magnitude : Int) else magnitude
    (coefficient, (-e).toNat)

theorem ofParts?_eq_some {negative : Bool} {significand : Nat} {exponent : Int}
    {x : Binary64} :
    ofParts? negative significand exponent = some x ↔
      x.negative = negative ∧ x.significand = significand ∧ x.exponent = exponent := by
  cases x with
  | mk s m e hm hge hle hn =>
      unfold ofParts?
      split
      · simp [eq_comm]
      · next h =>
          simp only [reduceCtorEq, false_iff, not_and]
          intro _ hm' he'
          exact h ⟨hm' ▸ hm, he' ▸ hge, he' ▸ hle, hm' ▸ he' ▸ hn⟩

theorem lighten_ge (steps m : Nat) {e : Int} (h : -1074 ≤ e) :
    -1074 ≤ (lighten steps m e).2 := by
  induction steps generalizing m e with
  | zero => simpa [lighten] using h
  | succ steps ih =>
      unfold lighten
      split
      · exact ih _ (by omega)
      · exact h

theorem toDecimalParts_scale (x : Binary64) :
    0 ≤ x.toDecimalParts.2 ∧ x.toDecimalParts.2 ≤ 1074 := by
  have hlight := lighten_ge 53 x.significand x.exponent_ge
  have hx := x.exponent_ge
  unfold toDecimalParts
  split
  · simp
  · split
    simp only
    split at * <;> simp_all <;> omega

def toDecimal (x : Binary64) : Decimal :=
  { coefficient := x.toDecimalParts.1
    scale := x.toDecimalParts.2
    scale_ge := by have := x.toDecimalParts_scale; omega
    scale_le := by have := x.toDecimalParts_scale; omega }

end Binary64
end BankFeed
