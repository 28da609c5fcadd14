import BankFeed.Decimal.Basic

/-!
# Rounding to binary formats

A quotient of natural numbers is rounded to the nearest number of a binary format, a tie
going to the even significand. All arithmetic is exact.
-/

namespace BankFeed
namespace Binary

-- Powers are those of natural numbers, whatever algebra is in scope.
attribute [local instance (high)] instPowNat

structure Format where
  precision : Nat
  leastExponent : Int
  greatestExponent : Int

def single : Format := ⟨24, -149, 104⟩

def double : Format := ⟨53, -1074, 971⟩

def bitCount (n : Nat) : Nat :=
  n.log2 + 1

/-- The place of the leading digit of `num / den`: the greatest `l` with
`base ^ l ≤ num / den`, where `size` counts the digits of a number in this base. -/
def leadingPlace (base : Nat) (size : Nat → Nat) (num den : Nat) : Int :=
  let l : Int := size num - size den
  if den * base ^ l.toNat ≤ num * base ^ (-l).toNat then l else l - 1

def roundHalfEven (num den : Nat) : Nat :=
  let q := num / den
  let twice := 2 * (num % den)
  if den < twice ∨ (den = twice ∧ q % 2 = 1) then q + 1 else q

/-- The nearest number with this precision, the exponent bounded from below only. -/
def Format.round (f : Format) (num den : Nat) : Nat × Int :=
  if num = 0 then (0, f.leastExponent)
  else
    let e := max (leadingPlace 2 bitCount num den - (f.precision - 1)) f.leastExponent
    let m := roundHalfEven (num * 2 ^ (-e).toNat) (den * 2 ^ e.toNat)
    if m = 2 ^ f.precision then (2 ^ (f.precision - 1), e + 1) else (m, e)

/-- A number whose leading digit stands above this decimal place is too large for every
format here, and one whose leading digit stands below the opposite place rounds to zero. -/
def farPlace : Int := 400

def Format.ofScientific? (f : Format) (digits : Nat) (exponent : Int) : Option (Nat × Int) :=
  let place := Decimal.digitCount digits + exponent
  if digits = 0 ∨ place < -farPlace then some (0, f.leastExponent)
  else if farPlace < place then none
  else
    let parts := f.round (digits * 10 ^ exponent.toNat) (10 ^ (-exponent).toNat)
    if parts.2 ≤ f.greatestExponent then some parts else none

end Binary
end BankFeed
