import BankFeed.Integer

/-!
# Decimal numbers

A decimal is a coefficient and a scale; its value is `coefficient * 10 ^ (-scale)`. The
scale is a signed 64-bit number and says how the decimal was written: `1.50` and `1.5`
have the same value and different scales. Values are ordered without writing out the powers of
ten, whose exponents may be as large as the scale allows.
-/

namespace BankFeed

-- Powers are those of natural numbers, whatever algebra is in scope.
attribute [local instance (high)] instPowNat

structure Decimal where
  coefficient : Int
  scale : Int
  scale_ge : -9223372036854775808 ≤ scale := by decide
  scale_le : scale ≤ 9223372036854775807 := by decide
  deriving DecidableEq, Repr

namespace Decimal

def ofInt (n : Int) : Decimal :=
  { coefficient := n, scale := 0 }

def zero : Decimal :=
  ofInt 0

def ofParts? (coefficient scale : Int) : Option Decimal :=
  if h : -9223372036854775808 ≤ scale ∧ scale ≤ 9223372036854775807 then
    some ⟨coefficient, scale, h.1, h.2⟩
  else none

def digitCount (n : Nat) : Nat :=
  (Nat.toDigits 10 n).length

/-- Compares `m * 10 ^ (-s)` with `n * 10 ^ (-t)` for positive `m` and `n`: first by the
place of the leading digit, then digit by digit after padding the shorter one. -/
def compareMagnitudes (m : Nat) (s : Int) (n : Nat) (t : Int) : Ordering :=
  (compare (digitCount m - s) (digitCount n - t)).then
    (compare (m * 10 ^ (digitCount n - digitCount m)) (n * 10 ^ (digitCount m - digitCount n)))

def cmp (a b : Decimal) : Ordering :=
  match compare a.coefficient.sign b.coefficient.sign with
  | .lt => .lt
  | .gt => .gt
  | .eq =>
      if a.coefficient = 0 then .eq
      else
        let order :=
          compareMagnitudes a.coefficient.natAbs a.scale b.coefficient.natAbs b.scale
        if 0 < a.coefficient then order else order.swap

end Decimal
end BankFeed
