import BankFeed.Binary.Double

/-!
# Shortest digits

The fewest decimal digits that identify a double: every real number nearer to it than to
its neighbours reads back as it. For one digit, two digits and so on the two neighbours of
the value among the decimals of that length are tried; the first length with a hit wins,
and of two hits the nearer.
-/

namespace BankFeed
namespace Binary64

-- Powers are those of natural numbers, whatever algebra is in scope.
attribute [local instance (high)] instPowNat

inductive Tie where
  | up
  | even
  deriving DecidableEq, Repr

/-- The lower end of the reals that round to `x`, in quarters of `2 ^ x.exponent`. Below a
power of two the neighbours lie closer together. -/
def lowQuarters (x : Binary64) : Nat :=
  if x.significand = 4503599627370496 ∧ -1074 < x.exponent then 4 * x.significand - 1
  else 4 * x.significand - 2

def highQuarters (x : Binary64) : Nat :=
  4 * x.significand + 2

def compareQuarters (digits : Nat) (power : Int) (quarters : Nat) (exponent : Int) : Ordering :=
  compare (digits * 10 ^ power.toNat * 2 ^ (2 - exponent).toNat)
    (quarters * 2 ^ (exponent - 2).toNat * 10 ^ (-power).toNat)

/-- Whether `digits * 10 ^ power` rounds to `x`. The ends of the interval do if the
significand is even. -/
def readsBack (x : Binary64) (digits : Nat) (power : Int) : Bool :=
  let closed := x.significand % 2 == 0
  let low := compareQuarters digits power x.lowQuarters x.exponent
  let high := compareQuarters digits power x.highQuarters x.exponent
  (low == .gt || (closed && low == .eq)) && (high == .lt || (closed && high == .eq))

def nearer (tie : Tie) (x : Binary64) (g : Nat) (power : Int) : Nat :=
  match compareQuarters (2 * g + 1) power (8 * x.significand) x.exponent with
  | .gt => g
  | .lt => g + 1
  | .eq =>
      match tie with
      | .up => g + 1
      | .even => if g % 2 = 0 then g else g + 1

def ofLength? (tie : Tie) (x : Binary64) (length : Nat) : Option (Nat × Int) :=
  let place := Binary.leadingPlace 10 Decimal.digitCount x.numerator x.denominator
  let power := place + 1 - length
  let g := x.numerator * 10 ^ (-power).toNat / (x.denominator * 10 ^ power.toNat)
  let digits? :=
    match x.readsBack g power, x.readsBack (g + 1) power with
    | false, false => none
    | true, false => some g
    | false, true => some (g + 1)
    | true, true => some (nearer tie x g power)
  digits?.map fun digits =>
    if digits = 10 ^ length then (1, power + length) else (digits, power)

/-- The shortest decimal that rounds to `x`, sign left out. Seventeen digits are always
enough; the exact value stands after them only to make the function total. -/
def shortest (tie : Tie) (x : Binary64) : Nat × Int :=
  if x.significand = 0 then (0, 0)
  else
    match (List.range 17).findSome? fun i => ofLength? tie x (i + 1) with
    | some found => found
    | none => (x.toDecimalParts.1.natAbs, -x.toDecimalParts.2)

theorem shortest_of_significand_eq_zero {tie : Tie} {x : Binary64} (h : x.significand = 0) :
    x.shortest tie = (0, 0) := by
  simp [shortest, h]

end Binary64
end BankFeed
