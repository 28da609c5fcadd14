import BankFeed.Binary.Shortest
import BankFeed.Decimal.Printer

/-!
# Writing doubles

Two forms of the shortest digits: without an exponent, however long that gets, and the form
for messages, which shows by a point or an exponent that the number is no integer.
-/

namespace BankFeed
namespace Binary64

def withSign (x : Binary64) (magnitude : List Char) : List Char :=
  if x.negative then '-' :: magnitude else magnitude

def positional (digits : List Char) (power : Int) : List Char :=
  if 0 ≤ power then digits ++ List.replicate power.toNat '0'
  else Decimal.pointText digits (-power).toNat

def plainText (x : Binary64) : List Char :=
  let (digits, power) := x.shortest .up
  x.withSign (positional (Nat.toDigits 10 digits) power)

def exponentText (exponent : Int) : List Char :=
  if exponent < 0 then 'e' :: integerText exponent else 'e' :: '+' :: integerText exponent

/-- The digits have the point in front of place `point`; from 0.00001 up to but not including
10^16 they are written out, else with an exponent. -/
def messageMagnitude (digits : List Char) (power : Int) : List Char :=
  let point := digits.length + power
  if 0 ≤ power ∧ point ≤ 16 then positional digits power ++ ['.', '0']
  else if -5 < point ∧ point ≤ 16 then positional digits power
  else
    match digits with
    | [] => []
    | [d] => d :: exponentText (point - 1)
    | d :: ds => d :: '.' :: (ds ++ exponentText (point - 1))

def messageText (x : Binary64) : List Char :=
  let (digits, power) := x.shortest .even
  x.withSign (messageMagnitude (Nat.toDigits 10 digits) power)

end Binary64

namespace Double

def plainText : Double → List Char
  | .finite x => x.plainText
  | .infinite false => "inf".toList
  | .infinite true => "-inf".toList
  | .undefined => "NaN".toList

end Double
end BankFeed
