import BankFeed.Decimal.Basic

/-!
# Writing decimals

A decimal is written with its scale: a positive scale gives that many places, a negative
one that many zeros. Where more than five zeros would stand between the point and the
digits the leading digit is put before the point and an exponent follows; where more than
fifteen zeros would follow the digits their number is written instead. Zero is `0`
whatever its scale.
-/

namespace BankFeed
namespace Decimal

def leadingZeroLimit : Int := 5

def trailingZeroLimit : Int := 15

def pointText (digits : List Char) (places : Nat) : List Char :=
  if places < digits.length then
    digits.take (digits.length - places) ++ '.' :: digits.drop (digits.length - places)
  else
    '0' :: '.' :: (List.replicate (places - digits.length) '0' ++ digits)

def scientificText (digits : List Char) (exponent : Int) : List Char :=
  match digits with
  | [] => []
  | [d] => d :: 'E' :: integerText exponent
  | d :: ds => d :: '.' :: (ds ++ 'E' :: integerText exponent)

def magnitudeText (digits : List Char) (scale : Int) : List Char :=
  if 0 < scale then
    if leadingZeroLimit < scale - digits.length then
      scientificText digits (digits.length - scale - 1)
    else pointText digits scale.toNat
  else if trailingZeroLimit < -scale then
    digits ++ 'e' :: '+' :: integerText (-scale)
  else
    digits ++ List.replicate (-scale).toNat '0'

def text (d : Decimal) : List Char :=
  if d.coefficient = 0 then ['0']
  else
    let magnitude := magnitudeText (Nat.toDigits 10 d.coefficient.natAbs) d.scale
    if d.coefficient < 0 then '-' :: magnitude else magnitude

end Decimal
end BankFeed
