import BankFeed.Binary.Double

/-!
# Reading doubles

The text of a floating-point number: an optional sign, then digits with an optional point
and exponent, or the name of an infinity or of the undefined number in any case. What is
too large reads as an infinity.
-/

namespace BankFeed
namespace Double

structure Scientific where
  digits : List Char
  places : Nat
  exponent : Int

def readExponent : List Char → Option Int
  | '-' :: cs => if cs.isEmpty || !cs.all Char.isDigit then none else some (-(Nat.ofDigitChars 10 cs 0 : Int))
  | '+' :: cs => if cs.isEmpty || !cs.all Char.isDigit then none else some (Nat.ofDigitChars 10 cs 0)
  | cs => if cs.isEmpty || !cs.all Char.isDigit then none else some (Nat.ofDigitChars 10 cs 0)

def readScientific (cs : List Char) : Option Scientific := do
  let whole := cs.takeWhile Char.isDigit
  let (places, rest) :=
    match cs.dropWhile Char.isDigit with
    | '.' :: after => (after.takeWhile Char.isDigit, after.dropWhile Char.isDigit)
    | rest => ([], rest)
  if whole.isEmpty && places.isEmpty then none
  else
    match rest with
    | [] => some ⟨whole ++ places, places.length, 0⟩
    | mark :: after =>
        if mark = 'e' ∨ mark = 'E' then do
          let exponent ← readExponent after
          some ⟨whole ++ places, places.length, exponent⟩
        else none

def readMagnitude (narrow : Bool) (negative : Bool) (cs : List Char) : Option Double :=
  let name := cs.map Char.toLower
  if name = "inf".toList ∨ name = "infinity".toList then some (.infinite negative)
  else if name = "nan".toList then some .undefined
  else do
    let s ← readScientific cs
    let digits := Nat.ofDigitChars 10 s.digits 0
    let nearest? :=
      if narrow then Binary64.ofScientificSingle? negative digits (s.exponent - s.places)
      else Binary64.ofScientific? negative digits (s.exponent - s.places)
    match nearest? with
    | some x => some (.finite x)
    | none => some (.infinite negative)

/-- Reads a number and rounds it to double precision, or to single precision if `narrow`. -/
def read? (narrow : Bool) : List Char → Option Double
  | '-' :: cs => readMagnitude narrow true cs
  | '+' :: cs => readMagnitude narrow false cs
  | cs => readMagnitude narrow false cs

end Double
end BankFeed
