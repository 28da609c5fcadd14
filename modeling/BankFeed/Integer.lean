/-!
# Integers of limited width

Reading an integer from decimal digits with an optional sign. The digits are taken one by
one, so a character that is no digit is only noticed if the digits before it stayed within
the limits.
-/

namespace BankFeed

inductive IntegerError where
  | empty
  | invalidDigit
  | tooLarge
  | tooSmall
  deriving DecidableEq, Repr

def IntegerError.message : IntegerError → String
  | .empty => "cannot parse integer from empty string"
  | .invalidDigit => "invalid digit found in string"
  | .tooLarge => "number too large to fit in target type"
  | .tooSmall => "number too small to fit in target type"

def digitValue (c : Char) : Nat :=
  c.toNat - '0'.toNat

namespace Integer

def readDigits (limit : Nat) (excess : IntegerError) (sofar : Nat) :
    List Char → Except IntegerError Nat
  | [] => .ok sofar
  | c :: cs =>
      if c.isDigit then
        if 10 * sofar + digitValue c ≤ limit then
          readDigits limit excess (10 * sofar + digitValue c) cs
        else .error excess
      else .error .invalidDigit

/-- Reads an integer between `least` and `greatest`. A sign needs a digit after it. -/
def read (least greatest : Int) : List Char → Except IntegerError Int
  | [] => .error .empty
  | ['-'] => .error .invalidDigit
  | ['+'] => .error .invalidDigit
  | '-' :: cs => do
      let n ← readDigits least.natAbs .tooSmall 0 cs
      return -(n : Int)
  | '+' :: cs => do
      let n ← readDigits greatest.toNat .tooLarge 0 cs
      return n
  | cs => do
      let n ← readDigits greatest.toNat .tooLarge 0 cs
      return n

end Integer

def integerText (n : Int) : List Char :=
  if n < 0 then '-' :: Nat.toDigits 10 n.natAbs else Nat.toDigits 10 n.natAbs

end BankFeed
