import BankFeed.Decimal.Basic

/-!
# Reading decimals

The text of a decimal is a mantissa and, after the first `e` or `E`, a decimal exponent.
The point of the mantissa fixes the scale, from which the exponent is taken off. Underscores
may stand between the digits. Trailing zeros are kept. A text with several faults is refused
for the first of: the exponent, an empty mantissa, the scale, the digits.
-/

namespace BankFeed
namespace Decimal

inductive ReadError where
  | integer (cause : IntegerError)
  | noMantissa
  | scaleOutOfRange (text : String)
  deriving DecidableEq, Repr

def ReadError.message : ReadError → String
  | .integer cause => cause.message
  | .noMantissa => "Failed to parse empty string"
  | .scaleOutOfRange text => "Exponent overflow when parsing '" ++ text ++ "'"

def readDigits (sofar : Nat) : List Char → Except IntegerError Nat
  | [] => .ok sofar
  | c :: cs =>
      if c = '_' then readDigits sofar cs
      else if c.isDigit then readDigits (10 * sofar + digitValue c) cs
      else .error .invalidDigit

/-- A natural number; it must not be empty nor start with an underscore. -/
def readNatural : List Char → Except IntegerError Nat
  | [] => .error .empty
  | '_' :: _ => .error .invalidDigit
  | cs => readDigits 0 cs

def readUnsigned : List Char → Except IntegerError Nat
  | '+' :: '+' :: _ => .error .invalidDigit
  | '+' :: cs => readNatural cs
  | cs => readNatural cs

/-- An integer; a minus sign must not be followed by a plus sign. -/
def readCoefficient : List Char → Except IntegerError Int
  | '-' :: '+' :: _ => .error .invalidDigit
  | '-' :: cs => do
      let n ← readNatural cs
      return -(n : Int)
  | cs => do
      let n ← readUnsigned cs
      return n

def isExponentMark (c : Char) : Bool :=
  c = 'e' || c = 'E'

def readExponent (cs : List Char) : Except IntegerError Int :=
  Integer.read (-170141183460469231731687303715884105728)
    170141183460469231731687303715884105727 cs

def cutAt (p : Char → Bool) (cs : List Char) : List Char × Option (List Char) :=
  match cs.dropWhile (fun c => !p c) with
  | [] => (cs, none)
  | _ :: after => (cs.takeWhile (fun c => !p c), some after)

/-- Number of decimal places; underscores do not count. -/
def placeCount (places : List Char) : Nat :=
  (places.filter (· ≠ '_')).length

def read (cs : List Char) : Except ReadError Decimal := do
  let (mantissa, exponentText) := cutAt isExponentMark cs
  let exponent ←
    match exponentText with
    | none => pure 0
    | some text => (readExponent text).mapError .integer
  if mantissa.isEmpty then
    throw .noMantissa
  let (whole, places) := cutAt (· = '.') mantissa
  let places := places.getD []
  let scale := (placeCount places : Int) - exponent
  if h : -9223372036854775808 ≤ scale ∧ scale ≤ 9223372036854775807 then
    let coefficient ← (readCoefficient (whole ++ places)).mapError .integer
    return ⟨coefficient, scale, h.1, h.2⟩
  else
    throw (.scaleOutOfRange (String.ofList cs))

end Decimal
end BankFeed
