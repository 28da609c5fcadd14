import BankFeed.Decimal.Equality
import BankFeed.Json.Codec
import BankFeed.Text.Blank

/-!
# Clause values

What a clause compares with, as its author gave it: a text or a number. Both are written as
strings, so a number comes back as a text; a text that holds a decimal still counts as one
where a number is needed.
-/

namespace BankFeed

inductive ClauseValue where
  | text (value : String)
  | number (value : Decimal)
  deriving DecidableEq, Repr

namespace ClauseValue

/-- A double stands for its shortest decimal, so that 19.99 stays 19.99. -/
def ofDouble : Double → Except Misfit ClauseValue
  | .finite x => ((Decimal.read x.plainText).mapError .decimal).map .number
  | x => .error (.notFinite (String.ofList x.plainText))

def ofFound : Found → Except Misfit ClauseValue
  | .text s => .ok (.text s)
  | .integer n => .ok (.number (Decimal.ofInt n))
  | .double x => ofDouble (.finite x)
  | found => .error (.wrongType found "a string or a number")

def asText : ClauseValue → String
  | .text s => s
  | .number d => String.ofList d.text

/-- The value as a decimal; blanks around a text do not matter. -/
def asDecimal? : ClauseValue → Option Decimal
  | .text s => (Decimal.read (Text.trim s.toList)).toOption
  | .number d => some d

def same : ClauseValue → ClauseValue → Bool
  | .text a, .text b => a == b
  | .number a, .number b => a.same b
  | _, _ => false

def codec : Codec ClauseValue where
  encode v := .text v.asText
  decode _ j :=
    match j.found? with
    | some found => ofFound found
    | none => .error .malformed

end ClauseValue
end BankFeed
