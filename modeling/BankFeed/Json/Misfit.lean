import BankFeed.Json.Basic
import BankFeed.Binary.Printer
import BankFeed.Calendar.Reader
import BankFeed.Decimal.Reader
import BankFeed.Text.Quoted

/-!
# Misfits

Why a document does not give a value of the wanted type, and the wording of each reason.
-/

namespace BankFeed

inductive Found where
  | null
  | nothing
  | flag (value : Bool)
  | integer (value : Int)
  | wideInteger (value : Int)
  | double (value : Binary64)
  | text (value : String)
  | sequence
  | map
  deriving DecidableEq, Repr

inductive Misfit where
  | malformed
  | wrongType (found : Found) (wanted : String)
  | wrongValue (found : Found) (wanted : String)
  | wrongLength (length : Nat) (wanted : String)
  | duplicateField (name : String)
  | missingField (name : String)
  | unknownVariant (name : String) (known : List String)
  | decimal (cause : Decimal.ReadError)
  | calendar (cause : CalendarError)
  | notFinite (number : String)
  deriving DecidableEq, Repr

def marked (name : String) : String :=
  "`" ++ name ++ "`"

def Found.describe : Found → String
  | .null => "null"
  | .nothing => "unit value"
  | .flag true => "boolean " ++ marked "true"
  | .flag false => "boolean " ++ marked "false"
  | .integer n => "integer " ++ marked (String.ofList (integerText n))
  | .wideInteger n => "integer " ++ marked (String.ofList (integerText n)) ++ " as i128"
  | .double x => "floating point " ++ marked (String.ofList x.messageText)
  | .text s => "string " ++ String.ofList (Text.quote s.toList)
  | .sequence => "sequence"
  | .map => "map"

def describeVariants : List String → String
  | [] => "there are no variants"
  | [a] => "expected " ++ marked a
  | [a, b] => "expected " ++ marked a ++ " or " ++ marked b
  | names => "expected one of " ++ ", ".intercalate (names.map marked)

def Misfit.message : Misfit → String
  | .malformed => "malformed document"
  | .wrongType found wanted => "invalid type: " ++ found.describe ++ ", expected " ++ wanted
  | .wrongValue found wanted => "invalid value: " ++ found.describe ++ ", expected " ++ wanted
  | .wrongLength length wanted =>
      "invalid length " ++ String.ofList (Nat.toDigits 10 length) ++ ", expected " ++ wanted
  | .duplicateField name => "duplicate field " ++ marked name
  | .missingField name => "missing field " ++ marked name
  | .unknownVariant name known =>
      "unknown variant " ++ marked name ++ ", " ++ describeVariants known
  | .decimal cause => cause.message
  | .calendar cause => cause.message
  | .notFinite number => "clause value " ++ number ++ " is not a finite number"

def Json.found? : Json → Option Found
  | .null => some .null
  | .flag b => some (.flag b)
  | .integer n => some (.integer n)
  | .double x => some (.double x)
  | .text s => some (.text s)
  | .array _ => some .sequence
  | .object _ => some .map
  | .unreadable => none
  | .broken => none

def Json.mistaken (found : Json) (wanted : String) : Misfit :=
  match found.found? with
  | some f => .wrongType f wanted
  | none => .malformed

end BankFeed
