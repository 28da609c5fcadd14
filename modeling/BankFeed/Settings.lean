import BankFeed.Text.Blank
import BankFeed.Text.Lower

/-!
# Settings

The one setting of a reconciliation: whether a credit that no rule settled is still matched
to the invoice whose number is its description. It is on unless the environment turns it off.
-/

namespace BankFeed

structure Settings where
  creditInvoiceFallback : Bool := true
  deriving DecidableEq, Repr

namespace Settings

def standard : Settings := {}

/-- Reads a switch; blanks around it and the case of ASCII letters do not matter. -/
def readSwitch? (value : String) : Option Bool :=
  let word := String.ofList (Text.lowerAscii (Text.trim value.toList))
  if word = "1" ∨ word = "true" ∨ word = "yes" ∨ word = "on" then some true
  else if word = "0" ∨ word = "false" ∨ word = "no" ∨ word = "off" then some false
  else none

def fallbackVariable : String := "BANK_RULES_CREDIT_INVOICE_FALLBACK"

/-- The settings of an environment, which gives the bytes of its variables. A value that is
not UTF-8 or no switch counts as unset. -/
def ofEnvironment (environment : String → Option ByteArray) : Settings :=
  { creditInvoiceFallback :=
      (((environment fallbackVariable).bind String.fromUTF8?).bind readSwitch?).getD true }

end Settings
end BankFeed
