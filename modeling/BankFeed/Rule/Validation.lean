import BankFeed.Failure
import BankFeed.Rule

/-!
# Validation of rules

A rule that accepts nothing is no fault when it is tried; whoever saves rules may refuse such
rules beforehand. The name is checked first, then the clauses in their order.
-/

namespace BankFeed
namespace Rule

/-- The most bytes that a name may have in UTF-8. -/
def nameLimit : Nat := 100

def validateName (name : String) : Except Failure Unit :=
  if (Text.trim name.toList).isEmpty then
    .error (.validation "Rule name cannot be empty")
  else if nameLimit < name.utf8ByteSize then
    .error (.validation "Rule name cannot exceed 100 characters")
  else .ok ()

def firstFault? (position : Nat) : List Clause → Option (Nat × ClauseError)
  | [] => none
  | c :: cs =>
      match c.compile with
      | .ok _ => firstFault? (position + 1) cs
      | .error e => some (position, e)

def validate (rule : Rule) : Except Failure Unit := do
  validateName rule.name
  if rule.clauses.isEmpty then
    throw (.validation ("Rule '" ++ rule.name ++ "' must have at least one clause"))
  match firstFault? 1 rule.clauses with
  | none => return ()
  | some (position, e) =>
      throw (.validation ("Rule '" ++ rule.name ++ "' clause " ++
        String.ofList (Nat.toDigits 10 position) ++ ": " ++ e.message))

end Rule
end BankFeed
