import BankFeed.Decimal.Equality
import BankFeed.Text.Lower
import BankFeed.Text.Search

/-!
# Operators

The comparisons a clause can ask for: of texts, regardless of case, and of numbers, by the
test for equality or by their exact order. Every operator has one symbol.
-/

namespace BankFeed

inductive TextOperator where
  | is
  | contains
  | startsWith
  | isEmpty
  deriving DecidableEq, Repr

inductive NumericOperator where
  | equal
  | less
  | atMost
  | greater
  | atLeast
  deriving DecidableEq, Repr

namespace TextOperator

def symbol : TextOperator → String
  | .is => "is"
  | .contains => "contains"
  | .startsWith => "starts_with"
  | .isEmpty => "is_empty"

def ofSymbol? (s : String) : Option TextOperator :=
  if s = "is" then some .is
  else if s = "contains" then some .contains
  else if s = "starts_with" then some .startsWith
  else if s = "is_empty" then some .isEmpty
  else none

def apply (op : TextOperator) (field value : String) : Bool :=
  let field := field.toList
  let value := Text.lower value.toList
  match op with
  | .is => Text.lower field == value
  | .contains => Text.occursIn value (Text.lower field)
  | .startsWith => value.isPrefixOf (Text.lower field)
  | .isEmpty => field.isEmpty

theorem ofSymbol?_symbol (op : TextOperator) : ofSymbol? op.symbol = some op := by
  cases op <;> decide

theorem ofSymbol?_eq_some_iff {s : String} {op : TextOperator} :
    ofSymbol? s = some op ↔ s = op.symbol := by
  constructor
  · intro h
    cases op <;> grind [ofSymbol?, TextOperator.symbol]
  · intro h
    rw [h, ofSymbol?_symbol]

end TextOperator

namespace NumericOperator

def symbol : NumericOperator → String
  | .equal => "="
  | .less => "<"
  | .atMost => "<="
  | .greater => ">"
  | .atLeast => ">="

def ofSymbol? (s : String) : Option NumericOperator :=
  if s = "=" then some .equal
  else if s = "<" then some .less
  else if s = "<=" then some .atMost
  else if s = ">" then some .greater
  else if s = ">=" then some .atLeast
  else none

def apply (op : NumericOperator) (field value : Decimal) : Bool :=
  match op with
  | .equal => field.same value
  | .less => field.cmp value == .lt
  | .atMost => field.cmp value != .gt
  | .greater => field.cmp value == .gt
  | .atLeast => field.cmp value != .lt

theorem ofSymbol?_symbol (op : NumericOperator) : ofSymbol? op.symbol = some op := by
  cases op <;> decide

theorem ofSymbol?_eq_some_iff {s : String} {op : NumericOperator} :
    ofSymbol? s = some op ↔ s = op.symbol := by
  constructor
  · intro h
    cases op <;> grind [ofSymbol?, NumericOperator.symbol]
  · intro h
    rw [h, ofSymbol?_symbol]

end NumericOperator
end BankFeed
