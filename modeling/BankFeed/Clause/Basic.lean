import BankFeed.Clause.Operator
import BankFeed.Clause.Value
import BankFeed.Transaction

/-!
# Clauses

A clause names a field of the transaction, an operator and a value, all as its author wrote
them. It compiles to a predicate if the field is known, the operator belongs to the type of
the field, and a value for a numeric field is a number. A clause that does not compile
accepts no transaction.
-/

namespace BankFeed

structure Clause where
  searchKey : String
  operator : String
  value : ClauseValue
  deriving DecidableEq, Repr

inductive SearchKey where
  | description
  | amount
  deriving DecidableEq, Repr

inductive ClauseError where
  | unknownSearchKey (key : String)
  | operatorMismatch (key operator : String)
  | invalidValue (value : String)
  deriving DecidableEq, Repr

inductive Predicate where
  | description (op : TextOperator) (value : String)
  | amount (op : NumericOperator) (value : Decimal)
  deriving DecidableEq, Repr

namespace SearchKey

def name : SearchKey → String
  | .description => "description"
  | .amount => "amount"

def ofName? (s : String) : Option SearchKey :=
  if s = "description" then some .description
  else if s = "amount" then some .amount
  else none

theorem ofName?_name (key : SearchKey) : ofName? key.name = some key := by
  cases key <;> decide

theorem ofName?_eq_some_iff {s : String} {key : SearchKey} :
    ofName? s = some key ↔ s = key.name := by
  constructor
  · intro h
    cases key <;> grind [ofName?, name]
  · intro h
    rw [h, ofName?_name]

end SearchKey

def ClauseError.message : ClauseError → String
  | .unknownSearchKey key => "unknown search key \"" ++ key ++ "\""
  | .operatorMismatch key operator =>
      "operator \"" ++ operator ++ "\" is not valid for search key \"" ++ key ++ "\""
  | .invalidValue value => "value \"" ++ value ++ "\" is not a number"

namespace Predicate

def test (p : Predicate) (t : Transaction) : Bool :=
  match p with
  | .description op value => op.apply t.descriptionOrEmpty value
  | .amount op value => op.apply t.amountOrZero value

end Predicate

namespace Clause

def compile (c : Clause) : Except ClauseError Predicate :=
  match SearchKey.ofName? c.searchKey with
  | none => .error (.unknownSearchKey c.searchKey)
  | some .description =>
      match TextOperator.ofSymbol? c.operator with
      | none => .error (.operatorMismatch c.searchKey c.operator)
      | some op => .ok (.description op c.value.asText)
  | some .amount =>
      match NumericOperator.ofSymbol? c.operator with
      | none => .error (.operatorMismatch c.searchKey c.operator)
      | some op =>
          match c.value.asDecimal? with
          | none => .error (.invalidValue c.value.asText)
          | some value => .ok (.amount op value)

def accepts (c : Clause) (t : Transaction) : Bool :=
  match c.compile with
  | .ok predicate => predicate.test t
  | .error _ => false

def same (a b : Clause) : Bool :=
  a.searchKey == b.searchKey && a.operator == b.operator && a.value.same b.value

theorem accepts_of_compile {c : Clause} {p : Predicate} (h : c.compile = .ok p)
    (t : Transaction) : c.accepts t = p.test t := by
  simp [accepts, h]

theorem accepts_of_error {c : Clause} {e : ClauseError} (h : c.compile = .error e)
    (t : Transaction) : c.accepts t = false := by
  simp [accepts, h]

end Clause
end BankFeed
