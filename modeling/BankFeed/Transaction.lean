import BankFeed.Calendar.Date
import BankFeed.Decimal.Basic

/-!
# Bank transactions

A transaction comes from a bank feed and is reconciled at most once: an unmatched one may be
matched to an invoice or converted into an expense, and both are final.
-/

namespace BankFeed

inductive Direction where
  | debit
  | credit
  deriving DecidableEq, Repr

inductive Status where
  | unmatched
  | matched
  | converted
  deriving DecidableEq, Repr

def Status.isTerminal : Status → Bool
  | .unmatched => false
  | .matched => true
  | .converted => true

structure Transaction where
  id : String
  tenantId : String
  integrationId : Option String
  amount : Option Decimal
  currencyId : Option String
  description : Option String
  date : Date
  direction : Direction
  categoryId : Option String
  categoryType : Option String
  status : Status
  expenseId : Option String
  invoiceId : Option String
  createdAt : Timestamp
  updatedAt : Timestamp
  deriving DecidableEq

/-- What is written to a transaction together with its new status. Absent values leave the
transaction's own. -/
structure StatusUpdate where
  expenseId : Option String
  invoiceId : Option String
  categoryId : Option String
  deriving DecidableEq, Repr

structure Outcome where
  transactionId : String
  status : Status
  expenseId : Option String
  invoiceId : Option String
  deriving DecidableEq, Repr

namespace Transaction

def create (now : Timestamp) (id tenantId : String) (direction : Direction) (amount : Decimal)
    (description : String) (date : Date) : Transaction where
  id := id
  tenantId := tenantId
  integrationId := none
  amount := some amount
  currencyId := none
  description := some description
  date := date
  direction := direction
  categoryId := none
  categoryType := none
  status := .unmatched
  expenseId := none
  invoiceId := none
  createdAt := now
  updatedAt := now

def amountOrZero (t : Transaction) : Decimal :=
  t.amount.getD Decimal.zero

def descriptionOrEmpty (t : Transaction) : String :=
  t.description.getD ""

def applyUpdate (now : Timestamp) (status : Status) (update : StatusUpdate) (t : Transaction) :
    Transaction :=
  { t with
    status := status
    expenseId := update.expenseId.or t.expenseId
    invoiceId := update.invoiceId.or t.invoiceId
    categoryId := update.categoryId.or t.categoryId
    updatedAt := now }

def outcome (t : Transaction) : Outcome :=
  ⟨t.id, t.status, t.expenseId, t.invoiceId⟩

theorem applyUpdate_id (now : Timestamp) (status : Status) (update : StatusUpdate)
    (t : Transaction) : (t.applyUpdate now status update).id = t.id := rfl

end Transaction
end BankFeed
