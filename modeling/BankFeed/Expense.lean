import BankFeed.Rule

/-!
# Expenses and invoices

A converted transaction becomes an expense. Amount, date, notes and currency come from the
transaction, vendor and client from the rule, and the category from the rule only where the
transaction has none.
-/

namespace BankFeed

structure ExpenseDraft where
  tenantId : String
  transactionId : String
  amount : Decimal
  date : Date
  publicNotes : String
  currencyId : Option String
  categoryId : Option String
  vendorId : Option String
  clientId : Option String
  deriving DecidableEq

structure Expense where
  id : String
  draft : ExpenseDraft
  createdAt : Timestamp
  deriving DecidableEq

structure Invoice where
  id : String
  tenantId : String
  number : String
  deriving DecidableEq, Repr

def ExpenseDraft.ofConversion (t : Transaction) (rule : Rule) : ExpenseDraft where
  tenantId := t.tenantId
  transactionId := t.id
  amount := t.amountOrZero
  date := t.date
  publicNotes := t.descriptionOrEmpty
  currencyId := t.currencyId
  categoryId := t.categoryId.or rule.categoryId
  vendorId := rule.vendorId
  clientId := rule.clientId

def Invoice.hasNumber (invoice : Invoice) (number : String) : Bool :=
  Text.lower invoice.number.toList == Text.lower number.toList

theorem Invoice.hasNumber_iff {invoice : Invoice} {number : String} :
    invoice.hasNumber number = true ↔
      Text.lower invoice.number.toList = Text.lower number.toList := by
  simp [hasNumber]

end BankFeed
