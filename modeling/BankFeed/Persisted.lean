import BankFeed.Expense
import BankFeed.Json.Record
import BankFeed.Settings

/-!
# Persisted forms

The JSON form of every type of the domain: the names of choices and of fields, which fields
may be missing, and the names by which messages call the types.
-/

namespace BankFeed

/-! ## Choices -/

namespace Direction

def name : Direction → String
  | .debit => "DEBIT"
  | .credit => "CREDIT"

def names : List (String × Direction) :=
  [("DEBIT", .debit), ("CREDIT", .credit)]

def codec : Codec Direction :=
  .choice names name

end Direction

namespace Status

def name : Status → String
  | .unmatched => "UNMATCHED"
  | .matched => "MATCHED"
  | .converted => "CONVERTED"

def names : List (String × Status) :=
  [("UNMATCHED", .unmatched), ("MATCHED", .matched), ("CONVERTED", .converted)]

def codec : Codec Status :=
  .choice names name

end Status

/-! ## Records -/

namespace Clause

@[reducible]
def fields : List Field :=
  [.required "search_key" .text, .required "operator" .text,
    .required "value" ClauseValue.codec]

def schema : Schema Clause where
  title := "RuleClause"
  fields := fields
  build := fun (searchKey, operator, value, ()) => ⟨searchKey, operator, value⟩
  view c := (c.searchKey, c.operator, c.value, ())

def codec : Codec Clause :=
  schema.codec

end Clause

namespace Rule

@[reducible]
def fields : List Field :=
  [.required "id" .text, .required "tenant_id" .text, .required "name" .text,
    .required "applies_to" Direction.codec, .required "matches_on_all" .flag,
    .required "auto_convert" .flag, .optional "client_id" .text, .optional "vendor_id" .text,
    .optional "category_id" .text, .withStandard "priority" .count32 0,
    .withStandard "rules" (.list Clause.codec) [], .required "created_at" .timestamp]

def schema : Schema Rule where
  title := "BankTransactionRule"
  fields := fields
  build := fun (id, tenantId, name, appliesTo, matchesOnAll, autoConvert, clientId, vendorId,
    categoryId, priority, clauses, createdAt, ()) =>
      ⟨id, tenantId, name, appliesTo, matchesOnAll, autoConvert, clientId, vendorId,
        categoryId, priority, clauses, createdAt⟩
  view r := (r.id, r.tenantId, r.name, r.appliesTo, r.matchesOnAll, r.autoConvert, r.clientId,
    r.vendorId, r.categoryId, r.priority, r.clauses, r.createdAt, ())

def codec : Codec Rule :=
  schema.codec

end Rule

namespace Transaction

@[reducible]
def fields : List Field :=
  [.required "id" .text, .required "tenant_id" .text, .optional "integration_id" .text,
    .optional "amount" .amount, .optional "currency_id" .text, .optional "description" .text,
    .required "date" .date, .required "direction" Direction.codec,
    .optional "category_id" .text, .optional "category_type" .text,
    .required "status" Status.codec, .optional "expense_id" .text,
    .optional "invoice_id" .text, .required "created_at" .timestamp,
    .required "updated_at" .timestamp]

def schema : Schema Transaction where
  title := "BankTransaction"
  fields := fields
  build := fun (id, tenantId, integrationId, amount, currencyId, description, date, direction,
    categoryId, categoryType, status, expenseId, invoiceId, createdAt, updatedAt, ()) =>
      ⟨id, tenantId, integrationId, amount, currencyId, description, date, direction,
        categoryId, categoryType, status, expenseId, invoiceId, createdAt, updatedAt⟩
  view t := (t.id, t.tenantId, t.integrationId, t.amount, t.currencyId, t.description, t.date,
    t.direction, t.categoryId, t.categoryType, t.status, t.expenseId, t.invoiceId, t.createdAt,
    t.updatedAt, ())

def codec : Codec Transaction :=
  schema.codec

end Transaction

namespace StatusUpdate

@[reducible]
def fields : List Field :=
  [.optional "expense_id" .text, .optional "invoice_id" .text, .optional "category_id" .text]

def schema : Schema StatusUpdate where
  title := "StatusUpdate"
  fields := fields
  build := fun (expenseId, invoiceId, categoryId, ()) => ⟨expenseId, invoiceId, categoryId⟩
  view u := (u.expenseId, u.invoiceId, u.categoryId, ())

def codec : Codec StatusUpdate :=
  schema.codec

end StatusUpdate

namespace Outcome

@[reducible]
def fields : List Field :=
  [.required "transaction_id" .text, .required "status" Status.codec,
    .optional "expense_id" .text, .optional "invoice_id" .text]

def schema : Schema Outcome where
  title := "TransactionResult"
  fields := fields
  build := fun (transactionId, status, expenseId, invoiceId, ()) =>
    ⟨transactionId, status, expenseId, invoiceId⟩
  view o := (o.transactionId, o.status, o.expenseId, o.invoiceId, ())

def codec : Codec Outcome :=
  schema.codec

end Outcome

namespace ExpenseDraft

@[reducible]
def fields : List Field :=
  [.required "tenant_id" .text, .required "transaction_id" .text, .required "amount" .amount,
    .required "date" .date, .required "public_notes" .text, .optional "currency_id" .text,
    .optional "category_id" .text, .optional "vendor_id" .text, .optional "client_id" .text]

def schema : Schema ExpenseDraft where
  title := "NewExpense"
  fields := fields
  build := fun (tenantId, transactionId, amount, date, publicNotes, currencyId, categoryId,
    vendorId, clientId, ()) =>
      ⟨tenantId, transactionId, amount, date, publicNotes, currencyId, categoryId, vendorId,
        clientId⟩
  view e := (e.tenantId, e.transactionId, e.amount, e.date, e.publicNotes, e.currencyId,
    e.categoryId, e.vendorId, e.clientId, ())

def codec : Codec ExpenseDraft :=
  schema.codec

end ExpenseDraft

namespace Expense

@[reducible]
def fields : List Field :=
  [.required "id" .text, .required "fields" ExpenseDraft.codec,
    .required "created_at" .timestamp]

def schema : Schema Expense where
  title := "Expense"
  fields := fields
  build := fun (id, draft, createdAt, ()) => ⟨id, draft, createdAt⟩
  view e := (e.id, e.draft, e.createdAt, ())

def codec : Codec Expense :=
  schema.codec

end Expense

namespace Invoice

@[reducible]
def fields : List Field :=
  [.required "id" .text, .required "tenant_id" .text, .required "number" .text]

def schema : Schema Invoice where
  title := "Invoice"
  fields := fields
  build := fun (id, tenantId, number, ()) => ⟨id, tenantId, number⟩
  view i := (i.id, i.tenantId, i.number, ())

def codec : Codec Invoice :=
  schema.codec

end Invoice

namespace Settings

@[reducible]
def fields : List Field :=
  [.withStandard "credit_invoice_fallback" .flag true]

def schema : Schema Settings where
  title := "EngineConfig"
  fields := fields
  build := fun (creditInvoiceFallback, ()) => ⟨creditInvoiceFallback⟩
  view s := (s.creditInvoiceFallback, ())

def codec : Codec Settings :=
  schema.codec

end Settings
end BankFeed
