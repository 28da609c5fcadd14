import BankFeed.Store.Run

/-!
# The ledger

A store in memory. There is at most one transaction for every id; rules and invoices are kept
in the order in which they came, and expenses in the order in which they were created. The
ids of new expenses are drawn from a supply that never gives one twice.
-/

namespace BankFeed

/-- The ids that new expenses are given, one after the other. No two of them are alike. -/
structure IdSupply where
  id : Nat → String
  distinct : ∀ {m n : Nat}, id m = id n → m = n

namespace IdSupply

def first (ids : IdSupply) : String :=
  ids.id 0

def rest (ids : IdSupply) : IdSupply where
  id n := ids.id (n + 1)
  distinct h := Nat.succ.inj (ids.distinct h)

def numbered : IdSupply where
  id n := "expense-" ++ String.ofList (Nat.toDigits 10 (n + 1))
  distinct := by
    intro m n h
    have hdigits : Nat.toDigits 10 (m + 1) = Nat.toDigits 10 (n + 1) := by
      have hlist := congrArg String.toList h
      simpa using hlist
    have hvalue := congrArg (fun digits => Nat.ofDigitChars 10 digits 0) hdigits
    simpa using hvalue

end IdSupply

structure Ledger where
  transactions : List Transaction
  rules : List Rule
  invoices : List Invoice
  expenses : List Expense
  /-- The ids of the expenses to come. -/
  ids : IdSupply

namespace Ledger

def empty (ids : IdSupply) : Ledger :=
  ⟨[], [], [], [], ids⟩

def transaction? (l : Ledger) (id : String) : Option Transaction :=
  l.transactions.find? (·.id = id)

/-- Stores a transaction, in place of the one with its id if there is one. -/
def insertTransaction (t : Transaction) (l : Ledger) : Ledger :=
  { l with transactions := t :: l.transactions.filter (·.id ≠ t.id) }

def insertRule (rule : Rule) (l : Ledger) : Ledger :=
  { l with rules := l.rules ++ [rule] }

def insertInvoice (invoice : Invoice) (l : Ledger) : Ledger :=
  { l with invoices := l.invoices ++ [invoice] }

def invoice? (l : Ledger) (tenantId number : String) : Option Invoice :=
  l.invoices.find? fun invoice => invoice.tenantId = tenantId && invoice.hasNumber number

def expense? (l : Ledger) (id : String) : Option Expense :=
  l.expenses.find? (·.id = id)

def expensesFor (l : Ledger) (transactionId : String) : List Expense :=
  l.expenses.filter (·.draft.transactionId = transactionId)

def createExpense (now : Timestamp) (draft : ExpenseDraft) (l : Ledger) : String × Ledger :=
  let id := l.ids.first
  (id, { l with expenses := l.expenses ++ [⟨id, draft, now⟩], ids := l.ids.rest })

/-- Removes an expense; an unknown one is no fault. -/
def discardExpense (id : String) (l : Ledger) : Ledger :=
  { l with expenses := l.expenses.filter (·.id ≠ id) }

/-- Writes a status and an update if the stored status is the expected one. -/
def compareAndSet (now : Timestamp) (id : String) (expected status : Status)
    (update : StatusUpdate) (l : Ledger) : Except Failure Bool × Ledger :=
  match l.transaction? id with
  | none => (.error (.transactionNotFound id), l)
  | some t =>
      if t.status = expected then
        (.ok true, l.insertTransaction (t.applyUpdate now status update))
      else (.ok false, l)

def answer (now : Timestamp) : Run.Answering Ledger
  | .getTransaction id, l => (.ok (l.transaction? id), l)
  | .findApplicable tenantId direction, l =>
      (.ok (Rule.applicable tenantId direction l.rules), l)
  | .findByNumber tenantId number, l => (.ok ((l.invoice? tenantId number).map (·.id)), l)
  | .create draft, l =>
      let (id, l) := l.createExpense now draft
      (.ok id, l)
  | .discard id, l => (.ok (), l.discardExpense id)
  | .compareAndSet id expected status update, l =>
      l.compareAndSet now id expected status update

def transactionsById (l : Ledger) : List Transaction :=
  l.transactions.mergeSort fun a b => a.id ≤ b.id

theorem transaction?_insertTransaction (t : Transaction) (l : Ledger) (id : String) :
    (l.insertTransaction t).transaction? id =
      if t.id = id then some t else l.transaction? id := by
  by_cases h : t.id = id
  · simp [insertTransaction, transaction?, h]
  · have hfilter : (l.transactions.filter (·.id ≠ t.id)).find? (·.id = id) =
        l.transactions.find? (·.id = id) := by
      induction l.transactions with
      | nil => rfl
      | cons s rest ih =>
          by_cases hs : s.id = t.id
          · have hid : ¬ s.id = id := fun e => h (hs.symm.trans e)
            simpa [hs, h] using ih
          · by_cases hid : s.id = id
            · simp [hid, Ne.symm h]
            · simpa [hs, hid] using ih
    simpa [insertTransaction, transaction?, h] using hfilter

end Ledger
end BankFeed
