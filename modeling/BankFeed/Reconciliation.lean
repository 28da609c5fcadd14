import BankFeed.Settings
import BankFeed.Store.Run

/-!
# Reconciliation

The rules of the transaction's tenant and direction are tried in order. The first accepting
rule that converts ends the search with an expense; any other accepting rule ends it only if
an invoice is found for a credit. A credit that no rule settled may still be matched to an
invoice. Every write expects the transaction to be unmatched still; an expense whose write
failed or came too late is discarded.
-/

namespace BankFeed
namespace Reconciliation

/-- Looks for an invoice whose number is the description. An empty description has none. -/
def findInvoice (t : Transaction) : Run (Option String) :=
  if t.descriptionOrEmpty = "" then pure none
  else .call (.findByNumber t.tenantId t.descriptionOrEmpty)

/-- Removes an expense that nothing refers to; a failure to do so is passed over. -/
def discard (expenseId : String) : Run Unit := do
  let _ ← Run.attempt (.discard expenseId)

def conversionUpdate (draft : ExpenseDraft) (expenseId : String) : StatusUpdate :=
  ⟨some expenseId, none, draft.categoryId⟩

def matchUpdate (invoiceId : String) : StatusUpdate :=
  ⟨none, some invoiceId, none⟩

def convert (now : Timestamp) (t : Transaction) (rule : Rule) : Run Transaction := do
  let draft := ExpenseDraft.ofConversion t rule
  match ← Run.attempt (.create draft) with
  | .error e => Run.fail (.conversionFailed e.message)
  | .ok expenseId =>
      let update := conversionUpdate draft expenseId
      match ← Run.attempt (.compareAndSet t.id .unmatched .converted update) with
      | .error e =>
          discard expenseId
          Run.fail e
      | .ok false =>
          discard expenseId
          Run.fail (.alreadyReconciled t.id)
      | .ok true => pure (t.applyUpdate now .converted update)

def matchInvoice (now : Timestamp) (t : Transaction) (invoiceId : String) :
    Run Transaction := do
  let update := matchUpdate invoiceId
  if ← Run.call (.compareAndSet t.id .unmatched .matched update) then
    pure (t.applyUpdate now .matched update)
  else
    Run.fail (.alreadyReconciled t.id)

def matchAny (now : Timestamp) (t : Transaction) : Run (Option Transaction) := do
  match ← findInvoice t with
  | none => pure none
  | some invoiceId =>
      let t ← matchInvoice now t invoiceId
      pure (some t)

/-- Tries rules one after the other; none if no rule settles the transaction. -/
def tryRules (now : Timestamp) (t : Transaction) : List Rule → Run (Option Transaction)
  | [] => pure none
  | rule :: rules =>
      if rule.accepts t then
        if rule.autoConvert then do
          let t ← convert now t rule
          pure (some t)
        else if t.direction = .credit then do
          match ← matchAny now t with
          | some t => pure (some t)
          | none => tryRules now t rules
        else tryRules now t rules
      else tryRules now t rules

def trySettle (settings : Settings) (now : Timestamp) (t : Transaction) (rules : List Rule) :
    Run (Option Transaction) := do
  match ← tryRules now t rules with
  | some t => pure (some t)
  | none =>
      if t.direction = .credit ∧ settings.creditInvoiceFallback = true then matchAny now t
      else pure none

/-- Reconciles a transaction and gives its new state. A final one is left alone. The store
need not have filtered or ordered the rules it offers. -/
def reconcile (settings : Settings) (now : Timestamp) (t : Transaction) : Run Transaction :=
  if t.status.isTerminal then pure t
  else do
    let offered ← Run.call (.findApplicable t.tenantId t.direction)
    match ← trySettle settings now t (Rule.applicable t.tenantId t.direction offered) with
    | some t => pure t
    | none => pure t

def process (settings : Settings) (now : Timestamp) (id : String) : Run Outcome := do
  match ← Run.call (.getTransaction id) with
  | none => Run.fail (.transactionNotFound id)
  | some t =>
      let t ← reconcile settings now t
      pure t.outcome

/-- Reconciles stored transactions one after the other. A failure is kept beside its id and
does not stop the others. -/
def processAll (settings : Settings) (now : Timestamp) :
    List String → Run (List (String × Except Failure Outcome))
  | [] => pure []
  | id :: ids => do
      let result ← (process settings now id).settle
      let results ← processAll settings now ids
      pure ((id, result) :: results)

end Reconciliation
end BankFeed
