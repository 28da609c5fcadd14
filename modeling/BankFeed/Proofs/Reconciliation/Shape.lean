import BankFeed.Proofs.Store.Service
import BankFeed.Reconciliation

/-!
# The shape of a reconciliation

A reconciliation call by call: what it asks first, and how it goes on from every answer.
-/

namespace BankFeed

theorem Status.isTerminal_eq_false_iff {status : Status} :
    status.isTerminal = false ↔ status = .unmatched := by
  cases status <;> simp [isTerminal]

namespace Reconciliation

variable {α : Type}

/-!
## Writes
-/

def concede (expenseId : String) (e : Failure) : Run α :=
  .ask (.discard expenseId) fun _ => .done (.error e)

def writeConversion (now : Timestamp) (t : Transaction) (draft : ExpenseDraft)
    (expenseId : String) : Run Transaction :=
  .ask (.compareAndSet t.id .unmatched .converted (conversionUpdate draft expenseId)) fun
    | .error e => concede expenseId e
    | .ok false => concede expenseId (.alreadyReconciled t.id)
    | .ok true => .done (.ok (t.applyUpdate now .converted (conversionUpdate draft expenseId)))

theorem convert_eq (now : Timestamp) (t : Transaction) (rule : Rule) :
    convert now t rule =
      .ask (.create (.ofConversion t rule)) fun
        | .error e => .done (.error (.conversionFailed e.message))
        | .ok expenseId => writeConversion now t (.ofConversion t rule) expenseId := by
  show Run.ask _ _ = Run.ask _ _
  congr 1
  funext created
  cases created with
  | error e => rfl
  | ok expenseId =>
      show Run.ask _ _ = Run.ask _ _
      congr 1
      funext written
      cases written with
      | error e => rfl
      | ok b =>
          cases b with
          | false => rfl
          | true => rfl

theorem matchInvoice_eq (now : Timestamp) (t : Transaction) (invoiceId : String) :
    matchInvoice now t invoiceId =
      .ask (.compareAndSet t.id .unmatched .matched (matchUpdate invoiceId)) fun
        | .error e => .done (.error e)
        | .ok false => .done (.error (.alreadyReconciled t.id))
        | .ok true => .done (.ok (t.applyUpdate now .matched (matchUpdate invoiceId))) := by
  show Run.ask _ _ = Run.ask _ _
  congr 1
  funext written
  cases written with
  | error e => rfl
  | ok b =>
      cases b with
      | false => rfl
      | true => rfl

/-!
## The search

The rules are tried in one recursion that carries on with the transaction itself.
-/

def afterLookUp (now : Timestamp) (t : Transaction) (missed : Run Transaction) :
    Except Failure (Option String) → Run Transaction
  | .error e => .done (.error e)
  | .ok none => missed
  | .ok (some invoiceId) => matchInvoice now t invoiceId

def lookUp (now : Timestamp) (t : Transaction) (missed : Run Transaction) : Run Transaction :=
  if t.descriptionOrEmpty = "" then missed
  else .ask (.findByNumber t.tenantId t.descriptionOrEmpty) (afterLookUp now t missed)

def fallBack (settings : Settings) (now : Timestamp) (t : Transaction) : Run Transaction :=
  if t.direction = .credit ∧ settings.creditInvoiceFallback = true then
    lookUp now t (.done (.ok t))
  else .done (.ok t)

def search (settings : Settings) (now : Timestamp) (t : Transaction) :
    List Rule → Run Transaction
  | [] => fallBack settings now t
  | rule :: rules =>
      if rule.accepts t then
        if rule.autoConvert then convert now t rule
        else if t.direction = .credit then lookUp now t (search settings now t rules)
        else search settings now t rules
      else search settings now t rules

theorem matchAny_bind (now : Timestamp) (t : Transaction)
    {next : Option Transaction → Run Transaction}
    (hnext : ∀ s, next (some s) = .done (.ok s)) :
    matchAny now t >>= next = lookUp now t (next none) := by
  unfold matchAny findInvoice lookUp
  by_cases hempty : t.descriptionOrEmpty = ""
  · simp only [if_pos hempty]
    rfl
  · simp only [if_neg hempty]
    show Run.ask _ _ = Run.ask _ _
    congr 1
    funext found
    cases found with
    | error e => rfl
    | ok answer =>
        cases answer with
        | none => rfl
        | some invoiceId =>
            show (matchInvoice now t invoiceId >>= fun s => pure (some s)) >>= next = _
            rw [Run.bind_assoc]
            have hlast : (fun s => (pure (some s) : Run (Option Transaction)) >>= next) =
                fun s => (pure s : Run Transaction) := by
              funext s
              exact hnext s
            rw [hlast]
            exact Run.bind_pure _

theorem tryRules_bind (settings : Settings) (now : Timestamp) (t : Transaction)
    (rules : List Rule) :
    (tryRules now t rules >>= fun
      | some s => pure s
      | none => fallBack settings now t) = search settings now t rules := by
  induction rules with
  | nil => rfl
  | cons rule rules ih =>
      unfold tryRules search
      by_cases haccepts : rule.accepts t = true
      · simp only [if_pos haccepts]
        by_cases hconverts : rule.autoConvert = true
        · simp only [if_pos hconverts]
          rw [Run.bind_assoc]
          exact Run.bind_pure _
        · simp only [if_neg hconverts]
          by_cases hcredit : t.direction = .credit
          · simp only [if_pos hcredit]
            rw [Run.bind_assoc, matchAny_bind now t (fun s => rfl)]
            exact congrArg (lookUp now t) ih
          · simp only [if_neg hcredit]
            exact ih
      · simp only [if_neg haccepts]
        exact ih

theorem trySettle_bind (settings : Settings) (now : Timestamp) (t : Transaction)
    (rules : List Rule) :
    (trySettle settings now t rules >>= fun
      | some s => pure s
      | none => pure t) = search settings now t rules := by
  rw [← tryRules_bind]
  unfold trySettle
  rw [Run.bind_assoc]
  congr 1
  funext settled
  cases settled with
  | some s => rfl
  | none =>
      unfold fallBack
      by_cases hfallback : t.direction = .credit ∧ settings.creditInvoiceFallback = true
      · simp only [if_pos hfallback]
        exact matchAny_bind now t (fun s => rfl)
      · simp only [if_neg hfallback]
        rfl

/-!
## The whole reconciliation
-/

theorem reconcile_of_terminal {t : Transaction} (h : t.status.isTerminal = true)
    (settings : Settings) (now : Timestamp) :
    reconcile settings now t = .done (.ok t) := by
  unfold reconcile
  rw [if_pos h]
  rfl

theorem reconcile_of_unmatched {t : Transaction} (h : t.status = .unmatched)
    (settings : Settings) (now : Timestamp) :
    reconcile settings now t =
      .ask (.findApplicable t.tenantId t.direction) fun
        | .error e => .done (.error e)
        | .ok offered =>
            search settings now t (Rule.applicable t.tenantId t.direction offered) := by
  unfold reconcile
  rw [h]
  show Run.ask _ _ = Run.ask _ _
  congr 1
  funext offered
  cases offered with
  | error e => rfl
  | ok rules => exact trySettle_bind settings now t _

theorem process_eq (settings : Settings) (now : Timestamp) (id : String) :
    process settings now id =
      .ask (.getTransaction id) fun
        | .error e => .done (.error e)
        | .ok none => .done (.error (.transactionNotFound id))
        | .ok (some t) => reconcile settings now t >>= fun t => pure t.outcome := by
  show Run.ask _ _ = Run.ask _ _
  congr 1
  funext found
  cases found with
  | error e => rfl
  | ok stored =>
      cases stored with
      | none => rfl
      | some t => rfl

/-!
## What a search may come to
-/

/-- The runs that are left at some point of a search through these rules, before its first
write: it leaves the transaction as it is, converts it, or looks for an invoice and goes on. -/
inductive Searches (now : Timestamp) (t : Transaction) (rules : List Rule) :
    Run Transaction → Prop where
  | leave : Searches now t rules (.done (.ok t))
  | convert {rule : Rule} (mem : rule ∈ rules) (accepts : rule.accepts t = true)
      (converts : rule.autoConvert = true) : Searches now t rules (convert now t rule)
  | look {missed : Run Transaction} (credit : t.direction = .credit)
      (named : t.descriptionOrEmpty ≠ "") (next : Searches now t rules missed) :
      Searches now t rules
        (.ask (.findByNumber t.tenantId t.descriptionOrEmpty) (afterLookUp now t missed))

namespace Searches

variable {settings : Settings} {now : Timestamp} {t : Transaction} {rules : List Rule}

theorem lookUp {missed : Run Transaction} (credit : t.direction = .credit)
    (next : Searches now t rules missed) : Searches now t rules (lookUp now t missed) := by
  unfold Reconciliation.lookUp
  by_cases hempty : t.descriptionOrEmpty = ""
  · rw [if_pos hempty]
    exact next
  · rw [if_neg hempty]
    exact .look credit hempty next

theorem fallBack : Searches now t rules (fallBack settings now t) := by
  unfold Reconciliation.fallBack
  by_cases hfallback : t.direction = .credit ∧ settings.creditInvoiceFallback = true
  · rw [if_pos hfallback]
    exact lookUp hfallback.1 .leave
  · rw [if_neg hfallback]
    exact .leave

end Searches

theorem searches_search (settings : Settings) (now : Timestamp) (t : Transaction)
    {rules tried : List Rule} (htried : ∀ rule ∈ tried, rule ∈ rules) :
    Searches now t rules (search settings now t tried) := by
  induction tried with
  | nil => exact Searches.fallBack
  | cons rule rest ih =>
      have hrest := ih fun other hother => htried other (List.mem_cons_of_mem _ hother)
      unfold search
      by_cases haccepts : rule.accepts t = true
      · rw [if_pos haccepts]
        by_cases hconverts : rule.autoConvert = true
        · rw [if_pos hconverts]
          exact .convert (htried rule List.mem_cons_self) haccepts hconverts
        · rw [if_neg hconverts]
          by_cases hcredit : t.direction = .credit
          · rw [if_pos hcredit]
            exact hrest.lookUp hcredit
          · rw [if_neg hcredit]
            exact hrest
      · rw [if_neg haccepts]
        exact hrest

end Reconciliation
end BankFeed
