import BankFeed.Proofs.Reconciliation.Settlement

/-!
# What a settlement comes to

The writes of a reconciliation on a ledger, and from them what a reconciliation without faults
answers and leaves behind.
-/

namespace BankFeed
namespace Ledger

open Reconciliation

variable {l : Ledger} {fates : Nat → Fate} {t s : Transaction} {e : Failure}
  {made written : Timestamp}

/-!
## Matches
-/

theorem serve_matchInvoice_of_error (hfate : fates 0 = .error e) (now : Timestamp)
    (invoiceId : String) :
    l.serve fates (matchInvoice now t invoiceId) =
      ⟨.error e, l,
        [⟨.compareAndSet t.id .unmatched .matched (matchUpdate invoiceId), .error e⟩]⟩ := by
  rw [matchInvoice_eq, serve_ask_of_error hfate]
  rfl

theorem serve_matchInvoice_of_unmatched (hfate : fates 0 = .ok written)
    (hstored : l.transaction? t.id = some s) (hstatus : s.status = .unmatched) (now : Timestamp)
    (invoiceId : String) :
    l.serve fates (matchInvoice now t invoiceId) =
      ⟨.ok (t.applyUpdate now .matched (matchUpdate invoiceId)),
        l.insertTransaction (s.applyUpdate written .matched (matchUpdate invoiceId)),
        [⟨.compareAndSet t.id .unmatched .matched (matchUpdate invoiceId), .ok true⟩]⟩ := by
  rw [matchInvoice_eq, serve_ask_of_ok hfate]
  simp only [answer, compareAndSet_of_eq hstored hstatus]
  rfl

theorem serve_matchInvoice_of_settled (hfate : fates 0 = .ok written)
    (hstored : l.transaction? t.id = some s) (hstatus : s.status ≠ .unmatched) (now : Timestamp)
    (invoiceId : String) :
    l.serve fates (matchInvoice now t invoiceId) =
      ⟨.error (.alreadyReconciled t.id), l,
        [⟨.compareAndSet t.id .unmatched .matched (matchUpdate invoiceId), .ok false⟩]⟩ := by
  rw [matchInvoice_eq, serve_ask_of_ok hfate]
  simp only [answer, compareAndSet_of_ne hstored hstatus]
  rfl

theorem serve_matchInvoice_of_none (hfate : fates 0 = .ok written)
    (hnone : l.transaction? t.id = none) (now : Timestamp) (invoiceId : String) :
    l.serve fates (matchInvoice now t invoiceId) =
      ⟨.error (.transactionNotFound t.id), l,
        [⟨.compareAndSet t.id .unmatched .matched (matchUpdate invoiceId),
          .error (.transactionNotFound t.id)⟩]⟩ := by
  rw [matchInvoice_eq, serve_ask_of_ok hfate]
  simp only [answer, compareAndSet_of_none hnone]
  rfl

/-!
## Conversions

A conversion creates its expense first. If the write does not follow, the expense is discarded.
-/

theorem serve_convert_of_error (hfate : fates 0 = .error e) (now : Timestamp) (rule : Rule) :
    l.serve fates (convert now t rule) =
      ⟨.error (.conversionFailed e.message), l,
        [⟨.create (.ofConversion t rule), .error e⟩]⟩ := by
  rw [convert_eq, serve_ask_of_error hfate]
  rfl

theorem serve_convert_of_ok (hfate : fates 0 = .ok made) (now : Timestamp) (rule : Rule) :
    l.serve fates (convert now t rule) =
      ((l.createExpense made (.ofConversion t rule)).2.serve (later fates)
        (writeConversion now t (.ofConversion t rule) l.ids.first)).following
        [⟨.create (.ofConversion t rule), .ok l.ids.first⟩] := by
  rw [convert_eq, serve_ask_of_ok hfate]
  rfl

theorem serve_concede_of_error {α : Type} {e' : Failure} (hfate : fates 0 = .error e')
    (expenseId : String) (e : Failure) :
    l.serve fates (concede expenseId e : Run α) =
      ⟨.error e, l, [⟨.discard expenseId, .error e'⟩]⟩ := by
  unfold concede
  rw [serve_ask_of_error hfate]
  rfl

theorem serve_concede_of_ok {α : Type} (hfate : fates 0 = .ok written)
    (expenseId : String) (e : Failure) :
    l.serve fates (concede expenseId e : Run α) =
      ⟨.error e, l.discardExpense expenseId, [⟨.discard expenseId, .ok ()⟩]⟩ := by
  unfold concede
  rw [serve_ask_of_ok hfate]
  rfl

section Write

variable (now : Timestamp) (draft : ExpenseDraft) (expenseId : String)

theorem serve_writeConversion_of_error (hfate : fates 0 = .error e) :
    l.serve fates (writeConversion now t draft expenseId) =
      (l.serve (later fates) (concede expenseId e)).following
        [⟨.compareAndSet t.id .unmatched .converted (conversionUpdate draft expenseId),
          .error e⟩] := by
  unfold writeConversion
  rw [serve_ask_of_error hfate]

theorem serve_writeConversion_of_unmatched (hfate : fates 0 = .ok written)
    (hstored : l.transaction? t.id = some s) (hstatus : s.status = .unmatched) :
    l.serve fates (writeConversion now t draft expenseId) =
      ⟨.ok (t.applyUpdate now .converted (conversionUpdate draft expenseId)),
        l.insertTransaction
          (s.applyUpdate written .converted (conversionUpdate draft expenseId)),
        [⟨.compareAndSet t.id .unmatched .converted (conversionUpdate draft expenseId),
          .ok true⟩]⟩ := by
  unfold writeConversion
  rw [serve_ask_of_ok hfate]
  simp only [answer, compareAndSet_of_eq hstored hstatus]
  rfl

theorem serve_writeConversion_of_settled (hfate : fates 0 = .ok written)
    (hstored : l.transaction? t.id = some s) (hstatus : s.status ≠ .unmatched) :
    l.serve fates (writeConversion now t draft expenseId) =
      (l.serve (later fates) (concede expenseId (.alreadyReconciled t.id))).following
        [⟨.compareAndSet t.id .unmatched .converted (conversionUpdate draft expenseId),
          .ok false⟩] := by
  unfold writeConversion
  rw [serve_ask_of_ok hfate]
  simp only [answer, compareAndSet_of_ne hstored hstatus]

theorem serve_writeConversion_of_none (hfate : fates 0 = .ok written)
    (hnone : l.transaction? t.id = none) :
    l.serve fates (writeConversion now t draft expenseId) =
      (l.serve (later fates) (concede expenseId (.transactionNotFound t.id))).following
        [⟨.compareAndSet t.id .unmatched .converted (conversionUpdate draft expenseId),
          .error (.transactionNotFound t.id)⟩] := by
  unfold writeConversion
  rw [serve_ask_of_ok hfate]
  simp only [answer, compareAndSet_of_none hnone]

end Write

/-!
## Unknown transactions
-/

theorem serve_process_of_none {id : String} (hnone : l.transaction? id = none)
    (settings : Settings) (now : Timestamp) (fates : Nat → Fate) :
    ∃ r e, l.serve fates (process settings now id) =
        ⟨.error e, l, [⟨.getTransaction id, r⟩]⟩ ∧
      (r = .error e ∧ fates 0 = .error e ∨ r = .ok none ∧ e = .transactionNotFound id) := by
  rw [process_eq]
  cases hfate : fates 0 with
  | error e =>
      rw [serve_ask_of_error hfate]
      exact ⟨.error e, e, rfl, .inl ⟨rfl, rfl⟩⟩
  | ok time =>
      rw [serve_ask_of_ok hfate]
      simp only [answer, hnone]
      exact ⟨.ok none, .transactionNotFound id, rfl, .inr ⟨rfl, rfl⟩⟩

/-!
## Reconciliations without faults
-/

theorem applyUpdate_conversionUpdate (t : Transaction) (rule : Rule) (expenseId : String)
    (written : Timestamp) :
    t.applyUpdate written .converted (conversionUpdate (.ofConversion t rule) expenseId) =
      { t with
        status := .converted
        expenseId := some expenseId
        categoryId := t.categoryId.or rule.categoryId
        updatedAt := written } := by
  cases hcategory : t.categoryId with
  | none =>
      simp [Transaction.applyUpdate, conversionUpdate, ExpenseDraft.ofConversion, hcategory]
  | some categoryId =>
      simp [Transaction.applyUpdate, conversionUpdate, ExpenseDraft.ofConversion, hcategory]

section Clock

variable (settings : Settings) (now : Timestamp) (clock : Nat → Timestamp)

/-- Reconciling is carrying out the settlement, after some calls that change nothing. -/
theorem serveBy_reconcile (hstatus : t.status = .unmatched) :
    ∃ history k, l.serveBy clock (reconcile settings now t) =
      (l.serveBy (fun n => clock (n + k)) ((l.settlement settings t).run now t)).following
        history :=
  (readsTo_reconcile l settings now hstatus).serveBy clock

theorem serveBy_process_of_some {id : String} (hstored : l.transaction? id = some t) :
    ∃ k, let reconciled := l.serveBy (fun n => clock (n + k)) (reconcile settings now t)
      (l.serveBy clock (process settings now id)).result =
          reconciled.result.map Transaction.outcome ∧
        (l.serveBy clock (process settings now id)).state = reconciled.state := by
  rcases (readsTo_process l settings now hstored).serveBy clock with ⟨history, k, heq⟩
  refine ⟨k, ?_⟩
  rw [heq]
  unfold serveBy
  rw [serve_bind_pure]
  exact ⟨rfl, rfl⟩

theorem serveBy_process_of_none {id : String} (hstored : l.transaction? id = none) :
    (l.serveBy clock (process settings now id)).result = .error (.transactionNotFound id) ∧
      (l.serveBy clock (process settings now id)).state = l := by
  unfold serveBy
  rcases serve_process_of_none hstored settings now (fun n => .ok (clock n)) with
    ⟨r, e, hplayed, ⟨_, hfate⟩ | ⟨_, he⟩⟩
  · cases hfate
  · rw [hplayed, he]
    exact ⟨rfl, rfl⟩

theorem serveBy_matchInvoice_of_unmatched (hstored : l.transaction? t.id = some s)
    (hstatus : s.status = .unmatched) (invoiceId : String) :
    let played := l.serveBy clock (matchInvoice now t invoiceId)
    played.result = .ok (t.applyUpdate now .matched (matchUpdate invoiceId)) ∧
      played.state =
        l.insertTransaction (s.applyUpdate (clock 0) .matched (matchUpdate invoiceId)) := by
  intro played
  have hplayed : played = _ :=
    serve_matchInvoice_of_unmatched rfl hstored hstatus now invoiceId
  rw [hplayed]
  exact ⟨rfl, rfl⟩

theorem serveBy_convert_of_unmatched (hstored : l.transaction? t.id = some s)
    (hstatus : s.status = .unmatched) (rule : Rule) :
    let played := l.serveBy clock (convert now t rule)
    let draft := ExpenseDraft.ofConversion t rule
    let update := conversionUpdate draft l.ids.first
    played.result = .ok (t.applyUpdate now .converted update) ∧
      played.state = (l.createExpense (clock 0) draft).2.insertTransaction
        (s.applyUpdate (clock 1) .converted update) := by
  intro played draft update
  have hplayed : played = _ := serve_convert_of_ok rfl now rule
  have hkept : (l.createExpense (clock 0) draft).2.transaction? t.id = some s := hstored
  rw [serve_writeConversion_of_unmatched now draft _ rfl hkept hstatus] at hplayed
  rw [hplayed]
  exact ⟨rfl, rfl⟩

theorem serveBy_matchInvoice_of_settled (hstored : l.transaction? t.id = some s)
    (hstatus : s.status ≠ .unmatched) (invoiceId : String) :
    let played := l.serveBy clock (matchInvoice now t invoiceId)
    played.result = .error (.alreadyReconciled t.id) ∧ played.state = l := by
  intro played
  have hplayed : played = _ := serve_matchInvoice_of_settled rfl hstored hstatus now invoiceId
  rw [hplayed]
  exact ⟨rfl, rfl⟩

theorem serveBy_matchInvoice_of_none (hnone : l.transaction? t.id = none) (invoiceId : String) :
    let played := l.serveBy clock (matchInvoice now t invoiceId)
    played.result = .error (.transactionNotFound t.id) ∧ played.state = l := by
  intro played
  have hplayed : played = _ := serve_matchInvoice_of_none rfl hnone now invoiceId
  rw [hplayed]
  exact ⟨rfl, rfl⟩

theorem serveBy_convert_of_settled (hstored : l.transaction? t.id = some s)
    (hstatus : s.status ≠ .unmatched) (rule : Rule) :
    let played := l.serveBy clock (convert now t rule)
    played.result = .error (.alreadyReconciled t.id) ∧
      played.state = (l.createExpense (clock 0) (.ofConversion t rule)).2.discardExpense
        l.ids.first := by
  intro played
  have hplayed : played = _ := serve_convert_of_ok rfl now rule
  have hkept : (l.createExpense (clock 0) (.ofConversion t rule)).2.transaction? t.id =
      some s := hstored
  rw [serve_writeConversion_of_settled now _ _ rfl hkept hstatus, serve_concede_of_ok rfl]
    at hplayed
  rw [hplayed]
  exact ⟨rfl, rfl⟩

theorem serveBy_convert_of_none (hnone : l.transaction? t.id = none) (rule : Rule) :
    let played := l.serveBy clock (convert now t rule)
    played.result = .error (.transactionNotFound t.id) ∧
      played.state = (l.createExpense (clock 0) (.ofConversion t rule)).2.discardExpense
        l.ids.first := by
  intro played
  have hplayed : played = _ := serve_convert_of_ok rfl now rule
  have hkept : (l.createExpense (clock 0) (.ofConversion t rule)).2.transaction? t.id =
      none := hnone
  rw [serve_writeConversion_of_none now _ _ rfl hkept, serve_concede_of_ok rfl] at hplayed
  rw [hplayed]
  exact ⟨rfl, rfl⟩

end Clock
end Ledger

open Ledger Reconciliation

/-- A reconciliation agrees with the decision that the settlement takes without a loop: the
stored rules of the transaction's tenant and direction in their stable order, those that accept
it, and the first invoice with its description as number leave only one way to settle it. -/
theorem process_settles {l : Ledger} (hreachable : l.Reachable) {t : Transaction}
    (hstored : t ∈ l.transactions) (hunmatched : t.status = .unmatched) {rules : List Rule}
    (hrules : Rule.StablySorts
      (l.rules.filter fun rule => rule.tenantId = t.tenantId ∧ rule.appliesTo = t.direction) rules)
    (settings : Settings) (now : Timestamp) (clock : Nat → Timestamp) :
    let played := l.serveBy clock (process settings now t.id)
    let invoice? : Option Invoice :=
      if t.direction = .credit ∧ t.descriptionOrEmpty ≠ "" then
        l.invoices.find? fun invoice => invoice.tenantId = t.tenantId ∧
          Text.lower invoice.number.toList = Text.lower t.descriptionOrEmpty.toList
      else none
    match Settlement.choose settings (invoice?.map (·.id)) (rules.filter (·.accepts t)) with
    | .leave =>
        played.result = .ok
          { transactionId := t.id
            status := .unmatched
            expenseId := t.expenseId
            invoiceId := t.invoiceId } ∧
        played.state = l
    | .link invoiceId => ∃ written : Timestamp,
        played.result = .ok
          { transactionId := t.id
            status := .matched
            expenseId := t.expenseId
            invoiceId := some invoiceId } ∧
        played.state = l.insertTransaction
          { t with status := .matched, invoiceId := some invoiceId, updatedAt := written }
    | .convert rule => ∃ (expense : Expense) (written : Timestamp),
        let settled : Transaction :=
          { t with
            status := .converted
            expenseId := some expense.id
            categoryId := t.categoryId.or rule.categoryId
            updatedAt := written }
        expense.draft = .ofConversion t rule ∧ (∀ e ∈ l.expenses, e.id ≠ expense.id) ∧
          played.result = .ok
            { transactionId := t.id
              status := .converted
              expenseId := some expense.id
              invoiceId := t.invoiceId } ∧
          played.state =
            { l.insertTransaction settled with
              expenses := l.expenses ++ [expense], ids := l.ids.rest } := by
  have hfound : l.transaction? t.id = some t :=
    hreachable.orderly.transaction?_eq_some_iff.mpr ⟨hstored, rfl⟩
  rw [← Rule.filter_covers] at hrules
  intro played invoice?
  have hsettlement : l.settlement settings t =
      Settlement.choose settings (invoice?.map (·.id)) (rules.filter (·.accepts t)) := by
    unfold Ledger.settlement
    rw [Rule.applicable_of_stablySorts hrules, l.invoiceFor_eq t]
  rcases serveBy_process_of_some settings now clock hfound with ⟨k, hresult, hstate⟩
  rcases serveBy_reconcile (l := l) settings now (fun n => clock (n + k)) hunmatched with
    ⟨history, k', hreconcile⟩
  rw [hreconcile, hsettlement] at hresult hstate
  cases hchosen : Settlement.choose settings (invoice?.map (·.id)) (rules.filter (·.accepts t)) with
  | leave =>
      rw [hchosen] at hresult hstate
      refine ⟨hresult.trans ?_, hstate⟩
      show Except.ok t.outcome = _
      rw [Transaction.outcome, hunmatched]
  | link invoiceId =>
      rw [hchosen] at hresult hstate
      rcases serveBy_matchInvoice_of_unmatched now (fun n => clock (n + k' + k)) hfound
        hunmatched invoiceId with ⟨hlinked, hledger⟩
      refine ⟨clock (0 + k' + k), ?_, hstate.trans hledger⟩
      exact hresult.trans (congrArg (Except.map Transaction.outcome) hlinked)
  | convert rule =>
      rw [hchosen] at hresult hstate
      rcases serveBy_convert_of_unmatched now (fun n => clock (n + k' + k)) hfound
        hunmatched rule with ⟨hconverted, hledger⟩
      refine ⟨⟨l.ids.first, .ofConversion t rule, clock (0 + k' + k)⟩,
        clock (1 + k' + k), rfl, ?_, ?_, ?_⟩
      · intro e he
        exact hreachable.orderly.ne_first he
      · exact hresult.trans (congrArg (Except.map Transaction.outcome) hconverted)
      · rw [← applyUpdate_conversionUpdate]
        exact hstate.trans hledger

/-!
## A payment

A credit that names an invoice in other letters, a rule that converts it and was there first,
and a rule of higher priority that does not.
-/

namespace Payment

def midnight : Timestamp where
  date := { year := 2024, month := 5, day := 2 }
  hour := 0
  minute := 0
  second := 0
  nanosecond := 0

def payment : Transaction :=
  .create midnight "t-1" "acme" .credit (.ofInt 90) "INV-7" midnight.date

def invoice : Invoice :=
  ⟨"i-1", "acme", "inv-7"⟩

def small : Rule :=
  (Rule.create midnight "r-1" "acme" "small payments" .credit).withClause
    ⟨"amount", "<", .number (.ofInt 100)⟩

def converting : Rule :=
  { small with id := "r-2", autoConvert := true, vendorId := some "v-1", priority := 1 }

def ledger : Ledger :=
  Ledger.empty .numbered
    |>.insertRule converting
    |>.insertRule small
    |>.insertInvoice invoice
    |>.insertTransaction payment

theorem reachable_ledger : ledger.Reachable :=
  ((((Ledger.Reachable.empty _).insertRule converting).insertRule small).insertInvoice
    invoice).insertTransaction payment

theorem stablySorts_rules : Rule.StablySorts
    (ledger.rules.filter fun rule =>
      rule.tenantId = payment.tenantId ∧ rule.appliesTo = payment.direction)
    [small, converting] where
  perm := by decide
  ordered := by decide
  ties := by decide

/-- The rule that is tried first accepts the payment and finds the invoice. -/
theorem process_settles_payment :
    ledger.Reachable ∧ payment ∈ ledger.transactions ∧ payment.status = .unmatched ∧
      let played := ledger.serveBy (fun _ => midnight) (process .standard midnight "t-1")
      ∃ written : Timestamp,
        played.result = .ok ⟨"t-1", .matched, none, some "i-1"⟩ ∧
        played.state = ledger.insertTransaction
          { payment with status := .matched, invoiceId := some "i-1", updatedAt := written } := by
  have hstored : payment ∈ ledger.transactions := by decide
  have hsettles := process_settles reachable_ledger hstored rfl stablySorts_rules .standard
    midnight (fun _ => midnight)
  have hinvoice : ledger.invoiceFor payment = some "i-1" := by decide
  rw [ledger.invoiceFor_eq payment] at hinvoice
  have hchosen : Settlement.choose .standard (some "i-1")
      ([small, converting].filter (·.accepts payment)) = .link "i-1" := by decide
  dsimp only at hsettles
  rw [hinvoice, hchosen] at hsettles
  exact ⟨reachable_ledger, hstored, rfl, hsettles⟩

end Payment
end BankFeed
