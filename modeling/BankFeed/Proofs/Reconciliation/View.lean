import BankFeed.Proofs.Reconciliation.Rest

/-!
# What a reconciliation sees and touches

A transaction is settled by the rules and invoices of its tenant, and a reconciliation writes under
the id of its transaction only. So what is done for other ids and tenants goes unseen by those who
look at theirs.
-/

namespace BankFeed

theorem Rule.filter_covers_byTenant (tenantId : String) (direction : Direction) (rules : List Rule) :
    rules.filter (·.covers tenantId direction) =
      (rules.filter (·.tenantId = tenantId)).filter (·.appliesTo == direction) := by
  rw [List.filter_filter]
  apply List.filter_congr
  intro rule _
  unfold covers
  rw [Bool.and_comm]
  rfl

namespace Ledger

open Reconciliation

variable {l l' l'' : Ledger} {t : Transaction} {tenants ids : String → Prop}
  {settings : Settings} {id : String} {made written : Timestamp}

theorem invoice?_eq (l : Ledger) (tenantId number : String) :
    l.invoice? tenantId number =
      (l.invoices.filter (·.tenantId = tenantId)).find? (·.hasNumber number) := by
  rw [List.find?_filter]
  unfold invoice?
  congr 1
  funext invoice
  simp

/-!
## Terms

The terms of some tenants are their rules and invoices.
-/

structure SameTerms (tenants : String → Prop) (l l' : Ledger) : Prop where
  rules : ∀ tenantId, tenants tenantId →
    l'.rules.filter (·.tenantId = tenantId) = l.rules.filter (·.tenantId = tenantId)
  invoices : ∀ tenantId, tenants tenantId →
    l'.invoices.filter (·.tenantId = tenantId) = l.invoices.filter (·.tenantId = tenantId)

namespace SameTerms

theorem of_eq (hrules : l'.rules = l.rules) (hinvoices : l'.invoices = l.invoices) :
    SameTerms tenants l l' where
  rules := by
    intro tenantId _
    rw [hrules]
  invoices := by
    intro tenantId _
    rw [hinvoices]

theorem symm (h : SameTerms tenants l l') : SameTerms tenants l' l where
  rules := fun tenantId htenant => (h.rules tenantId htenant).symm
  invoices := fun tenantId htenant => (h.invoices tenantId htenant).symm

theorem trans (h : SameTerms tenants l l') (h' : SameTerms tenants l' l'') :
    SameTerms tenants l l'' where
  rules := fun tenantId htenant =>
    (h'.rules tenantId htenant).trans (h.rules tenantId htenant)
  invoices := fun tenantId htenant =>
    (h'.invoices tenantId htenant).trans (h.invoices tenantId htenant)

/-- A transaction is settled on the terms of its tenant. -/
theorem settlement (h : SameTerms tenants l l') (htenant : tenants t.tenantId)
    (settings : Settings) : l'.settlement settings t = l.settlement settings t := by
  have hrules : Rule.applicable t.tenantId t.direction l'.rules =
      Rule.applicable t.tenantId t.direction l.rules := by
    unfold Rule.applicable
    rw [Rule.filter_covers_byTenant, Rule.filter_covers_byTenant, h.rules t.tenantId htenant]
  have hinvoice : l'.invoiceFor t = l.invoiceFor t := by
    unfold invoiceFor
    rw [invoice?_eq, invoice?_eq, h.invoices t.tenantId htenant]
  unfold Ledger.settlement
  rw [hrules, hinvoice]

end SameTerms

/-!
## Views

Those who look at some ids see the transactions under them and the expenses that were made for
them, beside the terms of some tenants.
-/

theorem mem_expensesFor {e : Expense} :
    e ∈ l.expensesFor id ↔ e ∈ l.expenses ∧ e.draft.transactionId = id := by
  simp [expensesFor]

theorem expensesFor_createExpense (now : Timestamp) (draft : ExpenseDraft) (l : Ledger)
    (id : String) :
    (l.createExpense now draft).2.expensesFor id =
      l.expensesFor id ++
        if draft.transactionId = id then [⟨l.ids.first, draft, now⟩] else [] := by
  unfold expensesFor
  rw [expenses_createExpense, List.filter_append]
  congr 1
  by_cases h : draft.transactionId = id
  · simp [h]
  · simp [h]

structure SameView (tenants ids : String → Prop) (l l' : Ledger) : Prop
    extends SameTerms tenants l l' where
  records : ∀ id, ids id → l'.transaction? id = l.transaction? id
  expenses : ∀ id, ids id → l'.expensesFor id = l.expensesFor id

theorem sameView_refl (tenants ids : String → Prop) (l : Ledger) : SameView tenants ids l l where
  toSameTerms := .of_eq rfl rfl
  records := fun _ _ => rfl
  expenses := fun _ _ => rfl

theorem SameView.trans (h : SameView tenants ids l l') (h' : SameView tenants ids l' l'') :
    SameView tenants ids l l'' where
  toSameTerms := h.toSameTerms.trans h'.toSameTerms
  records := fun id hid => (h'.records id hid).trans (h.records id hid)
  expenses := fun id hid => (h'.expenses id hid).trans (h.expenses id hid)

theorem SameView.report_eq (h : SameView tenants ids l l') (hid : ids id) :
    l'.report id = l.report id := by
  unfold report
  rw [h.records id hid]

theorem sameView_insertTransaction (h : ¬ ids t.id) (l : Ledger) :
    SameView tenants ids l (l.insertTransaction t) where
  toSameTerms := .of_eq rfl rfl
  records := by
    intro id hid
    apply transaction?_insertTransaction_of_ne
    intro heq
    exact h (heq ▸ hid)
  expenses := fun _ _ => rfl

theorem sameView_insertRule {rule : Rule} (h : ¬ tenants rule.tenantId) (l : Ledger) :
    SameView tenants ids l (l.insertRule rule) where
  rules := by
    intro tenantId htenant
    have hother : rule.tenantId ≠ tenantId := fun heq => h (heq ▸ htenant)
    simp [insertRule, hother]
  invoices := fun _ _ => rfl
  records := fun _ _ => rfl
  expenses := fun _ _ => rfl

theorem sameView_insertInvoice {invoice : Invoice} (h : ¬ tenants invoice.tenantId)
    (l : Ledger) : SameView tenants ids l (l.insertInvoice invoice) where
  rules := fun _ _ => rfl
  invoices := by
    intro tenantId htenant
    have hother : invoice.tenantId ≠ tenantId := fun heq => h (heq ▸ htenant)
    simp [insertInvoice, hother]
  records := fun _ _ => rfl
  expenses := fun _ _ => rfl

theorem sameView_createExpense (draft : ExpenseDraft) (h : ¬ ids draft.transactionId)
    (now : Timestamp) (l : Ledger) : SameView tenants ids l (l.createExpense now draft).2 where
  toSameTerms := .of_eq rfl rfl
  records := fun _ _ => rfl
  expenses := by
    intro id hid
    have hother : draft.transactionId ≠ id := fun heq => h (heq ▸ hid)
    rw [expensesFor_createExpense, if_neg hother, List.append_nil]

theorem sameView_settle (h : ¬ ids t.id) (l : Ledger) (made written : Timestamp)
    (settlement : Settlement) : SameView tenants ids l (l.settle made written t settlement) := by
  cases settlement with
  | leave => exact sameView_refl tenants ids l
  | link invoiceId => exact sameView_insertTransaction (t := t.linkedTo written invoiceId) h l
  | convert rule =>
      exact (sameView_createExpense (.ofConversion t rule) h made l).trans
        (sameView_insertTransaction
          (t := t.convertedBy written rule l.ids.first) h _)

theorem sameView_processed (h : ¬ ids id) (l : Ledger) (settings : Settings)
    (made written : Timestamp) :
    SameView tenants ids l (l.processed settings made written id) := by
  cases hstored : l.transaction? id with
  | none =>
      rw [processed_of_none hstored]
      exact sameView_refl tenants ids l
  | some t =>
      by_cases hstatus : t.status = .unmatched
      · rw [processed_of_unmatched hstored hstatus]
        rw [← id_of_transaction? hstored] at h
        exact sameView_settle h l made written _
      · rw [processed_of_settled hstored hstatus]
        exact sameView_refl tenants ids l

theorem AtRest.of_sameView (h : AtRest l settings id)
    (hview : SameView (fun _ => True) ids l l') (hid : ids id) : AtRest l' settings id := by
  intro t ht hunmatched
  rw [hview.records id hid] at ht
  rw [hview.toSameTerms.settlement trivial settings]
  exact h t ht hunmatched

/-!
## What a reconciliation keeps

The rules and invoices stay as they are, and no expense is removed.
-/

/-- What the two writes of a settlement keep, a reconciliation keeps. -/
theorem processed_induction {P : Ledger → Prop}
    (hinsert : ∀ (l : Ledger) (t : Transaction), P l → P (l.insertTransaction t))
    (hcreate : ∀ (l : Ledger) (now : Timestamp) (draft : ExpenseDraft), P l →
      P (l.createExpense now draft).2)
    (h : P l) (settings : Settings) (made written : Timestamp) (id : String) :
    P (l.processed settings made written id) := by
  cases hstored : l.transaction? id with
  | none =>
      rw [processed_of_none hstored]
      exact h
  | some t =>
      by_cases hstatus : t.status = .unmatched
      · rw [processed_of_unmatched hstored hstatus]
        cases l.settlement settings t with
        | leave => exact h
        | link invoiceId => exact hinsert _ _ h
        | convert rule => exact hinsert _ _ (hcreate _ _ _ h)
      · rw [processed_of_settled hstored hstatus]
        exact h

theorem Orderly.processed (h : l.Orderly) (settings : Settings) (made written : Timestamp)
    (id : String) : (l.processed settings made written id).Orderly :=
  processed_induction (fun _ t h => h.insertTransaction t)
    (fun _ now draft h => h.createExpense now draft) h settings made written id

theorem rules_processed (l : Ledger) (settings : Settings) (made written : Timestamp)
    (id : String) : (l.processed settings made written id).rules = l.rules :=
  processed_induction (P := fun l' => l'.rules = l.rules) (fun _ _ h => h) (fun _ _ _ h => h) rfl
    settings made written id

theorem invoices_processed (l : Ledger) (settings : Settings) (made written : Timestamp)
    (id : String) : (l.processed settings made written id).invoices = l.invoices :=
  processed_induction (P := fun l' => l'.invoices = l.invoices) (fun _ _ h => h)
    (fun _ _ _ h => h) rfl settings made written id

theorem expenses_subset_processed (l : Ledger) (settings : Settings) (made written : Timestamp)
    (id : String) : l.expenses ⊆ (l.processed settings made written id).expenses :=
  processed_induction (P := fun l' => l.expenses ⊆ l'.expenses) (fun _ _ h => h)
    (fun _ _ _ h => List.Subset.trans h (List.subset_append_left _ _)) (List.Subset.refl _)
    settings made written id

end Ledger
end BankFeed
