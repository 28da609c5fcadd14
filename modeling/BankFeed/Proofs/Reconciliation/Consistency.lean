import BankFeed.Proofs.Reconciliation.Effect

/-!
# The books agree

Transactions refer to expenses and invoices, and the records they refer to agree with them. This
holds of every ledger in a chronicle: a sequence of ledgers in which records are put in and
transactions are reconciled, also from copies that are out of date.
-/

namespace BankFeed
namespace Ledger

open Reconciliation

variable {l l' : Ledger} {t s : Transaction}

/-!
## Agreement
-/

/-- An expense has the values of a transaction, and those of a rule that converts it. -/
structure MadeFrom (l : Ledger) (t : Transaction) (e : Expense) : Prop where
  tenantId : e.draft.tenantId = t.tenantId
  transactionId : e.draft.transactionId = t.id
  amount : e.draft.amount = t.amountOrZero
  date : e.draft.date = t.date
  publicNotes : e.draft.publicNotes = t.descriptionOrEmpty
  currencyId : e.draft.currencyId = t.currencyId
  categoryId : e.draft.categoryId = t.categoryId
  byRule : ∃ rule ∈ l.rules, rule.autoConvert = true ∧ rule.tenantId = t.tenantId ∧
    rule.appliesTo = t.direction ∧ rule.accepts t = true ∧
    e.draft.vendorId = rule.vendorId ∧ e.draft.clientId = rule.clientId

/-- What the status of a transaction says about its links. -/
def Accounted (l : Ledger) (t : Transaction) : Prop :=
  match t.status with
  | .unmatched => t.expenseId = none ∧ t.invoiceId = none
  | .matched =>
      t.direction = .credit ∧ t.expenseId = none ∧ t.descriptionOrEmpty ≠ "" ∧
        ∃ invoice ∈ l.invoices, t.invoiceId = some invoice.id ∧
          invoice.tenantId = t.tenantId ∧
          Text.lower invoice.number.toList = Text.lower t.descriptionOrEmpty.toList
  | .converted =>
      t.invoiceId = none ∧ ∃ e ∈ l.expenses, t.expenseId = some e.id ∧ MadeFrom l t e

/-- Every transaction is accounted for, and every expense is named by a transaction. -/
structure Consistent (l : Ledger) : Prop where
  accounted : ∀ t ∈ l.transactions, Accounted l t
  named : ∀ e ∈ l.expenses, Named l e.id

theorem MadeFrom.mono {e : Expense} (h : MadeFrom l t e) (hrules : l.rules ⊆ l'.rules) :
    MadeFrom l' t e := by
  rcases h.byRule with ⟨rule, hmem, hrule⟩
  exact { h with byRule := ⟨rule, hrules hmem, hrule⟩ }

theorem Accounted.mono (h : Accounted l t) (hrules : l.rules ⊆ l'.rules)
    (hinvoices : l.invoices ⊆ l'.invoices) (hexpenses : l.expenses ⊆ l'.expenses) :
    Accounted l' t := by
  unfold Accounted at h ⊢
  cases hstatus : t.status with
  | unmatched =>
      rw [hstatus] at h
      exact h
  | matched =>
      rw [hstatus] at h
      rcases h with ⟨hcredit, hexpense, hnamed, invoice, hmem, hinvoice⟩
      exact ⟨hcredit, hexpense, hnamed, invoice, hinvoices hmem, hinvoice⟩
  | converted =>
      rw [hstatus] at h
      rcases h with ⟨hinvoice, e, hmem, hid, hmade⟩
      exact ⟨hinvoice, e, hexpenses hmem, hid, hmade.mono hrules⟩

theorem Accounted.insertTransaction (h : Accounted l t) (s : Transaction) :
    Accounted (l.insertTransaction s) t :=
  h.mono (List.Subset.refl _) (List.Subset.refl _) (List.Subset.refl _)

theorem Accounted.backed (h : Accounted l t) (hstatus : t.status = .converted) :
    Backed l t := by
  unfold Accounted at h
  rw [hstatus] at h
  rcases h with ⟨_, e, he, hname, hmade⟩
  exact ⟨e, he, hname, hmade.transactionId⟩

namespace Consistent

theorem length_expenses (h : Consistent l) (horderly : l.Orderly) :
    l.expenses.length = (l.transactions.filter (·.status = .converted)).length :=
  horderly.length_expenses (fun t ht hstatus => (h.accounted t ht).backed hstatus) h.named

/-!
### What keeps the agreement

Records may be added, an unmatched transaction may be put in, and one may be settled.
-/

theorem mono (h : Consistent l) (htransactions : l'.transactions = l.transactions)
    (hrules : l.rules ⊆ l'.rules) (hinvoices : l.invoices ⊆ l'.invoices)
    (hexpenses : l'.expenses = l.expenses) : Consistent l' where
  accounted := by
    intro t ht
    rw [htransactions] at ht
    exact (h.accounted t ht).mono hrules hinvoices (by simp [hexpenses])
  named := by
    intro e he
    rw [hexpenses] at he
    rcases h.named e he with ⟨t, ht, hnames⟩
    exact ⟨t, htransactions ▸ ht, hnames⟩

theorem insertTransaction (h : Consistent l) (horderly : l.Orderly)
    (hfree : ∀ s, l.transaction? t.id = some s → s.status = .unmatched)
    (ht : Accounted l t) : Consistent (l.insertTransaction t) where
  accounted := by
    intro s hs
    rcases mem_insertTransaction.mp hs with rfl | ⟨hmem, _⟩
    · exact ht.insertTransaction s
    · exact (h.accounted s hmem).insertTransaction t
  named := by
    intro e he
    exact (horderly.named_insertTransaction hfree).mpr (.inr (h.named e he))

theorem convert (h : Consistent l) (horderly : l.Orderly)
    (hfree : ∀ s, l.transaction? t.id = some s → s.status = .unmatched)
    (made : Timestamp) (draft : ExpenseDraft) (hstatus : t.status = .converted)
    (hname : t.expenseId = some l.ids.first)
    (ht : Accounted (l.createExpense made draft).2 t) :
    Consistent ((l.createExpense made draft).2.insertTransaction t) where
  accounted := by
    intro s hs
    rcases mem_insertTransaction.mp hs with rfl | ⟨hmem, _⟩
    · exact ht.insertTransaction s
    · exact (h.accounted s hmem).mono (List.Subset.refl _) (List.Subset.refl _)
        (List.subset_append_left _ _)
  named := by
    intro e he
    have hcreated := horderly.createExpense made draft
    apply (hcreated.named_insertTransaction hfree).mpr
    rcases List.mem_append.mp he with hold | hnew
    · exact .inr (h.named e hold)
    · rw [List.mem_singleton.mp hnew]
      exact .inl ⟨hstatus, hname⟩

theorem settles (h : Consistent l) (horderly : l.Orderly) (hsettles : Settles l l') :
    Consistent l' := by
  cases hsettles with
  | leave transactions rules invoices expenses =>
      exact h.mono transactions (by simp [rules]) (by simp [invoices]) expenses
  | @link t invoice stored unmatched credit named mem tenant number written =>
      have hlinks := h.accounted t (mem_of_transaction? stored)
      simp only [Accounted, unmatched] at hlinks
      apply h.insertTransaction horderly
      · exact unmatched_of_stored stored unmatched
      · exact ⟨credit, hlinks.1, named, invoice, mem, rfl, tenant, Invoice.hasNumber_iff.mp number⟩
  | @convert t rule stored unmatched mem covers accepts converts made written =>
      have hlinks := h.accounted t (mem_of_transaction? stored)
      simp only [Accounted, unmatched] at hlinks
      apply h.convert horderly
      · exact unmatched_of_stored stored unmatched
      · rfl
      · rfl
      -- The expense that was made last is the one that the record names.
      · rcases Rule.covers_iff.mp covers with ⟨htenant, hdirection⟩
        refine ⟨hlinks.2, _, List.mem_append_right _ (List.mem_singleton_self _), rfl, ?_⟩
        refine ⟨rfl, rfl, rfl, rfl, rfl, rfl, ?_, rule, mem, converts, htenant, hdirection,
          accepts, rfl, rfl⟩
        rw [applyUpdate_conversionUpdate]
        rfl

end Consistent

end Ledger
end BankFeed
