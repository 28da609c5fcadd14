import BankFeed.Proofs.Store.Service
import Mathlib.Data.List.Nodup

/-!
# What a ledger holds

What each change of a ledger does to its contents, and what all ledgers have in common that
come about through the calls of a store: ids are not repeated, and a new expense has a new id.
-/

namespace BankFeed
namespace Ledger

/-!
## Changes
-/

theorem id_of_transaction? {l : Ledger} {id : String} {t : Transaction}
    (h : l.transaction? id = some t) : t.id = id := by
  simpa using List.find?_some h

theorem mem_of_transaction? {l : Ledger} {id : String} {t : Transaction}
    (h : l.transaction? id = some t) : t ∈ l.transactions :=
  List.mem_of_find?_eq_some h

theorem unmatched_of_stored {l : Ledger} {id : String} {t : Transaction}
    (hstored : l.transaction? id = some t) (hunmatched : t.status = .unmatched) :
    ∀ s, l.transaction? id = some s → s.status = .unmatched := by
  intro s hs
  cases hstored.symm.trans hs
  exact hunmatched

theorem transaction?_insertTransaction_self (t : Transaction) (l : Ledger) :
    (l.insertTransaction t).transaction? t.id = some t := by
  rw [transaction?_insertTransaction, if_pos rfl]

theorem transaction?_insertTransaction_of_ne {t : Transaction} {id : String} (h : t.id ≠ id)
    (l : Ledger) : (l.insertTransaction t).transaction? id = l.transaction? id := by
  rw [transaction?_insertTransaction, if_neg h]

theorem expenses_createExpense (now : Timestamp) (draft : ExpenseDraft) (l : Ledger) :
    (l.createExpense now draft).2.expenses =
      l.expenses ++ [⟨l.ids.first, draft, now⟩] := rfl

theorem expenses_discardExpense (id : String) (l : Ledger) :
    (l.discardExpense id).expenses = l.expenses.filter (·.id ≠ id) := rfl

theorem mem_insertTransaction {t s : Transaction} {l : Ledger} :
    s ∈ (l.insertTransaction t).transactions ↔ s = t ∨ s ∈ l.transactions ∧ s.id ≠ t.id := by
  simp [insertTransaction]

theorem compareAndSet_of_none {l : Ledger} {id : String} (h : l.transaction? id = none)
    (now : Timestamp) (expected status : Status) (update : StatusUpdate) :
    l.compareAndSet now id expected status update = (.error (.transactionNotFound id), l) := by
  simp only [compareAndSet, h]

theorem compareAndSet_of_eq {l : Ledger} {id : String} {t : Transaction} {expected : Status}
    (h : l.transaction? id = some t) (hstatus : t.status = expected) (now : Timestamp)
    (status : Status) (update : StatusUpdate) :
    l.compareAndSet now id expected status update =
      (.ok true, l.insertTransaction (t.applyUpdate now status update)) := by
  simp only [compareAndSet, h, hstatus, if_true]

theorem compareAndSet_of_ne {l : Ledger} {id : String} {t : Transaction} {expected : Status}
    (h : l.transaction? id = some t) (hstatus : t.status ≠ expected) (now : Timestamp)
    (status : Status) (update : StatusUpdate) :
    l.compareAndSet now id expected status update = (.ok false, l) := by
  simp only [compareAndSet, h, if_neg hstatus]

/-!
## Orderly ledgers
-/

/-- No expense to come is given this id. -/
def Spent (l : Ledger) (id : String) : Prop :=
  ∀ n, l.ids.id n ≠ id

theorem spent_createExpense (now : Timestamp) (draft : ExpenseDraft) (l : Ledger) :
    Spent (l.createExpense now draft).2 l.ids.first := by
  intro n h
  cases l.ids.distinct h

theorem Spent.createExpense {l : Ledger} {id : String} (h : Spent l id) (now : Timestamp)
    (draft : ExpenseDraft) : Spent (l.createExpense now draft).2 id :=
  fun n => h (n + 1)

/-- No id is repeated, and none of a stored expense is given again. -/
structure Orderly (l : Ledger) : Prop where
  transactionIds : (l.transactions.map (·.id)).Nodup
  expenseIds : (l.expenses.map (·.id)).Nodup
  spent : ∀ e ∈ l.expenses, Spent l e.id

theorem orderly_empty (ids : IdSupply) : Orderly (empty ids) where
  transactionIds := List.nodup_nil
  expenseIds := List.nodup_nil
  spent := by
    intro e he
    cases he

namespace Orderly

variable {l : Ledger}

theorem transaction?_eq_some_iff (h : Orderly l) {id : String} {t : Transaction} :
    l.transaction? id = some t ↔ t ∈ l.transactions ∧ t.id = id := by
  constructor
  · intro hfound
    exact ⟨mem_of_transaction? hfound, id_of_transaction? hfound⟩
  · rintro ⟨hmem, rfl⟩
    cases hfound : l.transaction? t.id with
    | none =>
        have hnone := List.find?_eq_none.mp hfound t hmem
        simp at hnone
    | some s =>
        have hsame : s = t :=
          List.inj_on_of_nodup_map h.transactionIds (mem_of_transaction? hfound) hmem
            (id_of_transaction? hfound)
        rw [hsame]

theorem eq_of_expense_id (h : Orderly l) {e e' : Expense} (he : e ∈ l.expenses)
    (he' : e' ∈ l.expenses) (hid : e.id = e'.id) : e = e' :=
  List.inj_on_of_nodup_map h.expenseIds he he' hid

theorem ne_first (h : Orderly l) {e : Expense} (he : e ∈ l.expenses) : e.id ≠ l.ids.first :=
  (h.spent e he 0).symm

theorem insertTransaction (h : Orderly l) (t : Transaction) :
    Orderly (l.insertTransaction t) where
  transactionIds := by
    show (t.id :: (l.transactions.filter (·.id ≠ t.id)).map (·.id)).Nodup
    rw [List.nodup_cons]
    constructor
    · simp
    · exact h.transactionIds.sublist (List.filter_sublist.map _)
  expenseIds := h.expenseIds
  spent := h.spent

theorem insertRule (h : Orderly l) (rule : Rule) : Orderly (l.insertRule rule) :=
  ⟨h.transactionIds, h.expenseIds, h.spent⟩

theorem insertInvoice (h : Orderly l) (invoice : Invoice) : Orderly (l.insertInvoice invoice) :=
  ⟨h.transactionIds, h.expenseIds, h.spent⟩

theorem createExpense (h : Orderly l) (now : Timestamp) (draft : ExpenseDraft) :
    Orderly (l.createExpense now draft).2 where
  transactionIds := h.transactionIds
  expenseIds := by
    rw [expenses_createExpense, List.map_append, List.nodup_append]
    refine ⟨h.expenseIds, List.nodup_singleton _, ?_⟩
    intro id hid id' hid'
    rcases List.mem_map.mp hid with ⟨e, he, rfl⟩
    rw [List.mem_singleton.mp hid']
    exact h.ne_first he
  spent := by
    intro e he
    rcases List.mem_append.mp he with hold | hnew
    · exact (h.spent e hold).createExpense now draft
    · rw [List.mem_singleton.mp hnew]
      exact spent_createExpense now draft l

theorem discardExpense (h : Orderly l) (id : String) : Orderly (l.discardExpense id) where
  transactionIds := h.transactionIds
  expenseIds := h.expenseIds.sublist (List.filter_sublist.map _)
  spent := by
    intro e he
    exact h.spent e (List.mem_filter.mp he).1

theorem compareAndSet (h : Orderly l) (now : Timestamp) (id : String) (expected status : Status)
    (update : StatusUpdate) : Orderly (l.compareAndSet now id expected status update).2 := by
  unfold Ledger.compareAndSet
  cases l.transaction? id with
  | none => exact h
  | some t =>
      by_cases hstatus : t.status = expected
      · simp only [if_pos hstatus]
        exact h.insertTransaction _
      · simp only [if_neg hstatus]
        exact h

theorem answer (h : Orderly l) (now : Timestamp) (q : Request) : Orderly (l.answer now q).2 := by
  cases q with
  | getTransaction id => exact h
  | findApplicable tenantId direction => exact h
  | findByNumber tenantId number => exact h
  | create draft => exact h.createExpense now draft
  | discard id => exact h.discardExpense id
  | compareAndSet id expected status update => exact h.compareAndSet now id expected status update

theorem expenses_discard_create (h : Orderly l) (now : Timestamp) (draft : ExpenseDraft) :
    ((l.createExpense now draft).2.discardExpense l.ids.first).expenses =
      l.expenses := by
  rw [expenses_discardExpense, expenses_createExpense, List.filter_append]
  have hold : l.expenses.filter (·.id ≠ l.ids.first) = l.expenses := by
    apply List.filter_eq_self.mpr
    intro e he
    simpa using h.ne_first he
  rw [hold]
  simp

end Orderly

/-!
## Named expenses

A converted transaction names an expense. Which expenses are named changes only when an
unmatched transaction is replaced.
-/

def Named (l : Ledger) (expenseId : String) : Prop :=
  ∃ t ∈ l.transactions, t.status = .converted ∧ t.expenseId = some expenseId

def Backed (l : Ledger) (t : Transaction) : Prop :=
  ∃ e ∈ l.expenses, t.expenseId = some e.id ∧ e.draft.transactionId = t.id

theorem Backed.mono {l l' : Ledger} {t : Transaction} (h : Backed l t)
    (hexpenses : l.expenses ⊆ l'.expenses) : Backed l' t := by
  rcases h with ⟨e, he, hbacked⟩
  exact ⟨e, hexpenses he, hbacked⟩

namespace Orderly

variable {l : Ledger}

theorem named_insertTransaction (h : Orderly l) {t : Transaction}
    (hfree : ∀ s, l.transaction? t.id = some s → s.status = .unmatched) {expenseId : String} :
    Named (l.insertTransaction t) expenseId ↔
      t.status = .converted ∧ t.expenseId = some expenseId ∨ Named l expenseId := by
  constructor
  · rintro ⟨s, hs, hnames⟩
    rcases mem_insertTransaction.mp hs with rfl | ⟨hmem, _⟩
    · exact .inl hnames
    · exact .inr ⟨s, hmem, hnames⟩
  · rintro (hnames | ⟨s, hs, hconverted, hname⟩)
    · exact ⟨t, mem_insertTransaction.mpr (.inl rfl), hnames⟩
    · refine ⟨s, mem_insertTransaction.mpr (.inr ⟨hs, ?_⟩), hconverted, hname⟩
      intro hid
      have hunmatched := hfree s (h.transaction?_eq_some_iff.mpr ⟨hs, hid⟩)
      rw [hunmatched] at hconverted
      cases hconverted

/-- If transactions and expenses refer to each other, there are as many expenses as converted
transactions. -/
theorem length_expenses (h : Orderly l)
    (hbacked : ∀ t ∈ l.transactions, t.status = .converted → Backed l t)
    (hnamed : ∀ e ∈ l.expenses, Named l e.id) :
    l.expenses.length = (l.transactions.filter (·.status = .converted)).length := by
  have hexpenses : (l.expenses.map fun e => some e.id).Nodup := by
    have hsome := h.expenseIds.map fun _ _ => Option.some.inj
    rwa [List.map_map] at hsome
  have hnames : ((l.transactions.filter (·.status = .converted)).map (·.expenseId)).Nodup := by
    apply List.Nodup.map_on
    · intro t ht t' ht' hsame
      rcases List.mem_filter.mp ht with ⟨hmem, hconverted⟩
      rcases List.mem_filter.mp ht' with ⟨hmem', hconverted'⟩
      rcases hbacked t hmem (by simpa using hconverted) with ⟨e, he, hid, hmade⟩
      rcases hbacked t' hmem' (by simpa using hconverted') with ⟨e', he', hid', hmade'⟩
      have hexpense : e = e' := by
        apply h.eq_of_expense_id he he'
        rw [hid, hid'] at hsame
        exact Option.some.inj hsame
      apply List.inj_on_of_nodup_map h.transactionIds hmem hmem'
      rw [← hmade, ← hmade', hexpense]
    · exact (h.transactionIds.of_map _).filter _
  -- The ids of the expenses and those that converted transactions name are the same, each once.
  have hperm : (l.expenses.map fun e => some e.id).Perm
      ((l.transactions.filter (·.status = .converted)).map (·.expenseId)) := by
    rw [List.perm_ext_iff_of_nodup hexpenses hnames]
    intro id
    constructor
    · intro hid
      rcases List.mem_map.mp hid with ⟨e, he, rfl⟩
      rcases hnamed e he with ⟨t, ht, hconverted, hname⟩
      exact List.mem_map.mpr ⟨t, List.mem_filter.mpr ⟨ht, by simpa using hconverted⟩, hname⟩
    · intro hid
      rcases List.mem_map.mp hid with ⟨t, ht, rfl⟩
      rcases List.mem_filter.mp ht with ⟨hmem, hconverted⟩
      rcases hbacked t hmem (by simpa using hconverted) with ⟨e, he, hname, _⟩
      exact List.mem_map.mpr ⟨e, he, hname.symm⟩
  simpa using hperm.length_eq

end Orderly

/-!
## Reachable ledgers
-/

/-- The ledgers that come about from the empty one: records are put in, and calls are
answered, in any order and at any time. -/
inductive Reachable : Ledger → Prop where
  | empty (ids : IdSupply) : Reachable (empty ids)
  | insertTransaction {l : Ledger} (h : Reachable l) (t : Transaction) :
      Reachable (l.insertTransaction t)
  | insertRule {l : Ledger} (h : Reachable l) (rule : Rule) : Reachable (l.insertRule rule)
  | insertInvoice {l : Ledger} (h : Reachable l) (invoice : Invoice) :
      Reachable (l.insertInvoice invoice)
  | answer {l : Ledger} (h : Reachable l) (now : Timestamp) (q : Request) :
      Reachable (l.answer now q).2

namespace Reachable

variable {l : Ledger}

theorem orderly (h : Reachable l) : Orderly l := by
  induction h with
  | empty ids => exact orderly_empty ids
  | insertTransaction h t ih => exact ih.insertTransaction t
  | insertRule h rule ih => exact ih.insertRule rule
  | insertInvoice h invoice ih => exact ih.insertInvoice invoice
  | answer h now q ih => exact ih.answer now q

theorem serve {α : Type} (h : Reachable l) (fates : Nat → Fate) (run : Run α) :
    Reachable (l.serve fates run).state := by
  induction run generalizing fates l with
  | done r => exact h
  | ask q resume ih =>
      rw [serve_ask]
      cases fates 0 with
      | error e => exact ih _ h _
      | ok now => exact ih _ (h.answer now q) _

end Reachable
end Ledger
end BankFeed
