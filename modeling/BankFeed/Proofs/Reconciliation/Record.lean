import BankFeed.Proofs.Reconciliation.Effect
import Mathlib

/-!
# The record of a transaction

A write goes to the record in the ledger, and the reconciliation applies the same update to the
copy that it gives back. The two stay in step whatever the record held before, links and a category
included, and nothing else in the ledger is touched but that a conversion adds its expense.
-/

namespace BankFeed
namespace Ledger

open Reconciliation

variable {l l' : Ledger} {t s : Transaction}

/-- The rule converted the transaction: it is stored for such transactions and accepts this one,
and the ledger has one more expense, made by the rule, that the record now names. -/
structure ConvertedBy (l l' : Ledger) (t s : Transaction) (rule : Rule) : Prop where
  stored : rule ∈ l.rules
  covers : rule.covers t.tenantId t.direction = true
  accepts : rule.accepts t = true
  converts : rule.autoConvert = true
  unmatched : t.status = .unmatched
  converted : s.status = .converted
  made : ∃ expense : Expense, l'.expenses = l.expenses ++ [expense] ∧
    expense.draft = .ofConversion t rule ∧ s.expenseId = some expense.id

/-- What may have changed when `s` became the record of the transaction `t`: its status, links and
category, and the category only from an absent one to that of the rule that converted it. -/
structure Revises (l l' : Ledger) (t s : Transaction) : Prop where
  fields : { t with
    status := s.status
    expenseId := s.expenseId
    invoiceId := s.invoiceId
    categoryId := s.categoryId
    updatedAt := s.updatedAt } = s
  category : s.categoryId = t.categoryId ∨ t.categoryId = none ∧ ∃ rule,
    ConvertedBy l l' t s rule ∧ s.categoryId = rule.categoryId
  others : ∀ id, id ≠ t.id → l'.transaction? id = l.transaction? id
  rules : l'.rules = l.rules
  invoices : l'.invoices = l.invoices
  expenses : l.expenses <+: l'.expenses

theorem revises_refl (l : Ledger) (t : Transaction) : Revises l l t t where
  fields := rfl
  category := .inl rfl
  others _ _ := rfl
  rules := rfl
  invoices := rfl
  expenses := List.prefix_rfl

theorem revises_link (l : Ledger) (t : Transaction) (written : Timestamp) (invoiceId : String) :
    let s := t.applyUpdate written .matched (matchUpdate invoiceId)
    Revises l (l.insertTransaction s) t s where
  fields := rfl
  category := .inl rfl
  others id hne := by
    have hid : (t.applyUpdate written .matched (matchUpdate invoiceId)).id ≠ id := hne.symm
    exact transaction?_insertTransaction_of_ne hid l
  rules := rfl
  invoices := rfl
  expenses := List.prefix_rfl

theorem categoryId_applyUpdate_conversion (t : Transaction) (rule : Rule) (expenseId : String)
    (written : Timestamp) :
    (t.applyUpdate written .converted
        (conversionUpdate (.ofConversion t rule) expenseId)).categoryId =
      t.categoryId.or rule.categoryId := by
  rw [applyUpdate_conversionUpdate]

theorem revises_convert {rule : Rule} (hunmatched : t.status = .unmatched)
    (hstored : rule ∈ l.rules) (hcovers : rule.covers t.tenantId t.direction = true)
    (haccepts : rule.accepts t = true) (hconverts : rule.autoConvert = true)
    (made written : Timestamp) :
    let s := t.applyUpdate written .converted
      (conversionUpdate (.ofConversion t rule) l.ids.first)
    Revises l ((l.createExpense made (.ofConversion t rule)).2.insertTransaction s) t s where
  fields := rfl
  category := by
    rw [categoryId_applyUpdate_conversion]
    cases hcategory : t.categoryId with
    | some categoryId => exact .inl rfl
    | none =>
        refine .inr ⟨rfl, rule, ?_, rfl⟩
        exact ⟨hstored, hcovers, haccepts, hconverts, hunmatched, rfl, _, rfl, rfl, rfl⟩
  others id hne := by
    have hid : (t.applyUpdate written .converted
        (conversionUpdate (.ofConversion t rule) l.ids.first)).id ≠ id := hne.symm
    exact transaction?_insertTransaction_of_ne hid (l.createExpense made (.ofConversion t rule)).2
  rules := rfl
  invoices := rfl
  expenses := List.prefix_append _ _

/-!
## Copy and record
-/

def InStep (l : Ledger) (t : Transaction) (played : Run.Played Ledger Transaction) : Prop :=
  ∃ r s, played.result = .ok r ∧ played.state.transaction? t.id = some s ∧
    { r with updatedAt := s.updatedAt } = s ∧ Revises l played.state t s

theorem inStep_of_leave (hstored : l.transaction? t.id = some t) (history : List Exchange) :
    InStep l t ⟨.ok t, l, history⟩ :=
  ⟨t, t, rfl, hstored, rfl, revises_refl l t⟩

theorem inStep_of_write {played : Run.Played Ledger Transaction} {status : Status}
    {update : StatusUpdate} {now written : Timestamp}
    (hresult : played.result = .ok (t.applyUpdate now status update))
    (hstate : played.state = l'.insertTransaction (t.applyUpdate written status update))
    (hrevises : Revises l (l'.insertTransaction (t.applyUpdate written status update)) t
      (t.applyUpdate written status update)) :
    InStep l t played := by
  have hstored : (l'.insertTransaction (t.applyUpdate written status update)).transaction? t.id =
      some (t.applyUpdate written status update) :=
    transaction?_insertTransaction_self _ l'
  refine ⟨_, t.applyUpdate written status update, hresult, ?_, rfl, ?_⟩
  · rw [hstate]
    exact hstored
  · rw [hstate]
    exact hrevises

section Clock

variable (settings : Settings) (now : Timestamp) (clock : Nat → Timestamp)

theorem inStep_settlement (hstored : l.transaction? t.id = some t)
    (hunmatched : t.status = .unmatched) :
    InStep l t (l.serveBy clock ((l.settlement settings t).run now t)) := by
  cases hsettlement : l.settlement settings t with
  | leave => exact inStep_of_leave hstored []
  | link invoiceId =>
      rcases serveBy_matchInvoice_of_unmatched now clock hstored hunmatched invoiceId with
        ⟨hresult, hstate⟩
      exact inStep_of_write hresult hstate (revises_link l t (clock 0) invoiceId)
  | convert rule =>
      rcases serveBy_convert_of_unmatched now clock hstored hunmatched rule with
        ⟨hresult, hstate⟩
      rcases rule_of_settlement_eq_convert hsettlement with
        ⟨hmem, hcovers, haccepts, hconverts⟩
      exact inStep_of_write hresult hstate
        (revises_convert hunmatched hmem hcovers haccepts hconverts (clock 0) (clock 1))

theorem inStep_reconcile (hstored : l.transaction? t.id = some t) :
    InStep l t (l.serveBy clock (reconcile settings now t)) := by
  cases hterminal : t.status.isTerminal with
  | true =>
      rw [reconcile_of_terminal hterminal]
      exact inStep_of_leave hstored []
  | false =>
      have hunmatched := Status.isTerminal_eq_false_iff.mp hterminal
      rcases serveBy_reconcile (l := l) settings now clock hunmatched with
        ⟨history, k, hreconcile⟩
      rw [hreconcile]
      exact inStep_settlement settings now (fun n => clock (n + k)) hstored hunmatched

end Clock
end Ledger

open Ledger Reconciliation

/-- A stored transaction is reconciled without failure. What is given back agrees with the record
that is stored then in all but the time of the write, and so does what is reported. The record
differs from the transaction in status, links, category and that time at most, in its category only
where a rule with one converted it and it had none, and everything else in the ledger is as before,
but for the expense of a conversion. -/
theorem returned_as_stored {l : Ledger} (hreachable : l.Reachable) {t : Transaction}
    (hstored : t ∈ l.transactions) (settings : Settings) (now : Timestamp)
    (clock : Nat → Timestamp) :
    let reconciled := l.serveBy clock (reconcile settings now t)
    let processed := l.serveBy clock (process settings now t.id)
    (∃ r s, reconciled.result = .ok r ∧ reconciled.state.transaction? t.id = some s ∧
      { r with updatedAt := s.updatedAt } = s ∧ Revises l reconciled.state t s) ∧
    ∃ s, processed.result = .ok
        { transactionId := s.id
          status := s.status
          expenseId := s.expenseId
          invoiceId := s.invoiceId } ∧
      processed.state.transaction? t.id = some s ∧ Revises l processed.state t s := by
  have hfound : l.transaction? t.id = some t :=
    hreachable.orderly.transaction?_eq_some_iff.mpr ⟨hstored, rfl⟩
  intro reconciled processed
  constructor
  · exact inStep_reconcile settings now clock hfound
  · rcases serveBy_process_of_some settings now clock hfound with ⟨k, hresult, hstate⟩
    rcases inStep_reconcile settings now (fun n => clock (n + k)) hfound with
      ⟨r, s, hr, hs, hsame, hrevises⟩
    refine ⟨s, ?_, ?_, ?_⟩
    · rw [← hsame]
      exact hresult.trans (congrArg (Except.map Transaction.outcome) hr)
    · rw [← hs]
      exact congrArg (·.transaction? t.id) hstate
    · show Revises l (l.serveBy clock (process settings now t.id)).state t s
      rw [hstate]
      exact hrevises

/-!
## A payment with a link

It names an invoice although it is unmatched, and the rule gives it a category.
-/

namespace Payment

def linked : Transaction :=
  { payment with invoiceId := some "i-0", categoryType := some "income" }

def categorizing : Rule :=
  { converting with categoryId := some "c-1" }

def linkedLedger : Ledger :=
  Ledger.empty .numbered
    |>.insertRule categorizing
    |>.insertTransaction linked

theorem reachable_linkedLedger : linkedLedger.Reachable :=
  ((Ledger.Reachable.empty _).insertRule categorizing).insertTransaction linked

theorem returned_as_stored_linked :
    linkedLedger.Reachable ∧ linked ∈ linkedLedger.transactions ∧
    (let reconciled := linkedLedger.serveBy (fun _ => midnight) (reconcile .standard midnight linked)
    ∃ s, reconciled.state.transaction? "t-1" = some s ∧
      Revises linkedLedger reconciled.state linked s ∧ s.status = .converted ∧
      s.expenseId = some "expense-1" ∧ s.invoiceId = some "i-0" ∧ s.categoryId = some "c-1" ∧
      s.categoryType = some "income") := by
  have hstored : linked ∈ linkedLedger.transactions := List.mem_cons_self
  rcases returned_as_stored reachable_linkedLedger hstored .standard midnight
    (fun _ => midnight) with ⟨⟨r, s, _, hs, _, hrevises⟩, _⟩
  have hrecord : (linkedLedger.serveBy (fun _ => midnight)
      (reconcile .standard midnight linked)).state.transaction? "t-1" =
        some (linked.applyUpdate midnight .converted ⟨some "expense-1", none, some "c-1"⟩) := by cbv
  cases hrecord.symm.trans hs
  exact ⟨reachable_linkedLedger, hstored, _, hrecord, hrevises, rfl, rfl, rfl, rfl, rfl⟩

end Payment
end BankFeed
