import BankFeed.Proofs.Reconciliation.Effect

/-!
# Transactions at rest

A reconciliation without faults carries out the settlement of its transaction, and what it reports
is what the ledger then holds. It leaves the transaction at rest: to reconcile it once more changes
nothing.
-/

namespace BankFeed

open Reconciliation

/-!
## Settled transactions
-/

namespace Transaction

def linkedTo (written : Timestamp) (invoiceId : String) (t : Transaction) : Transaction :=
  t.applyUpdate written .matched (matchUpdate invoiceId)

def convertedBy (written : Timestamp) (rule : Rule) (expenseId : String) (t : Transaction) :
    Transaction :=
  t.applyUpdate written .converted (conversionUpdate (.ofConversion t rule) expenseId)

end Transaction

abbrev Reports : Type :=
  List (String × Except Failure Outcome)

namespace Ledger

variable {l : Ledger} {t : Transaction} {id : String} {settings : Settings}
  {made written : Timestamp}

/-!
## The ledger after a reconciliation
-/

/-- The ledger after a settlement of the transaction. An expense is made at one time, and the
transaction written at another one. -/
def settle (l : Ledger) (made written : Timestamp) (t : Transaction) : Settlement → Ledger
  | .leave => l
  | .link invoiceId => l.insertTransaction (t.linkedTo written invoiceId)
  | .convert rule =>
      (l.createExpense made (.ofConversion t rule)).2.insertTransaction
        (t.convertedBy written rule l.ids.first)

def processed (l : Ledger) (settings : Settings) (made written : Timestamp) (id : String) :
    Ledger :=
  match l.transaction? id with
  | none => l
  | some t =>
      if t.status = .unmatched then l.settle made written t (l.settlement settings t) else l

def report (l : Ledger) (id : String) : Except Failure Outcome :=
  match l.transaction? id with
  | none => .error (.transactionNotFound id)
  | some t => .ok t.outcome

theorem report_of_none (h : l.transaction? id = none) :
    l.report id = .error (.transactionNotFound id) := by
  simp only [report, h]

theorem report_of_some (h : l.transaction? id = some t) : l.report id = .ok t.outcome := by
  simp only [report, h]

theorem processed_of_none (h : l.transaction? id = none) :
    l.processed settings made written id = l := by
  simp only [processed, h]

theorem processed_of_settled (h : l.transaction? id = some t) (hstatus : t.status ≠ .unmatched) :
    l.processed settings made written id = l := by
  simp only [processed, h, if_neg hstatus]

theorem processed_of_unmatched (h : l.transaction? id = some t) (hstatus : t.status = .unmatched) :
    l.processed settings made written id =
      l.settle made written t (l.settlement settings t) := by
  simp only [processed, h, if_pos hstatus]

theorem serveBy_settlement (hstored : l.transaction? t.id = some t)
    (hstatus : t.status = .unmatched) (now : Timestamp) (clock : Nat → Timestamp)
    (settlement : Settlement) :
    ∃ made written,
      (l.serveBy clock (settlement.run now t)).state = l.settle made written t settlement ∧
      (l.serveBy clock (settlement.run now t)).result.map Transaction.outcome =
        (l.settle made written t settlement).report t.id := by
  cases settlement with
  | leave => exact ⟨now, now, rfl, (report_of_some hstored).symm⟩
  | link invoiceId =>
      rcases serveBy_matchInvoice_of_unmatched now clock hstored hstatus invoiceId with
        ⟨hresult, hstate⟩
      refine ⟨now, clock 0, hstate, ?_⟩
      have hnew := report_of_some
        (transaction?_insertTransaction_self (t.linkedTo (clock 0) invoiceId) l)
      exact (congrArg (Except.map Transaction.outcome) hresult).trans hnew.symm
  | convert rule =>
      rcases serveBy_convert_of_unmatched now clock hstored hstatus rule with ⟨hresult, hstate⟩
      refine ⟨clock 0, clock 1, hstate, ?_⟩
      have hnew := report_of_some (transaction?_insertTransaction_self
        (t.convertedBy (clock 1) rule l.ids.first)
        (l.createExpense (clock 0) (.ofConversion t rule)).2)
      exact (congrArg (Except.map Transaction.outcome) hresult).trans hnew.symm

theorem serveBy_process (l : Ledger) (settings : Settings) (now : Timestamp)
    (clock : Nat → Timestamp) (id : String) :
    ∃ made written,
      (l.serveBy clock (process settings now id)).state = l.processed settings made written id ∧
      (l.serveBy clock (process settings now id)).result =
        (l.processed settings made written id).report id := by
  cases hstored : l.transaction? id with
  | none =>
      rcases serveBy_process_of_none settings now clock hstored with ⟨hresult, hstate⟩
      refine ⟨now, now, ?_⟩
      rw [processed_of_none hstored, report_of_none hstored]
      exact ⟨hstate, hresult⟩
  | some t =>
      rcases serveBy_process_of_some settings now clock hstored with ⟨k, hresult, hstate⟩
      rw [hresult, hstate]
      cases hterminal : t.status.isTerminal with
      | true =>
          have hstatus : t.status ≠ .unmatched := by
            intro hunmatched
            rw [hunmatched] at hterminal
            cases hterminal
          refine ⟨now, now, ?_⟩
          rw [reconcile_of_terminal hterminal, processed_of_settled hstored hstatus,
            report_of_some hstored]
          exact ⟨rfl, rfl⟩
      | false =>
          have hstatus := Status.isTerminal_eq_false_iff.mp hterminal
          have hself := id_of_transaction? hstored
          subst hself
          rcases serveBy_reconcile (l := l) settings now (fun n => clock (n + k)) hstatus with
            ⟨history, k', hreconcile⟩
          rcases serveBy_settlement hstored hstatus now (fun n => clock (n + k' + k))
            (l.settlement settings t) with ⟨made, written, hsettled⟩
          refine ⟨made, written, ?_⟩
          rw [hreconcile, processed_of_unmatched hstored hstatus]
          exact hsettled

/-!
## Rest
-/

/-- There is nothing to settle under this id. -/
def AtRest (l : Ledger) (settings : Settings) (id : String) : Prop :=
  ∀ t, l.transaction? id = some t → t.status = .unmatched → l.settlement settings t = .leave

theorem AtRest.processed (h : AtRest l settings id) (made written : Timestamp) :
    l.processed settings made written id = l := by
  cases hstored : l.transaction? id with
  | none => exact processed_of_none hstored
  | some t =>
      by_cases hstatus : t.status = .unmatched
      · rw [processed_of_unmatched hstored hstatus, h t hstored hstatus]
        rfl
      · exact processed_of_settled hstored hstatus

theorem atRest_insertTransaction (hstatus : t.status ≠ .unmatched) :
    AtRest (l.insertTransaction t) settings t.id := by
  intro s hs hunmatched
  rw [transaction?_insertTransaction_self] at hs
  cases hs
  exact absurd hunmatched hstatus

theorem atRest_processed (l : Ledger) (settings : Settings) (made written : Timestamp)
    (id : String) : AtRest (l.processed settings made written id) settings id := by
  cases hstored : l.transaction? id with
  | none =>
      rw [processed_of_none hstored]
      intro t ht
      cases hstored.symm.trans ht
  | some t =>
      by_cases hstatus : t.status = .unmatched
      · rw [processed_of_unmatched hstored hstatus]
        have hself := id_of_transaction? hstored
        subst hself
        cases hsettlement : l.settlement settings t with
        | leave =>
            intro s hs _
            cases hstored.symm.trans hs
            exact hsettlement
        | link invoiceId =>
            exact atRest_insertTransaction (t := t.linkedTo written invoiceId) nofun
        | convert rule =>
            exact atRest_insertTransaction
              (t := t.convertedBy written rule l.ids.first) nofun
      · rw [processed_of_settled hstored hstatus]
        intro s hs hunmatched
        cases hstored.symm.trans hs
        exact absurd hunmatched hstatus

end Ledger

open Ledger

/-- Whatever became of a transaction when it was reconciled: to reconcile it once more reports the
same and leaves the ledger exactly as it is. -/
theorem process_twice (l : Ledger) (settings : Settings) (now now' : Timestamp)
    (clock clock' : Nat → Timestamp) (id : String) :
    let first := l.serveBy clock (process settings now id)
    let second := first.state.serveBy clock' (process settings now' id)
    second.result = first.result ∧ second.state = first.state := by
  intro first second
  rcases serveBy_process l settings now clock id with ⟨made, written, hstate, hresult⟩
  rcases serveBy_process first.state settings now' clock' id with
    ⟨made', written', hstate', hresult'⟩
  have hrest : AtRest first.state settings id := by
    rw [hstate]
    exact atRest_processed l settings made written id
  rw [hrest.processed made' written'] at hstate' hresult'
  refine ⟨?_, hstate'⟩
  rw [hresult, ← hstate]
  exact hresult'

end BankFeed
