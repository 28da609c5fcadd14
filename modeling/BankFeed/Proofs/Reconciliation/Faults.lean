import BankFeed.Proofs.Reconciliation.Outcome
import Mathlib

/-!
# Failures of a reconciliation

Any call of a reconciliation may fail without effect. The failure that is reported then tells of
the first call that failed, and what the ledger holds is as before: only if the discarding of an
expense failed as well is this one expense left over.
-/

namespace BankFeed
namespace Exchange

def reported? (x : Exchange) : Option Failure :=
  match x.request, x.result with
  | .create _, .error e => some (.conversionFailed e.message)
  | _, .error e => some e
  | _, .ok _ => none

theorem reported?_of_isOk {x : Exchange} (h : x.result.isOk = true) : x.reported? = none := by
  rcases x with ⟨request, result⟩
  cases result with
  | error e => cases h
  | ok answer => cases request <;> rfl

theorem reported?_of_isRead {q : Request} (h : q.isRead = true) (e : Failure) :
    Exchange.reported? ⟨q, .error e⟩ = some e := by
  cases q with
  | create draft => cases h
  | _ => rfl

end Exchange

/-- Whether the discarding of an expense was tried and failed. -/
def DiscardFailed (history : List Exchange) : Prop :=
  ∃ expenseId e, (⟨.discard expenseId, .error e⟩ : Exchange) ∈ history

theorem not_discardFailed_singleton {x : Exchange} (h : x.request.call ≠ .discard) :
    ¬ DiscardFailed [x] := by
  rintro ⟨expenseId, e, hmem⟩
  apply h
  rw [← List.mem_singleton.mp hmem]
  rfl

namespace Undisturbed

variable {history rest : List Exchange}

theorem findSome?_append (h : Undisturbed history) :
    (history ++ rest).findSome? Exchange.reported? = rest.findSome? Exchange.reported? := by
  have hnone : history.findSome? Exchange.reported? = none := by
    apply List.findSome?_eq_none_iff.mpr
    intro x hx
    exact Exchange.reported?_of_isOk (h x hx).2
  rw [List.findSome?_append, hnone]
  rfl

theorem discardFailed_append (h : Undisturbed history) :
    DiscardFailed (history ++ rest) ↔ DiscardFailed rest := by
  constructor
  · rintro ⟨expenseId, e, hmem⟩
    rcases List.mem_append.mp hmem with hread | hrest
    · cases (h _ hread).1
    · exact ⟨expenseId, e, hrest⟩
  · rintro ⟨expenseId, e, hmem⟩
    exact ⟨expenseId, e, List.mem_append_right _ hmem⟩

end Undisturbed

namespace Ledger

variable {α β : Type}

structure KeepsRecords (l l' : Ledger) : Prop where
  transactions : l'.transactions = l.transactions
  rules : l'.rules = l.rules
  invoices : l'.invoices = l.invoices

theorem KeepsRecords.refl (l : Ledger) : KeepsRecords l l :=
  ⟨rfl, rfl, rfl⟩

/-- A run that fails exactly if a call failed, reports the first such call, and leaves no trace
of itself if it fails, except for an expense that could not be discarded. -/
structure FailsCleanly (l : Ledger) (played : Run.Played Ledger α) : Prop where
  reported : ∀ e, played.result = .error e ↔
    played.history.findSome? Exchange.reported? = some e
  records : ∀ e, played.result = .error e → KeepsRecords l played.state
  expenses : ∀ e, played.result = .error e → ¬ DiscardFailed played.history →
    played.state.expenses = l.expenses
  leftover : ∀ e, played.result = .error e → DiscardFailed played.history →
    ∃ expense : Expense,
      (⟨.create expense.draft, .ok expense.id⟩ : Exchange) ∈ played.history ∧
        played.state.expenses = l.expenses ++ [expense]

namespace FailsCleanly

variable {l : Ledger} {played : Run.Played Ledger α} {history : List Exchange}

theorem of_ok {a : α} {l' : Ledger} (h : history.findSome? Exchange.reported? = none) :
    FailsCleanly l ⟨.ok a, l', history⟩ where
  reported := by
    intro e
    simp [h]
  records := by
    intro e he
    cases he
  expenses := by
    intro e he
    cases he
  leftover := by
    intro e he
    cases he

theorem of_unchanged {e : Failure} (hreported : history.findSome? Exchange.reported? = some e)
    (hdiscard : ¬ DiscardFailed history) :
    FailsCleanly l (⟨.error e, l, history⟩ : Run.Played Ledger α) where
  reported := by
    intro e'
    simp [hreported]
  records := by
    intro _ _
    exact .refl l
  expenses := by
    intro _ _ _
    rfl
  leftover := by
    intro _ _ hfailed
    exact absurd hfailed hdiscard

theorem map (h : FailsCleanly l played) (f : α → β) :
    FailsCleanly l ⟨played.result.map f, played.state, played.history⟩ := by
  have hmap : ∀ e, played.result.map f = .error e ↔ played.result = .error e := by
    intro e
    cases played.result with
    | error e' => simp [Except.map]
    | ok a => simp [Except.map]
  constructor
  · intro e
    rw [hmap]
    exact h.reported e
  · intro e he
    exact h.records e ((hmap e).mp he)
  · intro e he
    exact h.expenses e ((hmap e).mp he)
  · intro e he
    exact h.leftover e ((hmap e).mp he)

theorem following (h : FailsCleanly l played) (hhistory : Undisturbed history) :
    FailsCleanly l (played.following history) := by
  constructor
  · intro e
    show played.result = .error e ↔
      (history ++ played.history).findSome? Exchange.reported? = some e
    rw [hhistory.findSome?_append]
    exact h.reported e
  · exact h.records
  · intro e he hdiscard
    apply h.expenses e he
    intro hfailed
    exact hdiscard (hhistory.discardFailed_append.mpr hfailed)
  · intro e he hdiscard
    rcases h.leftover e he (hhistory.discardFailed_append.mp hdiscard) with
      ⟨expense, hmem, hexpenses⟩
    exact ⟨expense, List.mem_append_right _ hmem, hexpenses⟩

end FailsCleanly

/-- What a run reads before it goes on as another one does not make it any less clean. -/
theorem ReadsTo.failsCleanly {l : Ledger} {run run' : Run α} (h : ReadsTo l run run')
    (hrun' : ∀ fates, FailsCleanly l (l.serve fates run')) (fates : Nat → Fate) :
    FailsCleanly l (l.serve fates run) := by
  rcases h.serve fates with ⟨history, q, e, heq, hread, _, hhistory⟩ | ⟨history, k, heq, hhistory⟩
  · rw [heq]
    apply FailsCleanly.of_unchanged
    · rw [hhistory.findSome?_append]
      simp [Exchange.reported?_of_isRead hread]
    · rw [hhistory.discardFailed_append]
      apply not_discardFailed_singleton
      cases q with
      | discard expenseId => cases hread
      | _ => simp [Request.call]
  · rw [heq]
    exact (hrun' _).following hhistory

/-!
## Writes
-/

section Writes

open Reconciliation

variable {l : Ledger} {t : Transaction}

theorem failsCleanly_matchInvoice (hstored : l.transaction? t.id = some t)
    (hstatus : t.status = .unmatched) (now : Timestamp) (invoiceId : String)
    (fates : Nat → Fate) : FailsCleanly l (l.serve fates (matchInvoice now t invoiceId)) := by
  cases hfate : fates 0 with
  | error e =>
      rw [serve_matchInvoice_of_error hfate]
      exact .of_unchanged rfl (not_discardFailed_singleton (by simp [Request.call]))
  | ok written =>
      rw [serve_matchInvoice_of_unmatched hfate hstored hstatus]
      exact .of_ok rfl

theorem failsCleanly_concede (horderly : l.Orderly) (made : Timestamp) (draft : ExpenseDraft)
    (e : Failure) (fates : Nat → Fate) {history : List Exchange}
    (hreported : history.findSome? Exchange.reported? = some e)
    (hdiscard : ¬ DiscardFailed history)
    (hcreated : (⟨.create draft, .ok l.ids.first⟩ : Exchange) ∈ history) :
    FailsCleanly l (((l.createExpense made draft).2.serve fates
      (concede l.ids.first e : Run α)).following history) := by
  have hfirst : ∀ rest : List Exchange,
      (history ++ rest).findSome? Exchange.reported? = some e := by
    intro rest
    rw [List.findSome?_append, hreported]
    rfl
  cases hfate : fates 0 with
  | error e' =>
      rw [serve_concede_of_error hfate]
      -- The expense cannot be discarded either and is left over.
      constructor
      · intro e''
        simp [Run.Played.following, hfirst]
      · intro _ _
        exact ⟨rfl, rfl, rfl⟩
      · intro _ _ hnot
        exact absurd ⟨_, e', List.mem_append_right _ (List.mem_singleton_self _)⟩ hnot
      · intro _ _ _
        exact ⟨⟨l.ids.first, draft, made⟩, List.mem_append_left _ hcreated, rfl⟩
  | ok written =>
      rw [serve_concede_of_ok hfate]
      constructor
      · intro e''
        simp [Run.Played.following, hfirst]
      · intro _ _
        exact ⟨rfl, rfl, rfl⟩
      · intro _ _ _
        exact horderly.expenses_discard_create made draft
      · intro _ _ hfailed
        rcases hfailed with ⟨expenseId, e', hmem⟩
        rcases List.mem_append.mp hmem with hearlier | hlast
        · exact absurd ⟨expenseId, e', hearlier⟩ hdiscard
        · cases List.mem_singleton.mp hlast

theorem failsCleanly_convert (horderly : l.Orderly) (hstored : l.transaction? t.id = some t)
    (hstatus : t.status = .unmatched) (now : Timestamp) (rule : Rule) (fates : Nat → Fate) :
    FailsCleanly l (l.serve fates (convert now t rule)) := by
  cases hmade : fates 0 with
  | error e =>
      rw [serve_convert_of_error hmade]
      exact .of_unchanged rfl (not_discardFailed_singleton (by simp [Request.call]))
  | ok made =>
      rw [serve_convert_of_ok hmade]
      cases hwritten : later fates 0 with
      | error e =>
          rw [serve_writeConversion_of_error now _ _ hwritten, Run.Played.following_following]
          apply failsCleanly_concede horderly
          · rfl
          · simp [DiscardFailed]
          · simp
      | ok written =>
          have hkept : (l.createExpense made (.ofConversion t rule)).2.transaction? t.id =
              some t := hstored
          rw [serve_writeConversion_of_unmatched now _ _ hwritten hkept hstatus]
          exact .of_ok rfl

end Writes

/-!
## Whole reconciliations
-/

theorem failsCleanly_reconcile {l : Ledger} (horderly : l.Orderly) {t : Transaction}
    (hstored : l.transaction? t.id = some t) (settings : Settings) (now : Timestamp)
    (fates : Nat → Fate) :
    FailsCleanly l (l.serve fates (Reconciliation.reconcile settings now t)) := by
  cases hterminal : t.status.isTerminal with
  | true =>
      rw [Reconciliation.reconcile_of_terminal hterminal]
      exact .of_ok rfl
  | false =>
      have hstatus : t.status = .unmatched := Status.isTerminal_eq_false_iff.mp hterminal
      apply (readsTo_reconcile l settings now hstatus).failsCleanly
      intro fates
      cases l.settlement settings t with
      | convert rule => exact failsCleanly_convert horderly hstored hstatus now rule fates
      | link invoiceId => exact failsCleanly_matchInvoice hstored hstatus now invoiceId fates
      | leave => exact .of_ok rfl

theorem failsCleanly_process {l : Ledger} (horderly : l.Orderly) {id : String} {t : Transaction}
    (hstored : l.transaction? id = some t) (settings : Settings) (now : Timestamp)
    (fates : Nat → Fate) :
    FailsCleanly l (l.serve fates (Reconciliation.process settings now id)) := by
  apply (readsTo_process l settings now hstored).failsCleanly
  intro fates
  rw [serve_bind_pure]
  have hself : l.transaction? t.id = some t := by
    rw [id_of_transaction? hstored]
    exact hstored
  exact (failsCleanly_reconcile horderly hself settings now fates).map Transaction.outcome

end Ledger

open Ledger Reconciliation

/-- Whatever calls fail: a reconciliation that ends with a failure leaves transactions, rules and
invoices as they were, and the expenses too unless it could not discard its own. The failure is
that the transaction is unknown, if this was answered, and otherwise that of the first call
that failed. -/
theorem process_fails_cleanly {l : Ledger} (hreachable : l.Reachable) (settings : Settings)
    (now : Timestamp) (fates : Nat → Fate) (id : String) :
    let played := l.serve fates (process settings now id)
    let unknown := l.transaction? id = none ∧
      ∀ e, (⟨.getTransaction id, .error e⟩ : Exchange) ∉ played.history
    (unknown → played.result = .error (.transactionNotFound id)) ∧
    (¬ unknown → ∀ e, played.result = .error e ↔
      played.history.findSome? Exchange.reported? = some e) ∧
    ∀ e, played.result = .error e →
      played.state.transactions = l.transactions ∧ played.state.rules = l.rules ∧
      played.state.invoices = l.invoices ∧
      (¬ DiscardFailed played.history → played.state.expenses = l.expenses) ∧
      (DiscardFailed played.history → ∃ expense : Expense,
        (⟨.create expense.draft, .ok expense.id⟩ : Exchange) ∈ played.history ∧
          played.state.expenses = l.expenses ++ [expense]) := by
  intro played unknown
  cases hstored : l.transaction? id with
  | some t =>
      have hclean := failsCleanly_process hreachable.orderly hstored settings now fates
      refine ⟨?_, ?_, ?_⟩
      · intro hunknown
        cases hstored.symm.trans hunknown.1
      · intro _
        exact hclean.reported
      · intro e he
        have hrecords := hclean.records e he
        exact ⟨hrecords.transactions, hrecords.rules, hrecords.invoices,
          hclean.expenses e he, hclean.leftover e he⟩
  | none =>
      rcases serve_process_of_none hstored settings now fates with ⟨r, e, hserve, hanswer⟩
      have hplayed : played = ⟨.error e, l, [⟨.getTransaction id, r⟩]⟩ := hserve
      have hdiscard : ¬ DiscardFailed played.history := by
        rw [hplayed]
        exact not_discardFailed_singleton (by simp [Request.call])
      refine ⟨?_, ?_, ?_⟩
      · intro hunknown
        rcases hanswer with ⟨hfailed, _⟩ | ⟨_, he⟩
        · have hnot := hunknown.2 e
          rw [hplayed, hfailed] at hnot
          exact absurd (List.mem_singleton_self _) hnot
        · rw [hplayed, he]
      · intro hknown e'
        rcases hanswer with ⟨hfailed, _⟩ | ⟨hanswered, _⟩
        · rw [hplayed, hfailed]
          simp [Exchange.reported?]
        · refine absurd ⟨hstored, ?_⟩ hknown
          intro e'' hmem
          rw [hplayed, hanswered] at hmem
          cases List.mem_singleton.mp hmem
      · intro e' _
        have hstate : played.state = l := by rw [hplayed]
        rw [hstate]
        exact ⟨rfl, rfl, rfl, fun _ => rfl, fun h => absurd h hdiscard⟩

namespace Payment

def unreachable : Failure :=
  .storage "the store cannot be reached"

def convertingLedger : Ledger :=
  Ledger.empty .numbered
    |>.insertRule converting
    |>.insertTransaction payment

theorem reachable_convertingLedger : convertingLedger.Reachable :=
  ((Ledger.Reachable.empty _).insertRule converting).insertTransaction payment

def lostAfterCreation (n : Nat) : Fate :=
  if n < 3 then .ok midnight else .error unreachable

/-- The write fails and so does the discarding of the expense, which is left over. -/
theorem process_fails_cleanly_lostAfterCreation :
    convertingLedger.Reachable ∧
      let played := convertingLedger.serve lostAfterCreation (process .standard midnight "t-1")
      played.result = .error unreachable ∧ DiscardFailed played.history ∧
        played.state.transactions = convertingLedger.transactions ∧
        ∃ expense : Expense,
          (⟨.create expense.draft, .ok expense.id⟩ : Exchange) ∈ played.history ∧
            played.state.expenses = convertingLedger.expenses ++ [expense] := by
  have hclean := process_fails_cleanly reachable_convertingLedger .standard midnight lostAfterCreation "t-1"
  have hresult : (convertingLedger.serve lostAfterCreation
      (process .standard midnight "t-1")).result = .error unreachable := by cbv
  have hlast : (convertingLedger.serve lostAfterCreation
      (process .standard midnight "t-1")).history[4]? =
        some ⟨.discard "expense-1", .error unreachable⟩ := by cbv
  have hdiscard : DiscardFailed (convertingLedger.serve lostAfterCreation
      (process .standard midnight "t-1")).history :=
    ⟨"expense-1", unreachable, List.mem_of_getElem? hlast⟩
  rcases hclean.2.2 _ hresult with ⟨htransactions, _, _, _, hleftover⟩
  exact ⟨reachable_convertingLedger, hresult, hdiscard, htransactions, hleftover hdiscard⟩

end Payment
end BankFeed
