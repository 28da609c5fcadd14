import BankFeed.Proofs.Reconciliation.Outcome
import Mathlib

/-!
# Copies that come too late

A reconciliation may be given a copy of a transaction that was settled in the meantime, or of one
that is not stored at all, and the copy may differ from the record in every field. Its write is
refused then. Nothing that the ledger holds changes: an expense that was made for the copy is
discarded, and no other one is.
-/

namespace BankFeed
namespace Ledger

open Reconciliation

variable {l : Ledger} {c : Transaction} {id : String} {written : Timestamp}

/-- There is nothing to settle under this id: the transaction is final, or there is none. -/
def Closed (l : Ledger) (id : String) : Prop :=
  ∀ s, l.transaction? id = some s → s.status.isTerminal = true

def refusal (l : Ledger) (id : String) : Failure :=
  match l.transaction? id with
  | none => .transactionNotFound id
  | some _ => .alreadyReconciled id

structure HoldsSame (l l' : Ledger) : Prop where
  transactions : l'.transactions = l.transactions
  rules : l'.rules = l.rules
  invoices : l'.invoices = l.invoices
  expenses : l'.expenses = l.expenses

theorem holdsSame_refl (l : Ledger) : HoldsSame l l :=
  ⟨rfl, rfl, rfl, rfl⟩

theorem Closed.ne_unmatched {s : Transaction} (h : Closed l id) (hs : l.transaction? id = some s) :
    s.status ≠ .unmatched := by
  intro hunmatched
  have hterminal := h s hs
  rw [hunmatched] at hterminal
  cases hterminal

theorem refusal_of_none (h : l.transaction? id = none) :
    l.refusal id = .transactionNotFound id := by
  simp only [refusal, h]

theorem refusal_of_some {s : Transaction} (h : l.transaction? id = some s) :
    l.refusal id = .alreadyReconciled id := by
  simp only [refusal, h]

/-!
## Refused writes
-/

section Clock

variable (now : Timestamp) (clock : Nat → Timestamp)

theorem serveBy_matchInvoice_of_closed (hclosed : Closed l c.id) (invoiceId : String) :
    (l.serveBy clock (matchInvoice now c invoiceId)).result = .error (l.refusal c.id) ∧
      HoldsSame l (l.serveBy clock (matchInvoice now c invoiceId)).state := by
  cases hstored : l.transaction? c.id with
  | none =>
      rcases serveBy_matchInvoice_of_none now clock hstored invoiceId with ⟨hresult, hstate⟩
      rw [hresult, hstate, refusal_of_none hstored]
      exact ⟨rfl, holdsSame_refl l⟩
  | some s =>
      rcases serveBy_matchInvoice_of_settled now clock hstored (hclosed.ne_unmatched hstored)
        invoiceId with ⟨hresult, hstate⟩
      rw [hresult, hstate, refusal_of_some hstored]
      exact ⟨rfl, holdsSame_refl l⟩

theorem holdsSame_discard_create (horderly : l.Orderly) (made : Timestamp) (draft : ExpenseDraft) :
    HoldsSame l ((l.createExpense made draft).2.discardExpense l.ids.first) where
  transactions := rfl
  rules := rfl
  invoices := rfl
  expenses := horderly.expenses_discard_create made draft

theorem serveBy_convert_of_closed (horderly : l.Orderly) (hclosed : Closed l c.id) (rule : Rule) :
    (l.serveBy clock (convert now c rule)).result = .error (l.refusal c.id) ∧
      HoldsSame l (l.serveBy clock (convert now c rule)).state := by
  cases hstored : l.transaction? c.id with
  | none =>
      rcases serveBy_convert_of_none now clock hstored rule with ⟨hresult, hstate⟩
      rw [hresult, hstate, refusal_of_none hstored]
      exact ⟨rfl, holdsSame_discard_create horderly _ _⟩
  | some s =>
      rcases serveBy_convert_of_settled now clock hstored (hclosed.ne_unmatched hstored) rule
        with ⟨hresult, hstate⟩
      rw [hresult, hstate, refusal_of_some hstored]
      exact ⟨rfl, holdsSame_discard_create horderly _ _⟩

/-!
## Refused settlements
-/

theorem serveBy_settlement_of_closed (horderly : l.Orderly) (hclosed : Closed l c.id)
    (settlement : Settlement) :
    (l.serveBy clock (settlement.run now c)).result =
        (if settlement = .leave then .ok c else .error (l.refusal c.id)) ∧
      HoldsSame l (l.serveBy clock (settlement.run now c)).state := by
  cases settlement with
  | leave => exact ⟨rfl, holdsSame_refl l⟩
  | link invoiceId => exact serveBy_matchInvoice_of_closed now clock hclosed invoiceId
  | convert rule => exact serveBy_convert_of_closed now clock horderly hclosed rule

/-- Whether the run settles a transaction: it gives back a final one, and the stored one with its
id is in the same final state. -/
def SettlesBy (l : Ledger) (clock : Nat → Timestamp) (run : Run Transaction) : Prop :=
  ∃ s, (l.serveBy clock run).result = .ok s ∧ s.status.isTerminal = true ∧
    ((l.serveBy clock run).state.transaction? s.id).map (·.status) = some s.status

theorem settlesBy_of_write {run : Run Transaction} {l' : Ledger} {status : Status}
    {update : StatusUpdate} (hterminal : status.isTerminal = true)
    (hresult : (l.serveBy clock run).result = .ok (c.applyUpdate now status update))
    (hstate : (l.serveBy clock run).state =
      l'.insertTransaction (c.applyUpdate written status update)) :
    l.SettlesBy clock run := by
  have hstored : (l'.insertTransaction (c.applyUpdate written status update)).transaction? c.id =
      some (c.applyUpdate written status update) :=
    transaction?_insertTransaction_self _ l'
  refine ⟨c.applyUpdate now status update, hresult, hterminal, ?_⟩
  rw [hstate, Transaction.applyUpdate_id, hstored]
  rfl

theorem settlesBy_settlement_iff (hstored : l.transaction? c.id = some c)
    (hunmatched : c.status = .unmatched) (settlement : Settlement) :
    l.SettlesBy clock (settlement.run now c) ↔ settlement ≠ .leave := by
  cases settlement with
  | leave =>
      constructor
      · intro hsettles
        rcases hsettles with ⟨s, hresult, hterminal, _⟩
        cases hresult
        rw [hunmatched] at hterminal
        cases hterminal
      · intro hne
        exact absurd rfl hne
  | link invoiceId =>
      rcases serveBy_matchInvoice_of_unmatched now clock hstored hunmatched invoiceId with
        ⟨hresult, hstate⟩
      constructor
      · intro _
        exact nofun
      · intro _
        exact settlesBy_of_write now clock rfl hresult hstate
  | convert rule =>
      rcases serveBy_convert_of_unmatched now clock hstored hunmatched rule with
        ⟨hresult, hstate⟩
      constructor
      · intro _
        exact nofun
      · intro _
        exact settlesBy_of_write now clock rfl hresult hstate

theorem settlesBy_reconcile_iff (settings : Settings) (hstored : l.transaction? c.id = some c)
    (hunmatched : c.status = .unmatched) :
    l.SettlesBy clock (reconcile settings now c) ↔ l.settlement settings c ≠ .leave := by
  rcases serveBy_reconcile (l := l) settings now clock hunmatched with ⟨history, k, hreconcile⟩
  rw [← settlesBy_settlement_iff now (fun n => clock (n + k)) hstored hunmatched]
  unfold SettlesBy
  rw [hreconcile]
  rfl

/-- Without a write that succeeds, a copy is given back if nothing settles it, and else refused. -/
theorem serveBy_reconcile_of_closed (horderly : l.Orderly) (hclosed : Closed l c.id)
    (settings : Settings) (hunmatched : c.status = .unmatched) :
    (l.serveBy clock (reconcile settings now c)).result =
        (if l.settlement settings c = .leave then .ok c else .error (l.refusal c.id)) ∧
      HoldsSame l (l.serveBy clock (reconcile settings now c)).state := by
  rcases serveBy_reconcile (l := l) settings now clock hunmatched with ⟨history, k, hreconcile⟩
  rw [hreconcile]
  exact serveBy_settlement_of_closed now (fun n => clock (n + k)) horderly hclosed _

end Clock
end Ledger

open Ledger Reconciliation

/-- To reconcile a copy of a transaction that is final in the ledger, or not there, changes nothing
that the ledger holds. The copy comes back as it is, or it is refused; it is refused exactly if it
is unmatched and would be settled were it stored as it is. -/
theorem stale_copy_without_effect {l : Ledger} (hreachable : l.Reachable) {c : Transaction}
    (hclosed : ∀ s, l.transaction? c.id = some s → s.status.isTerminal = true)
    (settings : Settings) (now now' : Timestamp) (clock clock' : Nat → Timestamp) :
    let played := l.serveBy clock (reconcile settings now c)
    HoldsSame l played.state ∧
    (played.result = .ok c ∨ played.result = .error (l.refusal c.id)) ∧
    (played.result = .error (l.refusal c.id) ↔ c.status = .unmatched ∧
      (l.insertTransaction c).SettlesBy clock' (reconcile settings now' c)) := by
  intro played
  cases hterminal : c.status.isTerminal with
  | true =>
      have hplayed : played = ⟨.ok c, l, []⟩ := by
        show l.serveBy clock (reconcile settings now c) = _
        rw [reconcile_of_terminal hterminal]
        rfl
      rw [hplayed]
      refine ⟨holdsSame_refl l, .inl rfl, ?_⟩
      constructor
      · intro hrefused
        cases hrefused
      · intro hwould
        rw [hwould.1] at hterminal
        cases hterminal
  | false =>
      have hunmatched := Status.isTerminal_eq_false_iff.mp hterminal
      rcases serveBy_reconcile_of_closed now clock hreachable.orderly hclosed settings
        hunmatched with ⟨hresult, hsame⟩
      -- The rules and invoices are the same, whether the copy is stored or not.
      have hwould : (l.insertTransaction c).SettlesBy clock' (reconcile settings now' c) ↔
          l.settlement settings c ≠ .leave :=
        settlesBy_reconcile_iff now' clock' settings (transaction?_insertTransaction_self c l)
          hunmatched
      have hplayed : played.result = _ := hresult
      rw [hplayed, hwould]
      by_cases hleave : l.settlement settings c = .leave
      · rw [if_pos hleave]
        exact ⟨hsame, .inl rfl, by simp [hleave]⟩
      · rw [if_neg hleave]
        exact ⟨hsame, .inr rfl, by simp [hleave, hunmatched]⟩

/-!
## A payment that was matched

The copy lacks the description that named the invoice, so a rule converts it.
-/

namespace Payment

def matchedLedger : Ledger :=
  (ledger.serveBy (fun _ => midnight) (process .standard midnight "t-1")).state

def undescribed : Transaction :=
  { payment with description := none }

theorem reachable_matchedLedger : matchedLedger.Reachable :=
  reachable_ledger.serve _ _

theorem stored_matchedLedger : matchedLedger.transaction? "t-1" =
    some (payment.applyUpdate midnight .matched (matchUpdate "i-1")) := by cbv

/-- An expense is made for the copy and discarded when the write is refused. -/
theorem stale_copy_without_effect_undescribed :
    matchedLedger.Reachable ∧
    (∀ s, matchedLedger.transaction? undescribed.id = some s → s.status.isTerminal = true) ∧
    (let played := matchedLedger.serveBy (fun _ => midnight)
      (reconcile .standard midnight undescribed)
    played.result = .error (.alreadyReconciled "t-1") ∧
      (⟨.discard "expense-1", .ok ()⟩ : Exchange) ∈ played.history ∧
      HoldsSame matchedLedger played.state ∧
      (matchedLedger.insertTransaction undescribed).SettlesBy (fun _ => midnight)
        (reconcile .standard midnight undescribed)) := by
  have hclosed : ∀ s, matchedLedger.transaction? undescribed.id = some s →
      s.status.isTerminal = true := by
    intro s hs
    cases stored_matchedLedger.symm.trans hs
    rfl
  have hresult : (matchedLedger.serveBy (fun _ => midnight)
      (reconcile .standard midnight undescribed)).result =
        .error (.alreadyReconciled "t-1") := by cbv
  have hdiscard : (matchedLedger.serveBy (fun _ => midnight)
      (reconcile .standard midnight undescribed)).history[3]? =
        some ⟨.discard "expense-1", .ok ()⟩ := by cbv
  rcases stale_copy_without_effect reachable_matchedLedger hclosed .standard midnight midnight
    (fun _ => midnight) (fun _ => midnight) with ⟨hsame, _, hrefused⟩
  have hrefusal : matchedLedger.refusal undescribed.id = .alreadyReconciled "t-1" :=
    refusal_of_some stored_matchedLedger
  rw [hrefusal] at hrefused
  exact ⟨reachable_matchedLedger, hclosed, hresult, List.mem_of_getElem? hdiscard, hsame, (hrefused.mp hresult).2⟩

end Payment
end BankFeed
