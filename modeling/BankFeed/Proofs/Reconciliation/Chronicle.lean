import BankFeed.Proofs.Reconciliation.Consistency
import BankFeed.Proofs.Reconciliation.Faults

/-!
# Chronicles

A chronicle is a ledger together with the ledgers that it has been. It starts empty; records are
put in, and transactions are reconciled one after the other, by their ids or from copies that
may be out of date. At every point of a chronicle the books agree.
-/

namespace BankFeed

open Ledger Reconciliation

/-- The ledgers up to now, the latest first, and the one at hand. -/
inductive Chronicle : List Ledger → Ledger → Prop where
  | start (ids : IdSupply) : Chronicle [] (.empty ids)
  | insertTransaction {past : List Ledger} {l : Ledger} (h : Chronicle past l) {t : Transaction}
      (new : l.transaction? t.id = none) (unmatched : t.status = .unmatched)
      (noExpense : t.expenseId = none) (noInvoice : t.invoiceId = none) :
      Chronicle (l :: past) (l.insertTransaction t)
  | insertRule {past : List Ledger} {l : Ledger} (h : Chronicle past l) (rule : Rule) :
      Chronicle (l :: past) (l.insertRule rule)
  | insertInvoice {past : List Ledger} {l : Ledger} (h : Chronicle past l) (invoice : Invoice) :
      Chronicle (l :: past) (l.insertInvoice invoice)
  | process {past : List Ledger} {l : Ledger} (h : Chronicle past l) (settings : Settings)
      (now : Timestamp) (clock : Nat → Timestamp) (id : String) :
      Chronicle (l :: past) (l.serveBy clock (process settings now id)).state
  | processAll {past : List Ledger} {l : Ledger} (h : Chronicle past l) (settings : Settings)
      (now : Timestamp) (clock : Nat → Timestamp) (ids : List String) :
      Chronicle (l :: past) (l.serveBy clock (processAll settings now ids)).state
  | reconcile {past : List Ledger} {l : Ledger} (h : Chronicle past l) (settings : Settings)
      (now : Timestamp) (clock : Nat → Timestamp) {earlier : Ledger} {copy : Transaction}
      (been : earlier ∈ l :: past) (read : earlier.transaction? copy.id = some copy) :
      Chronicle (l :: past) (l.serveBy clock (reconcile settings now copy)).state

/-!
## One entry

Every entry leads from a consistent ledger to a consistent one, in which the transactions of
the first are found again.
-/

structure Continues (l l' : Ledger) : Prop where
  reachable : l'.Reachable
  consistent : l'.Consistent
  evolves : Evolves l l'

namespace Continues

variable {l l' : Ledger}

theorem trans {l'' : Ledger} (h : Continues l l') (h' : Continues l' l'') : Continues l l'' :=
  ⟨h'.reachable, h'.consistent, h.evolves.trans h'.evolves⟩

theorem start (ids : IdSupply) : Continues (.empty ids) (.empty ids) where
  reachable := .empty ids
  consistent := by
    constructor
    · intro t ht
      cases ht
    · intro e he
      cases he
  evolves := evolves_refl _

variable (h : Continues l l')
include h

theorem insertTransaction {t : Transaction} (hnew : l'.transaction? t.id = none)
    (hunmatched : t.status = .unmatched) (hexpense : t.expenseId = none)
    (hinvoice : t.invoiceId = none) : Continues l (l'.insertTransaction t) where
  reachable := h.reachable.insertTransaction t
  consistent := by
    apply h.consistent.insertTransaction h.reachable.orderly
    · intro s hs
      cases hnew.symm.trans hs
    · unfold Accounted
      rw [hunmatched]
      exact ⟨hexpense, hinvoice⟩
  evolves := h.evolves.trans (evolves_insertTransaction_of_none hnew)

theorem insertRule (rule : Rule) : Continues l (l'.insertRule rule) where
  reachable := h.reachable.insertRule rule
  consistent := h.consistent.mono rfl (List.subset_append_left _ _) (List.Subset.refl _) rfl
  evolves := h.evolves.trans (evolves_of_transactions_eq rfl)

theorem insertInvoice (invoice : Invoice) : Continues l (l'.insertInvoice invoice) where
  reachable := h.reachable.insertInvoice invoice
  consistent := h.consistent.mono rfl (List.Subset.refl _) (List.subset_append_left _ _) rfl
  evolves := h.evolves.trans (evolves_of_transactions_eq rfl)

theorem serveBy {α : Type} {clock : Nat → Timestamp} {run : Run α}
    (hsettles : Settles l' (l'.serveBy clock run).state) :
    Continues l (l'.serveBy clock run).state where
  reachable := h.reachable.serve _ run
  consistent := h.consistent.settles h.reachable.orderly hsettles
  evolves := h.evolves.trans hsettles.evolves

theorem process (settings : Settings) (now : Timestamp) (clock : Nat → Timestamp) (id : String) :
    Continues l (l'.serveBy clock (process settings now id)).state :=
  h.serveBy (settles_process settings now clock h.reachable.orderly id)

theorem processAll (settings : Settings) (now : Timestamp) (clock : Nat → Timestamp)
    (ids : List String) : Continues l (l'.serveBy clock (processAll settings now ids)).state :=
  serveBy_processAll_induction settings now clock
    (fun _ clock id hbefore => hbefore.process settings now clock id) ids h

theorem reconcile (settings : Settings) (now : Timestamp) (clock : Nat → Timestamp)
    {copy : Transaction} (hcopied : Copied l' copy) :
    Continues l (l'.serveBy clock (reconcile settings now copy)).state :=
  h.serveBy (settles_reconcile settings now clock h.reachable.orderly hcopied)

end Continues

/-!
## Whole chronicles
-/

namespace Chronicle

variable {past : List Ledger} {l : Ledger}

theorem extend {l' : Ledger} (hcontinues : ∀ earlier ∈ l :: past, Continues earlier l)
    (hstep : Continues l l → Continues l l') : ∀ earlier ∈ l' :: l :: past, Continues earlier l' := by
  have hlast := hstep (hcontinues l List.mem_cons_self)
  intro earlier hbeen
  rcases List.mem_cons.mp hbeen with rfl | hbefore
  · exact ⟨hlast.reachable, hlast.consistent, evolves_refl _⟩
  · exact (hcontinues earlier hbefore).trans hlast

theorem continues (h : Chronicle past l) : ∀ earlier ∈ l :: past, Continues earlier l := by
  induction h with
  | start ids =>
      intro earlier hbeen
      rw [List.mem_singleton.mp hbeen]
      exact .start ids
  | @insertTransaction past l h t new unmatched noExpense noInvoice ih =>
      exact extend ih fun hl => hl.insertTransaction new unmatched noExpense noInvoice
  | @insertRule past l h rule ih =>
      exact extend ih fun hl => hl.insertRule rule
  | @insertInvoice past l h invoice ih =>
      exact extend ih fun hl => hl.insertInvoice invoice
  | @process past l h settings now clock id ih =>
      exact extend ih fun hl => hl.process settings now clock id
  | @processAll past l h settings now clock ids ih =>
      exact extend ih fun hl => hl.processAll settings now clock ids
  | @reconcile past l h settings now clock earlier copy been read ih =>
      have hcopied : Copied l copy :=
        (copied_of_transaction? read).mono (ih earlier been).evolves
      exact extend ih fun hl => hl.reconcile settings now clock hcopied

/-- The books agree at every point of a chronicle, and each converted transaction has its own
expense. -/
theorem books_agree (h : Chronicle past l) :
    Consistent l ∧ l.expenses.length = (l.transactions.filter (·.status = .converted)).length := by
  have hlast := h.continues l List.mem_cons_self
  exact ⟨hlast.consistent, hlast.consistent.length_expenses hlast.reachable.orderly⟩

end Chronicle

namespace Payment

def convertedLedger : Ledger :=
  (convertingLedger.serveBy (fun _ => midnight) (process .standard midnight "t-1")).state

def closedLedger : Ledger :=
  (convertedLedger.serveBy (fun _ => midnight) (reconcile .standard midnight payment)).state

theorem chronicle_closedLedger :
    Chronicle [convertedLedger, convertingLedger,
      (Ledger.empty .numbered).insertRule converting, .empty .numbered] closedLedger := by
  have hconverting : Chronicle [(Ledger.empty .numbered).insertRule converting, .empty .numbered]
      convertingLedger :=
    ((Chronicle.start _).insertRule converting).insertTransaction (t := payment) rfl rfl rfl rfl
  have hconverted := hconverting.process .standard midnight (fun _ => midnight) "t-1"
  have hread : convertingLedger.transaction? payment.id = some payment := by decide
  exact hconverted.reconcile .standard midnight (fun _ => midnight)
    (List.mem_cons_of_mem _ List.mem_cons_self) hread

theorem books_agree_closedLedger :
    Chronicle [convertedLedger, convertingLedger,
        (Ledger.empty .numbered).insertRule converting, .empty .numbered] closedLedger ∧
      closedLedger.transactions.length = 1 ∧ Ledger.Consistent closedLedger ∧
        closedLedger.expenses.length =
          (closedLedger.transactions.filter (·.status = .converted)).length := by
  have hone : closedLedger.transactions.length = 1 := by cbv
  exact ⟨chronicle_closedLedger, hone, Chronicle.books_agree chronicle_closedLedger⟩

end Payment
end BankFeed
