import BankFeed.Proofs.Reconciliation.Effect
import BankFeed.Proofs.Reconciliation.View
import Mathlib

/-!
# Imports over settled transactions

The books are kept by entries: records are put in, and transactions are reconciled without faults. A
transaction may be put in again under an id that is known already, in place of the record that is
stored. No other entry touches a settled record, and the expenses of a transaction are as many as
its conversions that were put out of the books in this way, and one more if it is converted now.
-/

namespace BankFeed

open Ledger Reconciliation

inductive BookEntry where
  | transaction (t : Transaction)
  | rule (rule : Rule)
  | invoice (invoice : Invoice)
  | process (settings : Settings) (now : Timestamp) (clock : Nat → Timestamp) (id : String)
  | processAll (settings : Settings) (now : Timestamp) (clock : Nat → Timestamp)
      (ids : List String)

def BookEntry.imports (id : String) : BookEntry → Bool
  | .transaction t => t.id = id
  | _ => false

namespace Ledger

def enter (l : Ledger) : BookEntry → Ledger
  | .transaction t => l.insertTransaction t
  | .rule rule => l.insertRule rule
  | .invoice invoice => l.insertInvoice invoice
  | .process settings now clock id => (l.serveBy clock (process settings now id)).state
  | .processAll settings now clock ids => (l.serveBy clock (processAll settings now ids)).state

def enterAll (l : Ledger) (entries : List BookEntry) : Ledger :=
  entries.foldl enter l

/-- How often the transaction is converted: once, or not at all. -/
def conversions (l : Ledger) (id : String) : Nat :=
  if (l.transaction? id).any (·.status = .converted) then 1 else 0

/-- How many conversions of the transaction the entries put out of the books. -/
def replaced (l : Ledger) (id : String) : List BookEntry → Nat
  | [] => 0
  | e :: entries =>
      (if e.imports id then l.conversions id else 0) + (l.enter e).replaced id entries

variable {l l' : Ledger} {id : String} {t : Transaction}

/-!
## Conversions and expenses
-/

theorem conversions_of_stored (h : l.transaction? id = some t) :
    l.conversions id = if t.status = .converted then 1 else 0 := by
  simp [conversions, h]

theorem conversions_insertTransaction (t : Transaction) (l : Ledger) (id : String) :
    (l.insertTransaction t).conversions id =
      if t.id = id then if t.status = .converted then 1 else 0 else l.conversions id := by
  rw [conversions, transaction?_insertTransaction]
  split
  · simp
  · rfl

theorem Settles.length_expensesFor (h : Settles l l') (id : String) :
    (l'.expensesFor id).length + l.conversions id =
      (l.expensesFor id).length + l'.conversions id := by
  cases h with
  | leave transactions rules invoices expenses =>
      rw [expensesFor, expensesFor, expenses, conversions, conversions, transaction?, transaction?,
        transactions]
  | @link t invoice stored unmatched credit named mem tenant number written =>
      have hexpenses : ∀ s, (l.insertTransaction s).expensesFor id = l.expensesFor id :=
        fun _ => rfl
      rw [hexpenses, conversions_insertTransaction, Transaction.applyUpdate_id]
      by_cases hid : t.id = id
      · rw [if_pos hid, ← hid, conversions_of_stored stored, unmatched]
        rfl
      · rw [if_neg hid]
  | @convert t rule stored unmatched mem covers accepts converts made written =>
      have hexpenses : ∀ s, ((l.createExpense made (.ofConversion t rule)).2.insertTransaction
          s).expensesFor id = (l.createExpense made (.ofConversion t rule)).2.expensesFor id :=
        fun _ => rfl
      have hbefore : (l.createExpense made (.ofConversion t rule)).2.conversions id =
          l.conversions id := rfl
      rw [hexpenses, expensesFor_createExpense, List.length_append, conversions_insertTransaction,
        Transaction.applyUpdate_id, hbefore]
      by_cases hid : t.id = id
      · rw [if_pos hid, ← hid, conversions_of_stored stored, unmatched]
        simp [ExpenseDraft.ofConversion, Transaction.applyUpdate]
      · rw [if_neg hid]
        simp [ExpenseDraft.ofConversion, hid]

/-!
## One entry
-/

theorem Reachable.enter (h : l.Reachable) (e : BookEntry) : (l.enter e).Reachable := by
  cases e with
  | transaction t => exact h.insertTransaction t
  | rule rule => exact h.insertRule rule
  | invoice invoice => exact h.insertInvoice invoice
  | process settings now clock id => exact h.serve _ _
  | processAll settings now clock ids => exact h.serve _ _

theorem Evolves.transaction?_of_settled (h : Evolves l l') (hstored : l.transaction? id = some t)
    (hsettled : t.status ≠ .unmatched) : l'.transaction? id = some t := by
  rcases h id t hstored with ⟨t', hstored', rfl | ⟨hunmatched, _⟩⟩
  · exact hstored'
  · exact absurd hunmatched hsettled

/-- A ledger that came about from another one with an expense for every conversion. -/
structure Balanced (l l' : Ledger) : Prop where
  reachable : l'.Reachable
  evolves : Evolves l l'
  balance : ∀ id, (l'.expensesFor id).length + l.conversions id =
    (l.expensesFor id).length + l'.conversions id

theorem Reachable.balanced_self (h : l.Reachable) : Balanced l l :=
  ⟨h, evolves_refl l, fun _ => rfl⟩

theorem Balanced.process (h : Balanced l l') (settings : Settings) (now : Timestamp)
    (clock : Nat → Timestamp) (id : String) :
    Balanced l (l'.serveBy clock (process settings now id)).state := by
  have hsettles := settles_process settings now clock h.reachable.orderly id
  refine ⟨h.reachable.serve _ _, h.evolves.trans hsettles.evolves, ?_⟩
  intro id
  have hbefore := h.balance id
  have hafter := hsettles.length_expensesFor id
  omega

theorem Balanced.processAll (h : Balanced l l') (settings : Settings) (now : Timestamp)
    (clock : Nat → Timestamp) (ids : List String) :
    Balanced l (l'.serveBy clock (processAll settings now ids)).state :=
  serveBy_processAll_induction settings now clock
    (fun _ clock id hbefore => hbefore.process settings now clock id) ids h

theorem transaction?_enter (h : l.Reachable) {e : BookEntry} (he : e.imports id = false)
    (hstored : l.transaction? id = some t) (hsettled : t.status ≠ .unmatched) :
    (l.enter e).transaction? id = some t := by
  cases e with
  | transaction s =>
      have hne : s.id ≠ id := by simpa [BookEntry.imports] using he
      exact (transaction?_insertTransaction_of_ne hne l).trans hstored
  | rule rule => exact hstored
  | invoice invoice => exact hstored
  | process settings now clock _ =>
      have hbalanced := h.balanced_self.process settings now clock
      exact (hbalanced _).evolves.transaction?_of_settled hstored hsettled
  | processAll settings now clock _ =>
      have hbalanced := h.balanced_self.processAll settings now clock
      exact (hbalanced _).evolves.transaction?_of_settled hstored hsettled

/-- An import takes the conversion of its transaction out of the books, but leaves the expense. -/
theorem length_expensesFor_enter (h : l.Reachable) {e : BookEntry}
    (hfresh : ∀ t, e = .transaction t → t.status = .unmatched) (id : String) :
    ((l.enter e).expensesFor id).length + l.conversions id =
      (l.expensesFor id).length + (l.enter e).conversions id +
        if e.imports id then l.conversions id else 0 := by
  cases e with
  | transaction t =>
      have hexpenses : (l.enter (.transaction t)).expensesFor id = l.expensesFor id := rfl
      have hconversions : (l.enter (.transaction t)).conversions id =
          if t.id = id then 0 else l.conversions id := by
        rw [enter, conversions_insertTransaction, hfresh t rfl]
        rfl
      rw [hexpenses, hconversions]
      by_cases hid : t.id = id
      · simp [BookEntry.imports, hid]
      · simp [BookEntry.imports, hid]
  | rule rule => rfl
  | invoice invoice => rfl
  | process settings now clock _ => exact (h.balanced_self.process settings now clock _).balance id
  | processAll settings now clock _ =>
      exact (h.balanced_self.processAll settings now clock _).balance id

/-!
## All entries
-/

theorem Reachable.enterAll (h : l.Reachable) (entries : List BookEntry) :
    (l.enterAll entries).Reachable := by
  induction entries generalizing l with
  | nil => exact h
  | cons e entries ih => exact ih (h.enter e)

theorem enterAll_append (l : Ledger) (before after : List BookEntry) :
    l.enterAll (before ++ after) = (l.enterAll before).enterAll after :=
  List.foldl_append

theorem transaction?_enterAll (h : l.Reachable) {entries : List BookEntry}
    (hentries : ∀ e ∈ entries, e.imports id = false) (hstored : l.transaction? id = some t)
    (hsettled : t.status ≠ .unmatched) : (l.enterAll entries).transaction? id = some t := by
  induction entries generalizing l with
  | nil => exact hstored
  | cons e entries ih =>
      rcases List.forall_mem_cons.mp hentries with ⟨hfirst, hrest⟩
      exact ih (h.enter e) hrest (transaction?_enter h hfirst hstored hsettled)

theorem length_expensesFor_enterAll (h : l.Reachable) {entries : List BookEntry}
    (hfresh : ∀ t, .transaction t ∈ entries → t.status = .unmatched) (id : String) :
    ((l.enterAll entries).expensesFor id).length + l.conversions id =
      (l.expensesFor id).length + (l.enterAll entries).conversions id + l.replaced id entries := by
  induction entries generalizing l with
  | nil => rfl
  | cons e entries ih =>
      have hfirst := length_expensesFor_enter h (e := e)
        (fun t he => hfresh t (he ▸ List.mem_cons_self)) id
      have hrest := ih (h.enter e) (fun t ht => hfresh t (List.mem_cons_of_mem e ht))
      rw [replaced]
      change (((l.enter e).enterAll entries).expensesFor id).length + _ = _ +
        ((l.enter e).enterAll entries).conversions id + _
      omega

end Ledger

/-- A settled transaction stays as it is until a transaction with its id is put in. There are as
many expenses for an id as conversions: those that were replaced in this way, and the one that is
stored. -/
theorem settled_until_imported {entries : List BookEntry}
    (hfresh : ∀ t, BookEntry.transaction t ∈ entries → t.status = .unmatched) (supply : IdSupply)
    (id : String) :
    (∀ before after t, entries = before ++ after →
      ((empty supply).enterAll before).transaction? id = some t → t.status ≠ .unmatched →
      (∀ e ∈ after, e.imports id = false) →
      ((empty supply).enterAll entries).transaction? id = some t) ∧
    (((empty supply).enterAll entries).expensesFor id).length =
      ((empty supply).enterAll entries).conversions id + (empty supply).replaced id entries := by
  constructor
  · rintro before after t rfl hstored hsettled hafter
    rw [enterAll_append]
    exact transaction?_enterAll ((Reachable.empty supply).enterAll before) hafter hstored hsettled
  · have hlength := length_expensesFor_enterAll (.empty supply) hfresh id
    have hempty : (empty supply).conversions id = 0 := rfl
    have hnone : ((empty supply).expensesFor id).length = 0 := rfl
    omega

namespace Payment

def importedTwice : List BookEntry :=
  [.rule converting, .transaction payment, .process .standard midnight (fun _ => midnight) "t-1",
    .transaction payment, .process .standard midnight (fun _ => midnight) "t-1"]

theorem fresh_importedTwice :
    ∀ t, BookEntry.transaction t ∈ importedTwice → t.status = .unmatched := by
  intro t ht
  simp only [importedTwice, List.mem_cons, BookEntry.transaction.injEq, reduceCtorEq,
    List.not_mem_nil, false_or, or_false, or_self] at ht
  rw [ht]
  rfl

/-- The second import makes the converted payment unmatched, and a second expense is made of it. -/
theorem converted_once_more :
    payment.status = .unmatched ∧ payment.expenseId = none ∧ payment.invoiceId = none ∧
      (((Ledger.empty .numbered).enterAll (importedTwice.take 3)).transaction? "t-1").map (·.status) =
        some .converted ∧
      (((Ledger.empty .numbered).enterAll (importedTwice.take 4)).transaction? "t-1").map (·.status) =
        some .unmatched ∧
      (((Ledger.empty .numbered).enterAll importedTwice).expensesFor "t-1").length = 2 := by
  refine ⟨rfl, rfl, rfl, ?_, ?_, ?_⟩
  · cbv
  · cbv
  · cbv

/-- One of the two expenses belongs to the conversion that was replaced. -/
theorem settled_until_imported_twice :
    (∀ t, BookEntry.transaction t ∈ importedTwice → t.status = .unmatched) ∧
      (Ledger.empty .numbered).replaced "t-1" importedTwice = 1 ∧
      (((Ledger.empty .numbered).enterAll importedTwice).expensesFor "t-1").length =
        ((Ledger.empty .numbered).enterAll importedTwice).conversions "t-1" + 1 := by
  have hreplaced : (Ledger.empty .numbered).replaced "t-1" importedTwice = 1 := by cbv
  have hsettled := settled_until_imported fresh_importedTwice .numbered "t-1"
  rw [hreplaced] at hsettled
  exact ⟨fresh_importedTwice, hreplaced, hsettled.2⟩

end Payment
end BankFeed
