import BankFeed.Proofs.Reconciliation.View

/-!
# Commands

Records are put into a ledger and transactions reconciled, one command after the other. Every
command has times of its own.
-/

namespace BankFeed

open Ledger Reconciliation

inductive Command where
  | insertTransaction (t : Transaction)
  | insertRule (rule : Rule)
  | insertInvoice (invoice : Invoice)
  | process (id : String)

/-- A command, the time at which it is given, and the clock by which the ledger carries it out. -/
structure Timed where
  command : Command
  now : Timestamp
  clock : Nat → Timestamp

namespace Ledger

variable {l : Ledger} {settings : Settings}

def obey (settings : Settings) (l : Ledger) (c : Timed) : Reports × Ledger :=
  match c.command with
  | .insertTransaction t => ([], l.insertTransaction t)
  | .insertRule rule => ([], l.insertRule rule)
  | .insertInvoice invoice => ([], l.insertInvoice invoice)
  | .process id =>
      let played := l.serveBy c.clock (Reconciliation.process settings c.now id)
      ([(id, played.result)], played.state)

def perform (settings : Settings) (l : Ledger) : List Timed → Reports × Ledger
  | [] => ([], l)
  | c :: cs =>
      let first := l.obey settings c
      let rest := first.2.perform settings cs
      (first.1 ++ rest.1, rest.2)

theorem perform_cons (settings : Settings) (l : Ledger) (c : Timed) (cs : List Timed) :
    l.perform settings (c :: cs) =
      ((l.obey settings c).1 ++ ((l.obey settings c).2.perform settings cs).1,
        ((l.obey settings c).2.perform settings cs).2) := rfl

theorem obey_process (settings : Settings) (l : Ledger) (id : String) (now : Timestamp)
    (clock : Nat → Timestamp) :
    ∃ made written, l.obey settings ⟨.process id, now, clock⟩ =
      ([(id, (l.processed settings made written id).report id)],
        l.processed settings made written id) := by
  rcases serveBy_process l settings now clock id with ⟨made, written, hstate, hresult⟩
  refine ⟨made, written, ?_⟩
  rw [← hresult, ← hstate]
  rfl

theorem Reachable.obey (h : Reachable l) (settings : Settings) (c : Timed) :
    Reachable (l.obey settings c).2 := by
  rcases c with ⟨command, now, clock⟩
  cases command with
  | insertTransaction t => exact h.insertTransaction t
  | insertRule rule => exact h.insertRule rule
  | insertInvoice invoice => exact h.insertInvoice invoice
  | process id => exact h.serve _ _

theorem Reachable.perform (h : Reachable l) (settings : Settings) (cs : List Timed) :
    Reachable (l.perform settings cs).2 := by
  induction cs generalizing l with
  | nil => exact h
  | cons c cs ih => exact ih (h.obey settings c)

theorem expenses_subset_obey (l : Ledger) (settings : Settings) (c : Timed) :
    l.expenses ⊆ (l.obey settings c).2.expenses := by
  rcases c with ⟨command, now, clock⟩
  cases command with
  | insertTransaction t => exact List.Subset.refl _
  | insertRule rule => exact List.Subset.refl _
  | insertInvoice invoice => exact List.Subset.refl _
  | process id =>
      rcases obey_process settings l id now clock with ⟨made, written, hobey⟩
      rw [hobey]
      exact expenses_subset_processed l settings made written id

end Ledger
end BankFeed
