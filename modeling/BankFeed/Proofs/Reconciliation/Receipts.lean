import BankFeed.Proofs.Reconciliation.Faults

/-!
# Lost receipts

A ledger may stand at the other end of a line that loses reports: the write of a status is then
reported as a failure although it was done. A conversion discards its expense after every failure
of its write. So a converted transaction has its expense exactly if its write was reported.
-/

namespace BankFeed

open Ledger Reconciliation

/-- What comes of the write of a status: it is answered, it fails without effect, or it is done and
reported as a failure. -/
inductive Delivery where
  | answered
  | refused (e : Failure)
  | unreported (e : Failure)

/-- The time of a call, and what comes of it if it is the write of a status. -/
structure Passage where
  now : Timestamp
  delivery : Delivery

structure Remote where
  /-- The passages of the calls to come. -/
  passages : Nat → Passage
  ledger : Ledger
  /-- The ids of the transactions that were written and not reported. -/
  unreported : List String

namespace Remote

def advance (r : Remote) (l : Ledger) : Remote :=
  { r with passages := fun n => r.passages (n + 1), ledger := l }

def answer : Run.Answering Remote
  | .compareAndSet id expected status update, r =>
      let (written, l) := r.ledger.compareAndSet (r.passages 0).now id expected status update
      match (r.passages 0).delivery with
      | .answered => (written, r.advance l)
      | .refused e => (.error e, r.advance r.ledger)
      | .unreported e =>
          let noted := if written.toOption = some true then id :: r.unreported else r.unreported
          (.error e, { r.advance l with unreported := noted })
  | q, r =>
      let (a, l) := r.ledger.answer (r.passages 0).now q
      (a, r.advance l)

def process (r : Remote) (settings : Settings) (now : Timestamp) (id : String) : Remote :=
  ((Reconciliation.process settings now id).play answer r).state

def processEach (r : Remote) (runs : List (Settings × Timestamp × String)) : Remote :=
  runs.foldl (fun r (settings, now, id) => r.process settings now id) r

end Remote

/-!
## Expenses that are held
-/

namespace Ledger

variable {l l' : Ledger} {t s u : Transaction} {unreported unreported' : List String}

/-- The expense that the transaction names is stored. -/
def Held (l : Ledger) (t : Transaction) : Prop :=
  ∃ e ∈ l.expenses, t.expenseId = some e.id

/-- Converted transactions name expenses that were created, and the expense is held unless the
transaction was written without a report. -/
structure Kept (l : Ledger) (unreported : List String) : Prop where
  orderly : l.Orderly
  pending : ∀ t ∈ l.transactions, t.status = .unmatched → t.id ∉ unreported
  spent : ∀ t ∈ l.transactions, t.status = .converted →
    ∃ id, t.expenseId = some id ∧ Spent l id
  held : ∀ t ∈ l.transactions, t.status = .converted → (Held l t ↔ t.id ∉ unreported)

theorem kept_of_unmatched (horderly : l.Orderly)
    (hunmatched : ∀ t ∈ l.transactions, t.status = .unmatched) : Kept l [] := by
  have hnone : ∀ t ∈ l.transactions, t.status ≠ .converted := by
    intro t ht hconverted
    rw [hunmatched t ht] at hconverted
    cases hconverted
  refine ⟨horderly, ?_, ?_, ?_⟩
  · intro t _ _
    exact List.not_mem_nil
  · intro t ht hconverted
    exact absurd hconverted (hnone t ht)
  · intro t ht hconverted
    exact absurd hconverted (hnone t ht)

theorem Kept.of_eq (h : Kept l unreported) (horderly : l'.Orderly)
    (htransactions : l'.transactions = l.transactions) (hexpenses : l'.expenses = l.expenses)
    (hspent : ∀ id, Spent l id → Spent l' id) : Kept l' unreported := by
  refine ⟨horderly, ?_, ?_, ?_⟩
  · rw [htransactions]
    exact h.pending
  · intro t ht hconverted
    rcases h.spent t (htransactions ▸ ht) hconverted with ⟨id, hname, hid⟩
    exact ⟨id, hname, hspent id hid⟩
  · intro t ht hconverted
    rw [Held, hexpenses]
    exact h.held t (htransactions ▸ ht) hconverted

structure SettlesOne (l l' : Ledger) (unreported unreported' : List String) (s : Transaction) :
    Prop where
  orderly : l'.Orderly
  transactions : l'.transactions = (l.insertTransaction s).transactions
  keepsSpent : ∀ id, Spent l id → Spent l' id
  expenses : ∀ id, Spent l id → ((∃ e ∈ l'.expenses, e.id = id) ↔ ∃ e ∈ l.expenses, e.id = id)
  others : ∀ id, id ≠ s.id → (id ∈ unreported' ↔ id ∈ unreported)
  settled : s.status ≠ .unmatched
  spent : s.status = .converted → ∃ id, s.expenseId = some id ∧ Spent l' id
  held : s.status = .converted → (Held l' s ↔ s.id ∉ unreported')

theorem held_iff_of_expenses {id : String} (hname : t.expenseId = some id) :
    Held l t ↔ ∃ e ∈ l.expenses, e.id = id := by
  simp only [Held, hname, Option.some.injEq, eq_comm]

theorem Kept.settlesOne (h : Kept l unreported) (hone : SettlesOne l l' unreported unreported' s) :
    Kept l' unreported' := by
  have hcases : ∀ u ∈ l'.transactions, u = s ∨ u ∈ l.transactions ∧ u.id ≠ s.id := by
    intro u hu
    rw [hone.transactions] at hu
    exact mem_insertTransaction.mp hu
  refine ⟨hone.orderly, ?_, ?_, ?_⟩
  · intro u hu hunmatched
    rcases hcases u hu with rfl | ⟨hmem, hother⟩
    · exact absurd hunmatched hone.settled
    · rw [hone.others u.id hother]
      exact h.pending u hmem hunmatched
  · intro u hu hconverted
    rcases hcases u hu with rfl | ⟨hmem, _⟩
    · exact hone.spent hconverted
    · rcases h.spent u hmem hconverted with ⟨id, hname, hid⟩
      exact ⟨id, hname, hone.keepsSpent id hid⟩
  · intro u hu hconverted
    rcases hcases u hu with rfl | ⟨hmem, hother⟩
    · exact hone.held hconverted
    · -- Its expense was created before, so it was not touched.
      rcases h.spent u hmem hconverted with ⟨id, hname, hid⟩
      rw [hone.others u.id hother, ← h.held u hmem hconverted, held_iff_of_expenses hname,
        held_iff_of_expenses hname]
      exact hone.expenses id hid

/-!
## The ways to settle
-/

section Ways

variable (h : Kept l unreported) (now : Timestamp) (draft : ExpenseDraft)

include h

theorem Kept.concede :
    Kept ((l.createExpense now draft).2.discardExpense l.ids.first) unreported :=
  h.of_eq ((h.orderly.createExpense now draft).discardExpense _) rfl
    (h.orderly.expenses_discard_create now draft) (fun _ hid => hid.createExpense now draft)

theorem Kept.link (hlinked : s.status = .matched)
    (hothers : ∀ id, id ≠ s.id → (id ∈ unreported' ↔ id ∈ unreported)) :
    Kept (l.insertTransaction s) unreported' := by
  have hnot : s.status ≠ .converted := by simp [hlinked]
  exact h.settlesOne
    { orderly := h.orderly.insertTransaction s
      transactions := rfl
      keepsSpent := fun _ hid => hid
      expenses := fun id _ => Iff.rfl
      others := hothers
      settled := by simp [hlinked]
      spent := fun hconverted => absurd hconverted hnot
      held := fun hconverted => absurd hconverted hnot }

variable (hconverted : s.status = .converted)
  (hname : s.expenseId = some l.ids.first)

include hconverted hname

theorem Kept.convert (hfree : s.id ∉ unreported) :
    Kept ((l.createExpense now draft).2.insertTransaction s) unreported := by
  have hnew : ∀ e, e ∈ ((l.createExpense now draft).2.insertTransaction s).expenses ↔
      e ∈ l.expenses ∨ e = ⟨l.ids.first, draft, now⟩ := by
    intro e
    exact List.mem_append.trans (or_congr_right List.mem_singleton)
  refine h.settlesOne
    { orderly := (h.orderly.createExpense now draft).insertTransaction s
      transactions := rfl
      keepsSpent := fun _ hid => hid.createExpense now draft
      expenses := ?_
      others := fun id _ => Iff.rfl
      settled := by simp [hconverted]
      spent := fun _ => ⟨_, hname, spent_createExpense now draft l⟩
      held := fun _ => iff_of_true ⟨_, (hnew _).mpr (.inr rfl), hname⟩ hfree }
  intro id hspent
  constructor
  · rintro ⟨e, he, hid⟩
    rcases (hnew e).mp he with hold | rfl
    · exact ⟨e, hold, hid⟩
    · exact absurd hid (hspent 0)
  · rintro ⟨e, he, hid⟩
    exact ⟨e, (hnew e).mpr (.inl he), hid⟩

theorem Kept.strand :
    Kept (((l.createExpense now draft).2.insertTransaction s).discardExpense
      l.ids.first) (s.id :: unreported) := by
  have hexpenses : (((l.createExpense now draft).2.insertTransaction s).discardExpense
      l.ids.first).expenses = l.expenses :=
    h.orderly.expenses_discard_create now draft
  -- The transaction names an expense that is no longer there, and is not reported either.
  refine h.settlesOne
    { orderly := ((h.orderly.createExpense now draft).insertTransaction s).discardExpense _
      transactions := rfl
      keepsSpent := fun _ hid => hid.createExpense now draft
      expenses := fun id _ => by rw [hexpenses]
      others := fun id hid => by simp [hid]
      settled := by simp [hconverted]
      spent := fun _ => ⟨_, hname, spent_createExpense now draft l⟩
      held := fun _ => iff_of_false ?_ (by simp) }
  rintro ⟨e, he, hid⟩
  rw [hexpenses] at he
  rw [hname] at hid
  exact h.orderly.ne_first he (Option.some.inj hid).symm

end Ways

end Ledger

/-!
## One reconciliation
-/

namespace Remote

variable {α : Type} {r : Remote} {l : Ledger} {t : Transaction}

theorem state_play_ask {q : Request} {resume : q.Result → Run α} :
    ((Run.ask q resume).play answer r).state =
      ((resume (answer q r).1).play answer (answer q r).2).state := rfl

theorem answer_of_isRead {q : Request} {a : q.Answer} (hread : q.isRead = true)
    (ha : ∀ now, r.ledger.answer now q = (.ok a, r.ledger)) :
    answer q r = (.ok a, r.advance r.ledger) := by
  cases q with
  | compareAndSet id expected status update => cases hread
  | _ => simp only [answer, ha]

theorem exists_state_of_readsTo {run run' : Run α} (h : ReadsTo l run run')
    (hr : r.ledger = l) :
    ∃ r' : Remote, r'.ledger = l ∧ r'.unreported = r.unreported ∧
      (run.play answer r).state = (run'.play answer r').state := by
  induction h generalizing r with
  | refl run => exact ⟨r, hr, rfl, rfl⟩
  | ask a reads answered fails next ih =>
      subst hr
      rw [state_play_ask, answer_of_isRead reads answered]
      exact ih (r := r.advance r.ledger) rfl

theorem state_play_bind_pure {β : Type} (run : Run α) (f : α → β) (r : Remote) :
    ((run >>= fun a => pure (f a)).play answer r).state = (run.play answer r).state := by
  rw [Run.play_bind]
  generalize run.play answer r = played
  cases played with
  | mk result state history =>
      cases result with
      | error e => rfl
      | ok a => rfl

theorem answer_of_unmatched (hstored : r.ledger.transaction? t.id = some t)
    (hunmatched : t.status = .unmatched) (status : Status) (update : StatusUpdate) :
    answer (.compareAndSet t.id .unmatched status update) r =
      let l := r.ledger.insertTransaction (t.applyUpdate (r.passages 0).now status update)
      match (r.passages 0).delivery with
      | .answered => (.ok true, r.advance l)
      | .refused e => (.error e, r.advance r.ledger)
      | .unreported e => (.error e, { r.advance l with unreported := t.id :: r.unreported }) := by
  simp only [answer, compareAndSet_of_eq hstored hunmatched]
  cases (r.passages 0).delivery <;> rfl

/-- What the remote ledger holds agrees with what was not reported. -/
def Intact (r : Remote) : Prop :=
  Kept r.ledger r.unreported

section Settle

variable (h : r.Intact) (settings : Settings) (now : Timestamp)

include h

section Stored

variable (hstored : r.ledger.transaction? t.id = some t) (hunmatched : t.status = .unmatched)

include hstored hunmatched

theorem intact_matchInvoice (invoiceId : String) :
    ((matchInvoice now t invoiceId).play answer r).state.Intact := by
  rw [matchInvoice_eq, state_play_ask, answer_of_unmatched hstored hunmatched]
  cases (r.passages 0).delivery with
  | answered => exact h.link rfl (fun id _ => Iff.rfl)
  | refused e => exact h
  | unreported e => exact h.link rfl (fun id hid => List.mem_cons.trans (or_iff_right hid))

/-- The expense is discarded after every failure, also if the transaction was converted. -/
theorem intact_convert (rule : Rule) :
    ((convert now t rule).play answer r).state.Intact := by
  have hpending := h.pending t (mem_of_transaction? hstored) hunmatched
  let created := r.advance (r.ledger.createExpense (r.passages 0).now (.ofConversion t rule)).2
  have hcreated : answer (.create (.ofConversion t rule)) r =
      (.ok r.ledger.ids.first, created) := rfl
  have hkept : created.ledger.transaction? t.id = some t := hstored
  rw [convert_eq, state_play_ask, hcreated]
  simp only [writeConversion]
  rw [state_play_ask, answer_of_unmatched hkept hunmatched]
  cases (created.passages 0).delivery with
  | answered => exact h.convert _ _ rfl rfl hpending
  | refused e => exact h.concede _ _
  | unreported e => exact h.strand _ _ rfl rfl

theorem intact_settlement (settlement : Settlement) :
    ((settlement.run now t).play answer r).state.Intact := by
  cases settlement with
  | leave => exact h
  | link invoiceId => exact intact_matchInvoice h now hstored hunmatched invoiceId
  | convert rule => exact intact_convert h now hstored hunmatched rule

end Stored

theorem intact_reconcile (hstored : r.ledger.transaction? t.id = some t) :
    ((reconcile settings now t).play answer r).state.Intact := by
  cases hterminal : t.status.isTerminal with
  | true =>
      rw [reconcile_of_terminal hterminal]
      exact h
  | false =>
      have hunmatched := Status.isTerminal_eq_false_iff.mp hterminal
      rcases exists_state_of_readsTo (readsTo_reconcile r.ledger settings now hunmatched) rfl with
        ⟨r', hledger, hunreported, hstate⟩
      rw [← hledger] at hstored
      rw [Intact, ← hledger, ← hunreported] at h
      rw [hstate]
      exact intact_settlement h now hstored hunmatched _

theorem intact_process (id : String) : (r.process settings now id).Intact := by
  unfold process
  cases hstored : r.ledger.transaction? id with
  | none =>
      have hread : answer (.getTransaction id) r = (.ok none, r.advance r.ledger) := by
        rw [← hstored]
        rfl
      rw [process_eq, state_play_ask, hread]
      exact h
  | some t =>
      rcases exists_state_of_readsTo (readsTo_process r.ledger settings now hstored) rfl with
        ⟨r', hledger, hunreported, hstate⟩
      rw [← id_of_transaction? hstored, ← hledger] at hstored
      rw [Intact, ← hledger, ← hunreported] at h
      rw [hstate, state_play_bind_pure]
      exact intact_reconcile h settings now hstored

theorem intact_processEach (runs : List (Settings × Timestamp × String)) :
    (r.processEach runs).Intact := by
  induction runs generalizing r with
  | nil => exact h
  | cons run runs ih => exact ih (intact_process h run.1 run.2.1 run.2.2)

end Settle

end Remote

/-- After any reconciliations over the line the expense of a converted transaction is stored if and
only if the write of the transaction was reported. -/
theorem expense_held_iff_reported {l : Ledger} (hreachable : l.Reachable)
    (hunmatched : ∀ t ∈ l.transactions, t.status = .unmatched) (passages : Nat → Passage)
    (runs : List (Settings × Timestamp × String)) :
    let after := (Remote.mk passages l []).processEach runs
    ∀ t ∈ after.ledger.transactions, t.status = .converted →
      ((∃ e ∈ after.ledger.expenses, t.expenseId = some e.id) ↔ t.id ∉ after.unreported) :=
  (Remote.intact_processEach (r := ⟨passages, l, []⟩)
    (kept_of_unmatched hreachable.orderly hunmatched) runs).held

namespace Payment

def silent : Remote :=
  ⟨fun _ => ⟨midnight, .unreported (.storage "write timed out")⟩, convertingLedger, []⟩

/-- The payment is converted, but its expense is gone. -/
theorem expense_lost_in_silence :
    (∀ t ∈ silent.ledger.transactions,
      t.status = .unmatched ∧ t.expenseId = none ∧ t.invoiceId = none) ∧
    let after := silent.process .standard midnight "t-1"
    (after.ledger.transaction? "t-1").map (fun t => (t.status, t.expenseId)) =
        some (.converted, some "expense-1") ∧
      after.ledger.expenses = [] := by
  refine ⟨by decide, ?_, ?_⟩
  · cbv
  · cbv

def refusedOnce : Nat → Passage
  | 3 => ⟨midnight, .refused (.storage "write timed out")⟩
  | _ => ⟨midnight, .answered⟩

def retried : Remote :=
  (Remote.mk refusedOnce convertingLedger []).processEach
    [(.standard, midnight, "t-1"), (.standard, midnight, "t-1")]

theorem expense_held_iff_reported_retried :
    convertingLedger.Reachable ∧ (∀ t ∈ convertingLedger.transactions, t.status = .unmatched) ∧
      ∃ t ∈ retried.ledger.transactions, t.status = .converted ∧
        t.expenseId = some "expense-2" ∧ t.id ∉ retried.unreported ∧
        ∃ e ∈ retried.ledger.expenses, t.expenseId = some e.id := by
  have hunmatched : ∀ t ∈ convertingLedger.transactions, t.status = .unmatched := by decide
  have hheld := expense_held_iff_reported reachable_convertingLedger hunmatched refusedOnce
    [(.standard, midnight, "t-1"), (.standard, midnight, "t-1")]
  have hstored : (retried.ledger.transaction? "t-1").map (fun t => (t.status, t.expenseId)) =
      some (.converted, some "expense-2") := by cbv
  have hreported : retried.unreported = [] := by cbv
  rcases Option.map_eq_some_iff.mp hstored with ⟨t, ht, hlinks⟩
  rcases Prod.mk.inj hlinks with ⟨hconverted, hname⟩
  have hmem := mem_of_transaction? ht
  have hnot : t.id ∉ retried.unreported := by
    rw [hreported]
    exact List.not_mem_nil
  exact ⟨reachable_convertingLedger, hunmatched, t, hmem, hconverted, hname, hnot,
    (hheld t hmem hconverted).mpr hnot⟩

end Payment
end BankFeed
