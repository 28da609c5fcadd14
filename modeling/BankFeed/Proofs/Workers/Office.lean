import BankFeed.Proofs.Workers.Custody
import BankFeed.Proofs.Reconciliation.Faults

/-!
# Reconciliations side by side

Workers reconcile transactions of one ledger, each by a run of its own. One after the other, in
any order, they make one call; new workers, rules and invoices may come at any time.
-/

namespace BankFeed

open Ledger Reconciliation

/-- A run that reconciles the transaction with this id, as far as it has come. -/
structure Worker where
  id : String
  rest : Run Outcome

def Worker.holding (w : Worker) : Option Holding :=
  w.rest.held.map (Holding.mk w.id)

def Run.result? {α : Type} : Run α → Option (Except Failure α)
  | .done r => some r
  | .ask _ _ => none

theorem Run.held_of_result? {α : Type} {run : Run α} {r : Except Failure α}
    (h : run.result? = some r) : run.held = none := by
  cases run with
  | done r' => rfl
  | ask q resume => cases h

structure Office where
  ledger : Ledger
  workers : List Worker
  log : List Entry

namespace Office

inductive Event where
  | start (settings : Settings) (now : Timestamp) (id : String)
  | advance (i : Nat) (now : Timestamp)
  | insertRule (rule : Rule)
  | insertInvoice (invoice : Invoice)

def opening (l : Ledger) : Office :=
  ⟨l, [], []⟩

def start (o : Office) (settings : Settings) (now : Timestamp) (id : String) : Office :=
  { o with workers := o.workers ++ [⟨id, process settings now id⟩] }

def advance (o : Office) (i : Nat) (now : Timestamp) : Office :=
  match o.workers[i]? with
  | some ⟨id, .ask q resume⟩ =>
      let (r, l) := o.ledger.answer now q
      ⟨l, o.workers.set i ⟨id, resume r⟩, o.log ++ [⟨i, ⟨q, r⟩⟩]⟩
  | some ⟨_, .done _⟩ => o
  | none => o

def step (o : Office) : Event → Office
  | .start settings now id => o.start settings now id
  | .advance i now => o.advance i now
  | .insertRule rule => { o with ledger := o.ledger.insertRule rule }
  | .insertInvoice invoice => { o with ledger := o.ledger.insertInvoice invoice }

def run (o : Office) (events : List Event) : Office :=
  events.foldl step o

def held (o : Office) (i : Nat) : Option Holding :=
  o.workers[i]?.bind Worker.holding

variable {o : Office} {i : Nat} {now : Timestamp}

theorem advance_of_none (h : o.workers[i]? = none) : o.advance i now = o := by
  simp only [advance, h]

theorem advance_of_done {id : String} {r : Except Failure Outcome}
    (h : o.workers[i]? = some ⟨id, .done r⟩) : o.advance i now = o := by
  simp only [advance, h]

theorem advance_of_ask {id : String} {q : Request} {resume : q.Result → Run Outcome}
    (h : o.workers[i]? = some ⟨id, .ask q resume⟩) :
    o.advance i now =
      ⟨(o.ledger.answer now q).2, o.workers.set i ⟨id, resume (o.ledger.answer now q).1⟩,
        o.log ++ [⟨i, ⟨q, (o.ledger.answer now q).1⟩⟩]⟩ := by
  simp only [advance, h]

theorem held_of_worker {w : Worker} (h : o.workers[i]? = some w) : o.held i = w.holding := by
  simp only [held, h, Option.bind_some]

theorem held_start (o : Office) (settings : Settings) (now : Timestamp) (id : String) :
    (o.start settings now id).held = o.held := by
  funext i
  unfold held start
  rcases Nat.lt_trichotomy i o.workers.length with hold | hnew | hbeyond
  · simp [List.getElem?_append_left hold]
  · subst hnew
    simp only [List.getElem?_concat_length, List.getElem?_length]
    rfl
  · have hlength : o.workers.length ≤ i := Nat.le_of_lt hbeyond
    have hrest : ¬ i - o.workers.length = 0 := by omega
    simp [List.getElem?_append_right hlength, List.getElem?_eq_none hlength,
      hrest]

theorem held_set {l : Ledger} {log : List Entry} {w w' : Worker} (h : o.workers[i]? = some w) :
    (Office.mk l (o.workers.set i w') log).held = Function.update o.held i w'.holding := by
  rcases List.getElem?_eq_some_iff.mp h with ⟨hlength, _⟩
  funext j
  by_cases hij : j = i
  · subst hij
    simp [held, hlength]
  · simp [held, hij, Ne.symm hij]

/-!
## The invariant

The workers conduct themselves, no transaction was written twice, and every expense is answered
for. A step keeps this, and so do all of them.
-/

structure Sound (o : Office) : Prop where
  behaves : ∀ w ∈ o.workers, Behaves w.id w.rest o.ledger
  recorded : Recorded o.ledger o.log
  custody : Custody o.ledger o.log o.held

theorem sound_opening {l : Ledger} (horderly : l.Orderly)
    (hunmatched : ∀ t ∈ l.transactions, t.status = .unmatched) (hnone : l.expenses = []) :
    Sound (opening l) where
  behaves := by
    intro w hw
    cases hw
  recorded := recorded_nil l
  custody := by
    constructor
    · exact horderly
    · intro t ht hconverted
      rw [hunmatched t ht] at hconverted
      cases hconverted
    · intro e he
      rw [opening, hnone] at he
      cases he
    · intro i h hheld
      cases hheld
    · intro i h hheld
      cases hheld
    · intro i j h h' hheld
      cases hheld

namespace Sound

theorem start (h : Sound o) (settings : Settings) (now : Timestamp) (id : String) :
    Sound (o.start settings now id) where
  behaves := by
    intro w hw
    rcases List.mem_append.mp hw with hold | hnew
    · exact h.behaves w hold
    · rw [List.mem_singleton.mp hnew]
      exact behaves_process settings now id o.ledger
  recorded := h.recorded
  custody := by
    rw [held_start]
    exact h.custody

theorem advance (h : Sound o) (i : Nat) (now : Timestamp) : Sound (o.advance i now) := by
  cases hworker : o.workers[i]? with
  | none =>
      rw [advance_of_none hworker]
      exact h
  | some w =>
      rcases w with ⟨id, rest⟩
      cases rest with
      | done r =>
          rw [advance_of_done hworker]
          exact h
      | ask q resume =>
          rcases h.behaves _ (List.mem_of_getElem? hworker) o.ledger now (ages_refl _) with
            ⟨hmove, hrest⟩
          rw [advance_of_ask hworker]
          constructor
          · intro w hw
            rcases List.mem_or_eq_of_mem_set hw with hother | hsame
            · exact (h.behaves w hother).mono hmove.ages
            · rw [hsame]
              exact hrest
          · exact h.recorded.move hmove i
          · rw [held_set hworker]
            exact h.custody.move hmove (held_of_worker hworker)

theorem withLedger (h : Sound o) {l : Ledger} (horderly : l.Orderly)
    (htransactions : l.transactions = o.ledger.transactions)
    (hexpenses : l.expenses = o.ledger.expenses) : Sound { o with ledger := l } where
  behaves := by
    intro w hw
    exact (h.behaves w hw).mono (ages_of_transactions_eq htransactions)
  recorded := h.recorded.mono (ages_of_transactions_eq htransactions)
  custody := h.custody.withLedger horderly htransactions hexpenses

theorem step (h : Sound o) (event : Event) : Sound (o.step event) := by
  cases event with
  | start settings now id => exact h.start settings now id
  | advance i now => exact h.advance i now
  | insertRule rule => exact h.withLedger (h.custody.orderly.insertRule rule) rfl rfl
  | insertInvoice invoice => exact h.withLedger (h.custody.orderly.insertInvoice invoice) rfl rfl

theorem run (h : Sound o) (events : List Event) : Sound (o.run events) := by
  induction events generalizing o with
  | nil => exact h
  | cons event events ih => exact ih (h.step event)

theorem unfinished_of_held (h : Sound o) {holding : Holding} (hheld : o.held i = some holding) :
    ∃ w e, o.workers[i]? = some w ∧ w.rest.result? = none ∧ e ∈ o.ledger.expenses ∧
      e.id = holding.expenseId ∧ ⟨i, ⟨.create e.draft, .ok e.id⟩⟩ ∈ o.log := by
  rcases h.custody.kept i holding hheld with ⟨e, he, hid, _, hentry⟩
  rcases Option.bind_eq_some_iff.mp hheld with ⟨w, hw, hholding⟩
  refine ⟨w, e, hw, ?_, he, hid, hentry⟩
  cases hresult : w.rest.result? with
  | none => rfl
  | some r =>
      rw [Worker.holding, Run.held_of_result? hresult] at hholding
      cases hholding

theorem names_iff_of_named (h : Sound o) {e : Expense} (he : e ∈ o.ledger.expenses)
    (hnamed : Named o.ledger e.id) :
    ∃ t ∈ o.ledger.transactions, t.id = e.draft.transactionId ∧
      ∀ s ∈ o.ledger.transactions, s.status = .converted ∧ s.expenseId = some e.id ↔ s = t := by
  have hid : ∀ s ∈ o.ledger.transactions, s.status = .converted → s.expenseId = some e.id →
      s.id = e.draft.transactionId := by
    intro s hs hconverted hname
    rcases h.custody.backed s hs hconverted with ⟨e', he', hname', htransaction⟩
    have hsame : e' = e := by
      apply h.custody.orderly.eq_of_expense_id he' he
      rw [hname] at hname'
      exact (Option.some.inj hname').symm
    rw [← htransaction, hsame]
  rcases hnamed with ⟨t, ht, hconverted, hname⟩
  refine ⟨t, ht, hid t ht hconverted hname, ?_⟩
  intro s hs
  constructor
  · rintro ⟨hconverted', hname'⟩
    apply List.inj_on_of_nodup_map h.custody.orderly.transactionIds hs ht
    rw [hid s hs hconverted' hname', hid t ht hconverted hname]
  · rintro rfl
    exact ⟨hconverted, hname⟩

/-- Once all workers are done, every expense is named. -/
theorem named_of_finished (h : Sound o) (hfinished : ∀ w ∈ o.workers, w.rest.result?.isSome = true)
    {e : Expense} (he : e ∈ o.ledger.expenses) : Named o.ledger e.id := by
  rcases h.custody.owned e he with hnamed | ⟨i, holding, hheld, _⟩
  · exact hnamed
  · rcases h.unfinished_of_held hheld with ⟨w, _, hw, hresult, _⟩
    have hdone := hfinished w (List.mem_of_getElem? hw)
    rw [hresult] at hdone
    cases hdone

end Sound

/-- Reconciliations that start from unmatched transactions and advance call by call in any
order: no transaction is written twice, every expense belongs to the transaction it was made for
or to a worker that is not done, and a worker that is done says what is stored. When all are
done, every converted transaction has its own expense and no expense is left over. -/
theorem workers_agree {l : Ledger} (hreachable : l.Reachable)
    (hunmatched : ∀ t ∈ l.transactions, t.status = .unmatched) (hnone : l.expenses = [])
    (events : List Event) :
    let o := (opening l).run events
    (∀ id, (written o.log).count id ≤ 1) ∧
      (∀ t ∈ o.ledger.transactions, t.status = .converted → Backed o.ledger t) ∧
      (∀ e ∈ o.ledger.expenses,
        (∃ t ∈ o.ledger.transactions, t.id = e.draft.transactionId ∧
          ∀ s ∈ o.ledger.transactions,
            s.status = .converted ∧ s.expenseId = some e.id ↔ s = t) ∨
        ∃ i w, o.workers[i]? = some w ∧ w.rest.result? = none ∧
          ⟨i, ⟨.create e.draft, .ok e.id⟩⟩ ∈ o.log) ∧
      (∀ w ∈ o.workers, ∀ r, w.rest.result? = some r → Returned o.ledger w.id r) ∧
      ((∀ w ∈ o.workers, w.rest.result?.isSome = true) →
        (∀ e ∈ o.ledger.expenses, Named o.ledger e.id) ∧
        o.ledger.expenses.length =
          (o.ledger.transactions.filter (·.status = .converted)).length) := by
  intro o
  have hsound : Sound o := (sound_opening hreachable.orderly hunmatched hnone).run events
  refine ⟨?_, hsound.custody.backed, ?_, ?_, ?_⟩
  · exact List.nodup_iff_count_le_one.mp hsound.recorded.once
  · intro e he
    -- An expense is named, or its holder is still on the way.
    rcases hsound.custody.owned e he with hnamed | ⟨i, holding, hheld, hid⟩
    · exact .inl (hsound.names_iff_of_named he hnamed)
    · rcases hsound.unfinished_of_held hheld with ⟨w, e', hw, hresult, he', hid', hentry⟩
      have hsame : e' = e := hsound.custody.orderly.eq_of_expense_id he' he (hid'.trans hid)
      subst hsame
      exact .inr ⟨i, w, hw, hresult, hentry⟩
  · intro w hw r hresult
    have hbehaves := hsound.behaves w hw
    rcases w with ⟨id, rest⟩
    cases rest with
    | done r' =>
        cases hresult
        exact hbehaves
    | ask q resume => cases hresult
  · intro hfinished
    have hnamed : ∀ e ∈ o.ledger.expenses, Named o.ledger e.id :=
      fun e he => hsound.named_of_finished hfinished he
    exact ⟨hnamed, hsound.custody.orderly.length_expenses hsound.custody.backed hnamed⟩

end Office

/-!
## Two workers on one payment

Both have created an expense before the second one is the first to write it. The other one
comes too late and discards its own.
-/

namespace Payment

open Office

def race : List Event :=
  [.start .standard midnight "t-1", .start .standard midnight "t-1",
    .advance 0 midnight, .advance 1 midnight, .advance 0 midnight, .advance 1 midnight,
    .advance 0 midnight, .advance 1 midnight, .advance 1 midnight, .advance 0 midnight,
    .advance 0 midnight]

def raced : Office :=
  (opening convertingLedger).run race

theorem results_raced : raced.workers.map (·.rest.result?) =
    [some (.error (.alreadyReconciled "t-1")),
      some (.ok ⟨"t-1", .converted, some "expense-2", none⟩)] := by cbv

/-- Both are done, and the one expense that is left is that of the payment. -/
theorem workers_agree_raced :
    convertingLedger.Reachable ∧
      (∀ t ∈ convertingLedger.transactions, t.status = .unmatched) ∧
      convertingLedger.expenses = [] ∧ (written raced.log).count "t-1" ≤ 1 ∧
      (∀ w ∈ raced.workers, ∀ r, w.rest.result? = some r → Returned raced.ledger w.id r) ∧
      (∀ w ∈ raced.workers, w.rest.result?.isSome = true) ∧
      (∀ e ∈ raced.ledger.expenses, Named raced.ledger e.id) := by
  have hunmatched : ∀ t ∈ convertingLedger.transactions, t.status = .unmatched := by decide
  have hfinished : ∀ w ∈ raced.workers, w.rest.result?.isSome = true := by
    intro w hw
    have hresult := List.mem_map_of_mem (f := (·.rest.result?)) hw
    rw [results_raced] at hresult
    rcases List.mem_pair.mp hresult with hlost | hwon
    · rw [hlost]
      rfl
    · rw [hwon]
      rfl
  have hagree := workers_agree reachable_convertingLedger hunmatched rfl race
  exact ⟨reachable_convertingLedger, hunmatched, rfl, hagree.1 "t-1", hagree.2.2.2.1, hfinished,
    (hagree.2.2.2.2 hfinished).1⟩

end Payment
end BankFeed
