import BankFeed.Proofs.Reconciliation.Effect

/-!
# How a reconciliation conducts itself among others

Between any two calls of a reconciliation other ones may make theirs. All it can rely on is that
the stored transactions stay and are settled at most once, and all it does to the ledger in turn
is one of a few moves.
-/

namespace BankFeed

/-- The expense that a call is about and that its caller answers for. -/
def Request.holds : Request → Option String
  | .getTransaction _ => none
  | .findApplicable _ _ => none
  | .findByNumber _ _ => none
  | .create _ => none
  | .discard expenseId => some expenseId
  | .compareAndSet _ _ _ update => update.expenseId

theorem Request.holds_of_isRead {q : Request} (h : q.isRead = true) : q.holds = none := by
  cases q with
  | getTransaction id => rfl
  | findApplicable tenantId direction => rfl
  | findByNumber tenantId number => rfl
  | create draft => rfl
  | discard expenseId => cases h
  | compareAndSet id expected status update => cases h

/-- The expense that a run answers for until its next call: it has created it, and has neither
written it to its transaction nor discarded it. -/
def Run.held {α : Type} : Run α → Option String
  | .done _ => none
  | .ask q _ => q.holds

namespace Ledger

open Reconciliation

variable {l l' l'' : Ledger} {id : String} {t : Transaction}

/-!
## What others do
-/

def Settled (l : Ledger) (id : String) : Prop :=
  ∃ s, l.transaction? id = some s ∧ s.status ≠ .unmatched

theorem not_settled_of_stored (hstored : l.transaction? id = some t)
    (hunmatched : t.status = .unmatched) : ¬ Settled l id := by
  rintro ⟨s, hs, hsettled⟩
  exact hsettled (unmatched_of_stored hstored hunmatched s hs)

theorem settled_insertTransaction (hstatus : t.status ≠ .unmatched) :
    Settled (l.insertTransaction t) t.id :=
  ⟨t, transaction?_insertTransaction_self t l, hstatus⟩

structure Ages (l l' : Ledger) : Prop where
  evolves : Evolves l l'
  unknown : ∀ id, l.transaction? id = none → l'.transaction? id = none

theorem ages_of_transactions_eq (h : l'.transactions = l.transactions) : Ages l l' where
  evolves := evolves_of_transactions_eq h
  unknown := by
    intro id hnone
    unfold transaction? at hnone ⊢
    rw [h]
    exact hnone

theorem ages_refl (l : Ledger) : Ages l l :=
  ages_of_transactions_eq rfl

theorem Ages.trans (h : Ages l l') (h' : Ages l' l'') : Ages l l'' where
  evolves := h.evolves.trans h'.evolves
  unknown := by
    intro id hnone
    exact h'.unknown id (h.unknown id hnone)

theorem ages_insertTransaction {s : Transaction} (hstored : l.transaction? t.id = some s)
    (hunmatched : s.status = .unmatched) (hsettled : t.status ≠ .unmatched) :
    Ages l (l.insertTransaction t) where
  evolves := evolves_insertTransaction_of_unmatched hstored hunmatched hsettled
  unknown := by
    intro id hnone
    have hne : t.id ≠ id := by
      intro hid
      rw [← hid, hstored] at hnone
      cases hnone
    rw [transaction?_insertTransaction_of_ne hne]
    exact hnone

theorem Settled.mono (h : Settled l id) (hages : Ages l l') : Settled l' id := by
  rcases h with ⟨s, hs, hsettled⟩
  rcases hages.evolves id s hs with ⟨s', hs', rfl | ⟨hunmatched, _⟩⟩
  · exact ⟨s', hs', hsettled⟩
  · exact absurd hunmatched hsettled

/-!
## Moves
-/

/-- What one call on behalf of the transaction with this id may do to the ledger, and which
expense its caller answers for afterwards. -/
inductive Move (id : String) (now : Timestamp) (l : Ledger) :
    Exchange → Ledger → Option String → Prop where
  | read {x : Exchange} (reads : x.request.isRead = true) : Move id now l x l none
  | late {status : Status} {update : StatusUpdate} (settled : Settled l id) :
      Move id now l ⟨.compareAndSet id .unmatched status update, .ok false⟩ l update.expenseId
  | link {t : Transaction} {invoiceId : String} (stored : l.transaction? id = some t)
      (unmatched : t.status = .unmatched) :
      Move id now l ⟨.compareAndSet id .unmatched .matched (matchUpdate invoiceId), .ok true⟩
        (l.insertTransaction (t.applyUpdate now .matched (matchUpdate invoiceId))) none
  | create {draft : ExpenseDraft} (own : draft.transactionId = id) :
      Move id now l ⟨.create draft, .ok l.ids.first⟩
        (l.createExpense now draft).2 (some l.ids.first)
  | convert {t : Transaction} {draft : ExpenseDraft} {expenseId : String}
      (stored : l.transaction? id = some t) (unmatched : t.status = .unmatched) :
      Move id now l
        ⟨.compareAndSet id .unmatched .converted (conversionUpdate draft expenseId), .ok true⟩
        (l.insertTransaction (t.applyUpdate now .converted (conversionUpdate draft expenseId)))
        none
  | discard (expenseId : String) :
      Move id now l ⟨.discard expenseId, .ok ()⟩ (l.discardExpense expenseId) none

theorem Move.ages {now : Timestamp} {x : Exchange} {held : Option String}
    (h : Move id now l x l' held) : Ages l l' := by
  cases h with
  | read reads => exact ages_refl l
  | late settled => exact ages_refl l
  | @link t invoiceId stored unmatched =>
      have hid := id_of_transaction? stored
      subst hid
      exact ages_insertTransaction stored unmatched (by simp [Transaction.applyUpdate])
  | create own => exact ages_of_transactions_eq rfl
  | @convert t draft expenseId stored unmatched =>
      have hid := id_of_transaction? stored
      subst hid
      exact ages_insertTransaction stored unmatched (by simp [Transaction.applyUpdate])
  | discard expenseId => exact ages_of_transactions_eq rfl

/-!
## Results
-/

/-- What a finished reconciliation may say of its transaction. -/
def Returned (l : Ledger) (id : String) : Except Failure Outcome → Prop
  | .ok outcome => outcome.transactionId = id ∧ ∃ s, l.transaction? id = some s ∧
      (outcome.status.isTerminal = true → s.outcome = outcome)
  | .error e => e = .alreadyReconciled id ∧ Settled l id ∨
      e = .transactionNotFound id ∧ l.transaction? id = none

theorem Returned.mono {r : Except Failure Outcome} (h : Returned l id r) (hages : Ages l l') :
    Returned l' id r := by
  cases r with
  | ok outcome =>
      rcases h with ⟨hid, s, hs, hterminal⟩
      refine ⟨hid, ?_⟩
      rcases hages.evolves id s hs with ⟨s', hs', rfl | ⟨hunmatched, _⟩⟩
      · exact ⟨s', hs', hterminal⟩
      · refine ⟨s', hs', ?_⟩
        intro houtcome
        rw [← hterminal houtcome] at houtcome
        rw [Transaction.outcome, hunmatched] at houtcome
        cases houtcome
  | error e =>
      rcases h with ⟨he, hsettled⟩ | ⟨he, hnone⟩
      · exact .inl ⟨he, hsettled.mono hages⟩
      · exact .inr ⟨he, hages.unknown id hnone⟩

/-!
## Conduct

Whatever the others have done until a call is answered, the call is a move, and the rest of the
run conducts itself from there.
-/

def Behaves (id : String) : Run Outcome → Ledger → Prop
  | .done r, l => Returned l id r
  | .ask q resume, l => ∀ (l' : Ledger) (now : Timestamp), Ages l l' →
      Move id now l' ⟨q, (l'.answer now q).1⟩ (l'.answer now q).2
          (resume (l'.answer now q).1).held ∧
        Behaves id (resume (l'.answer now q).1) (l'.answer now q).2

namespace Behaves

theorem mono {run : Run Outcome} (h : Behaves id run l) (hages : Ages l l') :
    Behaves id run l' := by
  cases run with
  | done r => exact Returned.mono h hages
  | ask q resume =>
      intro later now hlater
      exact h later now (hages.trans hlater)

theorem ask {q : Request} {resume : q.Result → Run Outcome}
    (h : ∀ (l' : Ledger) (now : Timestamp), Ages l l' → ∃ r l'', l'.answer now q = (r, l'') ∧
      Move id now l' ⟨q, r⟩ l'' (resume r).held ∧ Behaves id (resume r) l'') :
    Behaves id (.ask q resume) l := by
  intro l' now hages
  rcases h l' now hages with ⟨r, l'', heq, hmove, hrest⟩
  rw [heq]
  exact ⟨hmove, hrest⟩

theorem read {q : Request} {resume : q.Result → Run Outcome} (hread : q.isRead = true)
    (h : ∀ (l' : Ledger) (now : Timestamp), Ages l l' → ∃ answer,
      l'.answer now q = (.ok answer, l') ∧ (resume (.ok answer)).held = none ∧
        Behaves id (resume (.ok answer)) l') :
    Behaves id (.ask q resume) l := by
  apply ask
  intro l' now hages
  rcases h l' now hages with ⟨answer, heq, hheld, hrest⟩
  refine ⟨.ok answer, l', heq, ?_, hrest⟩
  rw [hheld]
  exact .read hread

end Behaves

/-!
## The conduct of a reconciliation

From the last call back to the first: the run is followed along its shape.
-/

def reported (run : Run Transaction) : Run Outcome :=
  run >>= fun t => pure t.outcome

theorem behaves_concede (hsettled : Settled l id) (expenseId : String) :
    Behaves id (reported (concede expenseId (.alreadyReconciled id))) l := by
  apply Behaves.ask
  intro l' now hages
  have hlater : Settled l' id := hsettled.mono hages
  exact ⟨.ok (), l'.discardExpense expenseId, rfl, .discard expenseId, .inl ⟨rfl, hlater⟩⟩

theorem returned_applyUpdate (l : Ledger) (t : Transaction) (now written : Timestamp)
    (status : Status) (update : StatusUpdate) :
    Returned (l.insertTransaction (t.applyUpdate written status update)) t.id
      (.ok (t.applyUpdate now status update).outcome) := by
  refine ⟨rfl, t.applyUpdate written status update, ?_, ?_⟩
  · exact transaction?_insertTransaction_self (t.applyUpdate written status update) l
  · intro _
    rfl

section Run

variable (settings : Settings) (now : Timestamp)

theorem behaves_writeConversion (hcopied : Copied l t) (hunmatched : t.status = .unmatched)
    (draft : ExpenseDraft) (expenseId : String) :
    Behaves t.id (reported (writeConversion now t draft expenseId)) l := by
  apply Behaves.ask
  intro l' written hages
  rcases hcopied.mono hages.evolves with ⟨s, hs, rfl | hsettled⟩
  · exact ⟨.ok true, _, compareAndSet_of_eq hs hunmatched written _ _, .convert hs hunmatched,
      returned_applyUpdate l' s now written _ _⟩
  · have hlate : Settled l' t.id := ⟨s, hs, hsettled⟩
    exact ⟨.ok false, l', compareAndSet_of_ne hs hsettled written _ _, .late hlate,
      behaves_concede hlate expenseId⟩

theorem behaves_convert (hcopied : Copied l t) (hunmatched : t.status = .unmatched)
    (rule : Rule) : Behaves t.id (reported (convert now t rule)) l := by
  rw [convert_eq]
  apply Behaves.ask
  intro l' made hages
  refine ⟨.ok l'.ids.first, (l'.createExpense made _).2, rfl, .create rfl, ?_⟩
  have hkept : Copied (l'.createExpense made (.ofConversion t rule)).2 t :=
    hcopied.mono hages.evolves
  exact behaves_writeConversion now hkept hunmatched _ _

theorem behaves_matchInvoice (hcopied : Copied l t) (hunmatched : t.status = .unmatched)
    (invoiceId : String) : Behaves t.id (reported (matchInvoice now t invoiceId)) l := by
  rw [matchInvoice_eq]
  apply Behaves.ask
  intro l' written hages
  rcases hcopied.mono hages.evolves with ⟨s, hs, rfl | hsettled⟩
  · exact ⟨.ok true, _, compareAndSet_of_eq hs hunmatched written _ _, .link hs hunmatched,
      returned_applyUpdate l' s now written _ _⟩
  · have hlate : Settled l' t.id := ⟨s, hs, hsettled⟩
    exact ⟨.ok false, l', compareAndSet_of_ne hs hsettled written _ _, .late hlate,
      .inl ⟨rfl, hlate⟩⟩

theorem held_of_searches {rules : List Rule} {run : Run Transaction}
    (h : Searches now t rules run) : (reported run).held = none := by
  cases h with
  | leave => rfl
  | convert mem accepts converts => rfl
  | look credit named next => rfl

theorem behaves_of_searches {rules : List Rule} {run : Run Transaction}
    (h : Searches now t rules run) (hcopied : Copied l t) (hunmatched : t.status = .unmatched) :
    Behaves t.id (reported run) l := by
  induction h generalizing l with
  | leave =>
      rcases hcopied with ⟨s, hs, _⟩
      refine ⟨rfl, s, hs, ?_⟩
      intro hterminal
      rw [Transaction.outcome, hunmatched] at hterminal
      cases hterminal
  | @convert rule mem accepts converts =>
      exact behaves_convert now hcopied hunmatched rule
  | @look missed credit named next ih =>
      apply Behaves.read rfl
      intro l' asked hages
      have hlater := hcopied.mono hages.evolves
      refine ⟨_, rfl, ?_⟩
      cases (l'.invoice? t.tenantId t.descriptionOrEmpty).map (·.id) with
      | none => exact ⟨held_of_searches now next, ih hlater⟩
      | some invoiceId => exact ⟨rfl, behaves_matchInvoice now hlater hunmatched invoiceId⟩

theorem behaves_reconcile (hcopied : Copied l t) (hunmatched : t.status = .unmatched) :
    Behaves t.id (reported (reconcile settings now t)) l := by
  rw [reconcile_of_unmatched hunmatched]
  apply Behaves.read rfl
  intro l' asked hages
  let offered := Rule.applicable t.tenantId t.direction l'.rules
  let rules := Rule.applicable t.tenantId t.direction offered
  have hsearches : Searches now t rules (search settings now t rules) :=
    searches_search settings now t fun rule hrule => hrule
  exact ⟨_, rfl, held_of_searches now hsearches,
    behaves_of_searches now hsearches (hcopied.mono hages.evolves) hunmatched⟩

theorem behaves_process (id : String) (l : Ledger) :
    Behaves id (process settings now id) l := by
  rw [process_eq]
  apply Behaves.read rfl
  intro l' asked hages
  refine ⟨l'.transaction? id, rfl, ?_⟩
  cases hstored : l'.transaction? id with
  | none => exact ⟨rfl, .inr ⟨rfl, hstored⟩⟩
  | some t =>
      have hid := id_of_transaction? hstored
      subst hid
      show (reported (reconcile settings now t)).held = none ∧
        Behaves t.id (reported (reconcile settings now t)) l'
      cases hterminal : t.status.isTerminal with
      | true =>
          rw [reconcile_of_terminal hterminal]
          exact ⟨rfl, rfl, t, hstored, fun _ => rfl⟩
      | false =>
          have hunmatched := Status.isTerminal_eq_false_iff.mp hterminal
          refine ⟨?_, behaves_reconcile settings now (copied_of_transaction? hstored) hunmatched⟩
          rw [reconcile_of_unmatched hunmatched]
          rfl

end Run
end Ledger
end BankFeed
