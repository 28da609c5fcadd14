import BankFeed.Proofs.Workers.Conduct
import Mathlib.Logic.Function.Basic

/-!
# Who answers for an expense

Every stored expense is answered for: by the converted transaction that names it, or by the one
worker that has created it and not yet written or discarded it. Every move passes this on.
-/

namespace BankFeed

open Ledger Reconciliation

structure Entry where
  worker : Nat
  exchange : Exchange

/-- An expense that a worker answers for, and the transaction that it was created for. -/
structure Holding where
  transactionId : String
  expenseId : String

def Exchange.wrote? : Exchange → Option String
  | ⟨.compareAndSet id _ _ _, .ok true⟩ => some id
  | _ => none

def written (log : List Entry) : List String :=
  log.filterMap fun entry => entry.exchange.wrote?

theorem written_append (log : List Entry) (entry : Entry) :
    written (log ++ [entry]) = written log ++ entry.exchange.wrote?.toList := by
  unfold written
  rw [List.filterMap_append]
  cases hwrote : entry.exchange.wrote? with
  | none => simp [hwrote]
  | some id => simp [hwrote]

/-!
## Writes
-/

/-- No transaction was written twice, and what was written is settled. -/
structure Recorded (l : Ledger) (log : List Entry) : Prop where
  once : (written log).Nodup
  settled : ∀ id ∈ written log, Settled l id

theorem recorded_nil (l : Ledger) : Recorded l [] where
  once := List.nodup_nil
  settled := by
    intro id hid
    cases hid

theorem wrote?_of_isRead {x : Exchange} (h : x.request.isRead = true) : x.wrote? = none := by
  rcases x with ⟨q, r⟩
  cases q with
  | getTransaction id => rfl
  | findApplicable tenantId direction => rfl
  | findByNumber tenantId number => rfl
  | create draft => cases h
  | discard expenseId => cases h
  | compareAndSet id expected status update => cases h

variable {l l' : Ledger} {log : List Entry} {id : String} {now : Timestamp} {x : Exchange}
  {after : Option String}

theorem Ledger.Move.wrote (h : Move id now l x l' after) :
    x.wrote? = none ∨ x.wrote? = some id ∧ ¬ Settled l id ∧ Settled l' id := by
  cases h with
  | read reads => exact .inl (wrote?_of_isRead reads)
  | late settled => exact .inl rfl
  | @link t invoiceId stored unmatched =>
      have hid := id_of_transaction? stored
      subst hid
      exact .inr ⟨rfl, not_settled_of_stored stored unmatched,
        settled_insertTransaction (by simp [Transaction.applyUpdate])⟩
  | create own => exact .inl rfl
  | @convert t draft expenseId stored unmatched =>
      have hid := id_of_transaction? stored
      subst hid
      exact .inr ⟨rfl, not_settled_of_stored stored unmatched,
        settled_insertTransaction (by simp [Transaction.applyUpdate])⟩
  | discard expenseId => exact .inl rfl

theorem Recorded.mono (h : Recorded l log) (hages : Ages l l') : Recorded l' log where
  once := h.once
  settled := by
    intro id hid
    exact (h.settled id hid).mono hages

theorem Recorded.move (h : Recorded l log) (hmove : Move id now l x l' after) (i : Nat) :
    Recorded l' (log ++ [⟨i, x⟩]) := by
  have hkept := (h.mono hmove.ages).settled
  rcases hmove.wrote with hnone | ⟨hsome, hbefore, hafter⟩
  · have hwritten : written (log ++ [⟨i, x⟩]) = written log := by
      rw [written_append, hnone]
      exact List.append_nil _
    constructor
    · rw [hwritten]
      exact h.once
    · rw [hwritten]
      exact hkept
  · have hwritten : written (log ++ [⟨i, x⟩]) = written log ++ [id] := by
      rw [written_append, hsome]
      rfl
    constructor
    · rw [hwritten, List.nodup_append]
      refine ⟨h.once, List.nodup_singleton _, ?_⟩
      intro id' hid' id'' hid'' heq
      rw [heq, List.mem_singleton.mp hid''] at hid'
      exact hbefore (h.settled id hid')
    · rw [hwritten]
      intro id' hid'
      rcases List.mem_append.mp hid' with hold | hnew
      · exact hkept id' hold
      · rw [List.mem_singleton.mp hnew]
        exact hafter

/-!
## Custody
-/

/-- Every expense is answered for, and by one only: the holdings are those of the workers, each
under its number. -/
structure Custody (l : Ledger) (log : List Entry) (held : Nat → Option Holding) : Prop where
  orderly : l.Orderly
  backed : ∀ t ∈ l.transactions, t.status = .converted → Backed l t
  owned : ∀ e ∈ l.expenses, Named l e.id ∨ ∃ i h, held i = some h ∧ h.expenseId = e.id
  kept : ∀ i h, held i = some h → ∃ e ∈ l.expenses, e.id = h.expenseId ∧
    e.draft.transactionId = h.transactionId ∧ ⟨i, ⟨.create e.draft, .ok e.id⟩⟩ ∈ log
  free : ∀ i h, held i = some h → ¬ Named l h.expenseId
  single : ∀ i j h h', held i = some h → held j = some h' → h.expenseId = h'.expenseId → i = j

variable {held : Nat → Option Holding} {i j : Nat} {h : Holding}

theorem update_none_eq_some_iff :
    Function.update held i none j = some h ↔ j ≠ i ∧ held j = some h := by
  by_cases hij : j = i
  · subst hij
    simp
  · simp [hij]

theorem update_some_eq_some_iff {new : Holding} :
    Function.update held i (some new) j = some h ↔
      j = i ∧ h = new ∨ j ≠ i ∧ held j = some h := by
  by_cases hij : j = i
  · subst hij
    simp [eq_comm]
  · simp [hij]

namespace Custody

theorem record (hcustody : Custody l log held) (entry : Entry) :
    Custody l (log ++ [entry]) held where
  orderly := hcustody.orderly
  backed := hcustody.backed
  owned := hcustody.owned
  kept := by
    intro i h hheld
    rcases hcustody.kept i h hheld with ⟨e, he, hid, htransaction, hentry⟩
    exact ⟨e, he, hid, htransaction, List.mem_append_left _ hentry⟩
  free := hcustody.free
  single := hcustody.single

theorem withLedger (hcustody : Custody l log held) (horderly : l'.Orderly)
    (htransactions : l'.transactions = l.transactions) (hexpenses : l'.expenses = l.expenses) :
    Custody l' log held := by
  have hnamed : ∀ expenseId, Named l' expenseId ↔ Named l expenseId := by
    intro expenseId
    unfold Named
    rw [htransactions]
  constructor
  · exact horderly
  · intro t ht hconverted
    rw [htransactions] at ht
    exact (hcustody.backed t ht hconverted).mono (by simp [hexpenses])
  · intro e he
    rw [hexpenses] at he
    rw [hnamed]
    exact hcustody.owned e he
  · rw [hexpenses]
    exact hcustody.kept
  · intro i h hheld
    rw [hnamed]
    exact hcustody.free i h hheld
  · exact hcustody.single

theorem link (hcustody : Custody l log held) {t : Transaction}
    (hfree : ∀ s, l.transaction? t.id = some s → s.status = .unmatched)
    (hstatus : t.status ≠ .converted) : Custody (l.insertTransaction t) log held := by
  have hnamed : ∀ expenseId, Named (l.insertTransaction t) expenseId ↔ Named l expenseId := by
    intro expenseId
    rw [hcustody.orderly.named_insertTransaction hfree]
    exact or_iff_right fun hnames => hstatus hnames.1
  constructor
  · exact hcustody.orderly.insertTransaction t
  · intro s hs hconverted
    rcases mem_insertTransaction.mp hs with rfl | ⟨hmem, _⟩
    · exact absurd hconverted hstatus
    · exact hcustody.backed s hmem hconverted
  · intro e he
    rw [hnamed]
    exact hcustody.owned e he
  · exact hcustody.kept
  · intro i h hheld
    rw [hnamed]
    exact hcustody.free i h hheld
  · exact hcustody.single

theorem create (hcustody : Custody l log held) (hnone : held i = none) (made : Timestamp)
    {draft : ExpenseDraft} (hentry : ⟨i, ⟨.create draft, .ok l.ids.first⟩⟩ ∈ log) :
    Custody (l.createExpense made draft).2 log
      (Function.update held i (some ⟨draft.transactionId, l.ids.first⟩)) := by
  have hnew : ∀ j h, held j = some h → h.expenseId ≠ l.ids.first := by
    intro j h hheld
    rcases hcustody.kept j h hheld with ⟨e, he, hid, _⟩
    rw [← hid]
    exact hcustody.orderly.ne_first he
  constructor
  · exact hcustody.orderly.createExpense made draft
  · intro t ht hconverted
    exact (hcustody.backed t ht hconverted).mono (List.subset_append_left _ _)
  · intro e he
    rcases List.mem_append.mp he with hold | hlast
    · rcases hcustody.owned e hold with hnamed | ⟨j, h, hheld, hid⟩
      · exact .inl hnamed
      · refine .inr ⟨j, h, update_some_eq_some_iff.mpr (.inr ⟨?_, hheld⟩), hid⟩
        rintro rfl
        rw [hnone] at hheld
        cases hheld
    · rw [List.mem_singleton.mp hlast]
      exact .inr ⟨i, _, update_some_eq_some_iff.mpr (.inl ⟨rfl, rfl⟩), rfl⟩
  · intro j h hheld
    rcases update_some_eq_some_iff.mp hheld with ⟨rfl, rfl⟩ | ⟨_, hheld⟩
    · exact ⟨_, List.mem_append_right _ (List.mem_singleton_self _), rfl, rfl, hentry⟩
    · rcases hcustody.kept j h hheld with ⟨e, he, hkept⟩
      exact ⟨e, List.mem_append_left _ he, hkept⟩
  · intro j h hheld
    rcases update_some_eq_some_iff.mp hheld with ⟨rfl, rfl⟩ | ⟨_, hheld⟩
    -- A converted transaction names an expense that is stored already, not the new one.
    · rintro ⟨t, ht, hconverted, hname⟩
      rcases hcustody.backed t ht hconverted with ⟨e, he, hid, _⟩
      rw [hname] at hid
      exact hcustody.orderly.ne_first he (Option.some.inj hid).symm
    · exact hcustody.free j h hheld
  · intro j k h h' hheld hheld' hsame
    rcases update_some_eq_some_iff.mp hheld with ⟨hj, rfl⟩ | ⟨_, hheld⟩
    · rcases update_some_eq_some_iff.mp hheld' with ⟨hk, rfl⟩ | ⟨_, hheld'⟩
      · rw [hj, hk]
      · exact absurd hsame.symm (hnew k h' hheld')
    · rcases update_some_eq_some_iff.mp hheld' with ⟨hk, rfl⟩ | ⟨_, hheld'⟩
      · exact absurd hsame (hnew j h hheld)
      · exact hcustody.single j k h h' hheld hheld' hsame

theorem convert (hcustody : Custody l log held) {t : Transaction} {expenseId : String}
    (hheld : held i = some ⟨t.id, expenseId⟩)
    (hfree : ∀ s, l.transaction? t.id = some s → s.status = .unmatched)
    (hstatus : t.status = .converted) (hname : t.expenseId = some expenseId) :
    Custody (l.insertTransaction t) log (Function.update held i none) := by
  have hnamed : ∀ other, Named (l.insertTransaction t) other ↔
      other = expenseId ∨ Named l other := by
    intro other
    rw [hcustody.orderly.named_insertTransaction hfree, hname]
    simp [hstatus, eq_comm]
  constructor
  · exact hcustody.orderly.insertTransaction t
  · intro s hs hconverted
    rcases mem_insertTransaction.mp hs with rfl | ⟨hmem, _⟩
    · rcases hcustody.kept i _ hheld with ⟨e, he, hid, htransaction, _⟩
      exact ⟨e, he, hname.trans (congrArg some hid.symm), htransaction⟩
    · exact hcustody.backed s hmem hconverted
  · intro e he
    rw [hnamed]
    rcases hcustody.owned e he with hold | ⟨j, h, hother, hid⟩
    · exact .inl (.inr hold)
    -- What this worker held is named now, and all other expenses stay where they were.
    · by_cases hij : j = i
      · subst hij
        cases hheld.symm.trans hother
        exact .inl (.inl hid.symm)
      · exact .inr ⟨j, h, update_none_eq_some_iff.mpr ⟨hij, hother⟩, hid⟩
  · intro j h hother
    exact hcustody.kept j h (update_none_eq_some_iff.mp hother).2
  · intro j h hother
    rcases update_none_eq_some_iff.mp hother with ⟨hij, hother⟩
    rw [hnamed]
    rintro (hsame | hold)
    · exact hij (hcustody.single j i _ _ hother hheld hsame)
    · exact hcustody.free j h hother hold
  · intro j k h h' hother hother' hsame
    exact hcustody.single j k h h' (update_none_eq_some_iff.mp hother).2
      (update_none_eq_some_iff.mp hother').2 hsame

theorem discard (hcustody : Custody l log held) (hheld : held i = some h) :
    Custody (l.discardExpense h.expenseId) log (Function.update held i none) := by
  have hleft : ∀ e ∈ l.expenses, e.id ≠ h.expenseId →
      e ∈ (l.discardExpense h.expenseId).expenses := by
    intro e he hne
    exact List.mem_filter.mpr ⟨he, by simpa using hne⟩
  constructor
  · exact hcustody.orderly.discardExpense h.expenseId
  · intro t ht hconverted
    rcases hcustody.backed t ht hconverted with ⟨e, he, hname, hid⟩
    refine ⟨e, hleft e he ?_, hname, hid⟩
    -- What is discarded was held until now, so no converted transaction names it.
    intro hsame
    rw [hsame] at hname
    exact hcustody.free i h hheld ⟨t, ht, hconverted, hname⟩
  · intro e he
    rcases List.mem_filter.mp he with ⟨he, hne⟩
    rcases hcustody.owned e he with hold | ⟨j, h', hother, hid⟩
    · exact .inl hold
    · refine .inr ⟨j, h', update_none_eq_some_iff.mpr ⟨?_, hother⟩, hid⟩
      rintro rfl
      cases hheld.symm.trans hother
      simp [hid] at hne
  · intro j h' hother
    rcases update_none_eq_some_iff.mp hother with ⟨hij, hother⟩
    rcases hcustody.kept j h' hother with ⟨e, he, hid, hkept⟩
    refine ⟨e, hleft e he ?_, hid, hkept⟩
    intro hsame
    exact hij (hcustody.single j i _ _ hother hheld (hid.symm.trans hsame))
  · intro j h' hother
    exact hcustody.free j h' (update_none_eq_some_iff.mp hother).2
  · intro j k h' h'' hother hother' hsame
    exact hcustody.single j k h' h'' (update_none_eq_some_iff.mp hother).2
      (update_none_eq_some_iff.mp hother').2 hsame

/-- Every move passes the custody on. The worker that makes it holds before it what its call is
about, and afterwards what the move says. -/
theorem move (hcustody : Custody l log held) (hmove : Move id now l x l' after)
    (hbefore : held i = x.request.holds.map (Holding.mk id)) :
    Custody l' (log ++ [⟨i, x⟩]) (Function.update held i (after.map (Holding.mk id))) := by
  have hrecorded := hcustody.record ⟨i, x⟩
  cases hmove with
  | read reads =>
      rw [Request.holds_of_isRead reads] at hbefore
      rw [← hbefore, Function.update_eq_self]
      exact hrecorded
  | @late status update settled =>
      have hsame : held i = update.expenseId.map (Holding.mk id) := hbefore
      rw [← hsame, Function.update_eq_self]
      exact hrecorded
  | @link t invoiceId stored unmatched =>
      have hid := id_of_transaction? stored
      subst hid
      have hsame : held i = (none : Option String).map (Holding.mk t.id) := hbefore
      rw [← hsame, Function.update_eq_self]
      apply hrecorded.link
      · exact unmatched_of_stored stored unmatched
      · intro hconverted
        cases hconverted
  | @create draft own =>
      subst own
      exact hrecorded.create hbefore now (List.mem_append_right _ (List.mem_singleton_self _))
  | @convert t draft expenseId stored unmatched =>
      have hid := id_of_transaction? stored
      subst hid
      let update := conversionUpdate draft expenseId
      have hheld : held i = some ⟨(t.applyUpdate now .converted update).id, expenseId⟩ := hbefore
      apply hrecorded.convert hheld
      · exact unmatched_of_stored stored unmatched
      · rfl
      · rfl
  | discard expenseId =>
      exact hrecorded.discard hbefore

end Custody
end BankFeed
