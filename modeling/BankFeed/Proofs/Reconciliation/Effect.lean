import BankFeed.Proofs.Reconciliation.Outcome

/-!
# What a reconciliation does to a ledger

A reconciliation without faults does one of three things to what the ledger holds: nothing, link
a transaction to an invoice, or convert one into an expense. It may be given a copy that was
read long before: what it writes, it writes to the record as it is stored.
-/

namespace BankFeed
namespace Ledger

open Reconciliation

variable {l l' l'' : Ledger} {t : Transaction}

/-!
## Records over time

A stored transaction stays, and changes at most once: when it is settled.
-/

def Evolves (l l' : Ledger) : Prop :=
  ∀ id s, l.transaction? id = some s → ∃ s', l'.transaction? id = some s' ∧
    (s' = s ∨ s.status = .unmatched ∧ s'.status ≠ .unmatched)

/-- A transaction that was read from the ledger at some time: it is stored as it was then, unless
it was settled since. -/
def Copied (l : Ledger) (t : Transaction) : Prop :=
  ∃ s, l.transaction? t.id = some s ∧ (s = t ∨ s.status ≠ .unmatched)

theorem evolves_of_transactions_eq (h : l'.transactions = l.transactions) : Evolves l l' := by
  intro id s hs
  refine ⟨s, ?_, .inl rfl⟩
  unfold transaction? at hs ⊢
  rw [h]
  exact hs

theorem evolves_refl (l : Ledger) : Evolves l l :=
  evolves_of_transactions_eq rfl

theorem Evolves.trans (h : Evolves l l') (h' : Evolves l' l'') : Evolves l l'' := by
  intro id s hs
  rcases h id s hs with ⟨s', hs', hfirst⟩
  rcases h' id s' hs' with ⟨s'', hs'', hsecond⟩
  refine ⟨s'', hs'', ?_⟩
  rcases hfirst with rfl | ⟨hunmatched, hsettled⟩
  · exact hsecond
  · rcases hsecond with rfl | ⟨hunmatched', _⟩
    · exact .inr ⟨hunmatched, hsettled⟩
    · exact absurd hunmatched' hsettled

theorem evolves_insertTransaction_of_none (h : l.transaction? t.id = none) :
    Evolves l (l.insertTransaction t) := by
  intro id s hs
  have hne : t.id ≠ id := by
    intro heq
    rw [heq, hs] at h
    cases h
  refine ⟨s, ?_, .inl rfl⟩
  rw [transaction?_insertTransaction_of_ne hne]
  exact hs

theorem evolves_insertTransaction_of_unmatched {s : Transaction}
    (hstored : l.transaction? t.id = some s) (hunmatched : s.status = .unmatched)
    (hsettled : t.status ≠ .unmatched) : Evolves l (l.insertTransaction t) := by
  intro id s' hs'
  by_cases hid : t.id = id
  · subst hid
    cases hstored.symm.trans hs'
    exact ⟨t, transaction?_insertTransaction_self t l, .inr ⟨hunmatched, hsettled⟩⟩
  · refine ⟨s', ?_, .inl rfl⟩
    rw [transaction?_insertTransaction_of_ne hid]
    exact hs'

theorem copied_of_transaction? {id : String} (h : l.transaction? id = some t) : Copied l t := by
  refine ⟨t, ?_, .inl rfl⟩
  rw [id_of_transaction? h]
  exact h

theorem Copied.mono (h : Copied l t) (hevolves : Evolves l l') : Copied l' t := by
  rcases h with ⟨s, hs, hcopy⟩
  rcases hevolves t.id s hs with ⟨s', hs', hsame | ⟨hunmatched, hsettled⟩⟩
  · rw [hsame] at hs'
    exact ⟨s, hs', hcopy⟩
  · exact ⟨s', hs', .inr hsettled⟩

/-!
## Settling
-/

/-- What a reconciliation without faults may turn a ledger into. -/
inductive Settles (l : Ledger) : Ledger → Prop where
  | leave {l' : Ledger} (transactions : l'.transactions = l.transactions)
      (rules : l'.rules = l.rules) (invoices : l'.invoices = l.invoices)
      (expenses : l'.expenses = l.expenses) : Settles l l'
  | link {t : Transaction} {invoice : Invoice} (stored : l.transaction? t.id = some t)
      (unmatched : t.status = .unmatched) (credit : t.direction = .credit)
      (named : t.descriptionOrEmpty ≠ "") (mem : invoice ∈ l.invoices)
      (tenant : invoice.tenantId = t.tenantId)
      (number : invoice.hasNumber t.descriptionOrEmpty = true) (written : Timestamp) :
      Settles l (l.insertTransaction (t.applyUpdate written .matched (matchUpdate invoice.id)))
  | convert {t : Transaction} {rule : Rule} (stored : l.transaction? t.id = some t)
      (unmatched : t.status = .unmatched) (mem : rule ∈ l.rules)
      (covers : rule.covers t.tenantId t.direction = true) (accepts : rule.accepts t = true)
      (converts : rule.autoConvert = true) (made written : Timestamp) :
      Settles l
        ((l.createExpense made (.ofConversion t rule)).2.insertTransaction
          (t.applyUpdate written .converted
            (conversionUpdate (.ofConversion t rule) l.ids.first)))

theorem settles_refl (l : Ledger) : Settles l l :=
  .leave rfl rfl rfl rfl

theorem Settles.evolves (h : Settles l l') : Evolves l l' := by
  cases h with
  | leave transactions rules invoices expenses => exact evolves_of_transactions_eq transactions
  | link stored unmatched credit named mem tenant number written =>
      exact evolves_insertTransaction_of_unmatched stored unmatched (by simp [Transaction.applyUpdate])
  | convert stored unmatched mem covers accepts converts made written =>
      exact evolves_insertTransaction_of_unmatched (l := (l.createExpense made _).2) stored unmatched
        (by simp [Transaction.applyUpdate])

theorem mem_of_choose_eq_convert {settings : Settings} {invoiceId : Option String}
    {rules : List Rule} {rule : Rule}
    (h : Settlement.choose settings invoiceId rules = .convert rule) :
    rule ∈ rules ∧ rule.autoConvert = true := by
  cases invoiceId with
  | none =>
      simp only [Settlement.choose] at h
      cases hfind : rules.find? (·.autoConvert) with
      | none =>
          rw [hfind] at h
          cases h
      | some first =>
          rw [hfind] at h
          cases h
          exact ⟨List.mem_of_find?_eq_some hfind, List.find?_some hfind⟩
  | some invoiceId =>
      cases rules with
      | nil =>
          simp only [Settlement.choose] at h
          split at h <;> cases h
      | cons first rest =>
          simp only [Settlement.choose] at h
          split at h
          · next hconverts =>
              cases h
              exact ⟨List.mem_cons_self, hconverts⟩
          · cases h

theorem eq_of_choose_eq_link {settings : Settings} {invoice? : Option String}
    {rules : List Rule} {invoiceId : String}
    (h : Settlement.choose settings invoice? rules = .link invoiceId) :
    invoice? = some invoiceId := by
  cases invoice? with
  | none =>
      simp only [Settlement.choose] at h
      split at h <;> cases h
  | some found =>
      cases rules with
      | nil =>
          simp only [Settlement.choose] at h
          split at h
          · cases h
            rfl
          · cases h
      | cons first rest =>
          simp only [Settlement.choose] at h
          split at h
          · cases h
          · cases h
            rfl

theorem exists_invoice_of_invoiceFor {invoiceId : String} (h : l.invoiceFor t = some invoiceId) :
    t.direction = .credit ∧ t.descriptionOrEmpty ≠ "" ∧ ∃ invoice ∈ l.invoices,
      invoice.id = invoiceId ∧ invoice.tenantId = t.tenantId ∧
        invoice.hasNumber t.descriptionOrEmpty = true := by
  unfold invoiceFor at h
  by_cases hnamed : t.direction = .credit ∧ t.descriptionOrEmpty ≠ ""
  · rw [if_pos hnamed] at h
    rcases Option.map_eq_some_iff.mp h with ⟨invoice, hfound, hid⟩
    have hmatches := List.find?_some hfound
    simp only [Bool.and_eq_true, decide_eq_true_eq] at hmatches
    exact ⟨hnamed.1, hnamed.2, invoice, List.mem_of_find?_eq_some hfound, hid, hmatches⟩
  · rw [if_neg hnamed] at h
    cases h

theorem rule_of_settlement_eq_convert {settings : Settings} {rule : Rule}
    (h : l.settlement settings t = .convert rule) :
    rule ∈ l.rules ∧ rule.covers t.tenantId t.direction = true ∧ rule.accepts t = true ∧
      rule.autoConvert = true := by
  rcases mem_of_choose_eq_convert h with ⟨hmem, hconverts⟩
  rcases List.mem_filter.mp hmem with ⟨happlicable, haccepts⟩
  rcases Rule.mem_applicable.mp happlicable with ⟨hstored, hcovers⟩
  exact ⟨hstored, hcovers, haccepts, hconverts⟩

section Clock

variable (settings : Settings) (now : Timestamp) (clock : Nat → Timestamp)

theorem settles_matchInvoice (hcopied : Copied l t) (hunmatched : t.status = .unmatched)
    {invoiceId : String} (hinvoice : l.invoiceFor t = some invoiceId) :
    Settles l (l.serveBy clock (matchInvoice now t invoiceId)).state := by
  rcases hcopied with ⟨s, hstored, rfl | hsettled⟩
  · rcases exists_invoice_of_invoiceFor hinvoice with
      ⟨hcredit, hnamed, invoice, hmem, rfl, htenant, hnumber⟩
    rw [(serveBy_matchInvoice_of_unmatched now clock hstored hunmatched invoice.id).2]
    exact .link hstored hunmatched hcredit hnamed hmem htenant hnumber (clock 0)
  · rw [(serveBy_matchInvoice_of_settled now clock hstored hsettled invoiceId).2]
    exact settles_refl l

theorem settles_convert (horderly : l.Orderly) (hcopied : Copied l t)
    (hunmatched : t.status = .unmatched) {rule : Rule} (hmem : rule ∈ l.rules)
    (hcovers : rule.covers t.tenantId t.direction = true) (haccepts : rule.accepts t = true)
    (hconverts : rule.autoConvert = true) :
    Settles l (l.serveBy clock (convert now t rule)).state := by
  rcases hcopied with ⟨s, hstored, rfl | hsettled⟩
  · rw [(serveBy_convert_of_unmatched now clock hstored hunmatched rule).2]
    exact .convert hstored hunmatched hmem hcovers haccepts hconverts (clock 0) (clock 1)
  · rw [(serveBy_convert_of_settled now clock hstored hsettled rule).2]
    exact .leave rfl rfl rfl (horderly.expenses_discard_create (clock 0) _)

theorem settles_reconcile (horderly : l.Orderly) (hcopied : Copied l t) :
    Settles l (l.serveBy clock (reconcile settings now t)).state := by
  cases hterminal : t.status.isTerminal with
  | true =>
      rw [reconcile_of_terminal hterminal]
      exact settles_refl l
  | false =>
      have hunmatched := Status.isTerminal_eq_false_iff.mp hterminal
      rcases serveBy_reconcile (l := l) settings now clock hunmatched with ⟨history, k, heq⟩
      rw [heq]
      show Settles l (l.serveBy _ ((l.settlement settings t).run now t)).state
      cases hsettlement : l.settlement settings t with
      | leave => exact settles_refl l
      | link invoiceId =>
          exact settles_matchInvoice now _ hcopied hunmatched (eq_of_choose_eq_link hsettlement)
      | convert rule =>
          rcases rule_of_settlement_eq_convert hsettlement with
            ⟨hmem, hcovers, haccepts, hconverts⟩
          exact settles_convert now _ horderly hcopied hunmatched hmem hcovers haccepts hconverts

theorem settles_process (horderly : l.Orderly) (id : String) :
    Settles l (l.serveBy clock (process settings now id)).state := by
  cases hstored : l.transaction? id with
  | none =>
      rw [(serveBy_process_of_none settings now clock hstored).2]
      exact settles_refl l
  | some t =>
      rcases serveBy_process_of_some settings now clock hstored with ⟨k, _, hstate⟩
      rw [hstate]
      exact settles_reconcile settings now _ horderly (copied_of_transaction? hstored)

theorem serveBy_processAll_induction {P : Ledger → Prop}
    (hstep : ∀ (l : Ledger) (clock : Nat → Timestamp) (id : String), P l →
      P (l.serveBy clock (process settings now id)).state)
    (ids : List String) (h : P l) :
    P (l.serveBy clock (processAll settings now ids)).state := by
  induction ids generalizing l clock with
  | nil => exact h
  | cons id ids ih =>
      have hfirst := hstep l clock id h
      show P (l.serveBy clock ((process settings now id).settle >>= fun result =>
        processAll settings now ids >>= fun results => pure ((id, result) :: results))).state
      unfold serveBy at hfirst ⊢
      rw [serve_bind, serve_settle]
      simp only [serve_bind_pure]
      exact ih (fun n => clock (n + _)) hfirst

end Clock

end Ledger
end BankFeed
