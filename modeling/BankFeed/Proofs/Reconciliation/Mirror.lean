import BankFeed.Proofs.Reconciliation.View
import Mathlib

/-!
# Ledgers that mirror each other

The same reconciliation on two ledgers that look the same reads its times off two clocks and gives
its expense two ids. What is done alike on both keeps them the same up to these times and a renaming
of expenses, and the renaming of an expense stays once it is there.
-/

namespace BankFeed
namespace Ledger

/-!
## Counterparts
-/

/-- A transaction beside these expenses and what stands for it where they are renamed: it is as it
was given, or it was settled alike in both places. -/
inductive Counterpart (given : Transaction → Prop) (rename : String → String)
    (expenses : List Expense) : Transaction → Transaction → Prop where
  | given {t : Transaction} (h : given t) : Counterpart given rename expenses t t
  | linked {t : Transaction} (matched : t.status = .matched) (written : Timestamp) :
      Counterpart given rename expenses t { t with updatedAt := written }
  | converted {t : Transaction} {e : Expense} (status : t.status = .converted)
      (mem : e ∈ expenses) (made : e.draft.transactionId = t.id)
      (names : t.expenseId = some e.id) (written : Timestamp) :
      Counterpart given rename expenses t
        { t with expenseId := some (rename e.id), updatedAt := written }

inductive SameReport (given : Transaction → Prop) (rename : String → String)
    (expenses : List Expense) : Except Failure Outcome → Except Failure Outcome → Prop where
  | failed (e : Failure) : SameReport given rename expenses (.error e) (.error e)
  | told {t t' : Transaction} (h : Counterpart given rename expenses t t') :
      SameReport given rename expenses (.ok t.outcome) (.ok t'.outcome)

/-- How a renaming goes on while expenses are added. -/
structure Extends (expenses : List Expense) (rename : String → String) (expenses₁ : List Expense)
    (rename₁ : String → String) : Prop where
  grows : expenses ⊆ expenses₁
  agrees : ∀ e ∈ expenses, rename₁ e.id = rename e.id

variable {given : Transaction → Prop} {rename rename₁ rename₂ : String → String}
  {expenses expenses₁ expenses₂ : List Expense} {l l' l₁ l₁' : Ledger} {t t' : Transaction}
  {tenants ids : String → Prop} {id : String}

theorem extends_of_subset (h : expenses ⊆ expenses₁) (rename : String → String) :
    Extends expenses rename expenses₁ rename :=
  ⟨h, fun _ _ => rfl⟩

theorem Extends.trans (h : Extends expenses rename expenses₁ rename₁)
    (h₁ : Extends expenses₁ rename₁ expenses₂ rename₂) :
    Extends expenses rename expenses₂ rename₂ where
  grows := List.Subset.trans h.grows h₁.grows
  agrees := by
    intro e he
    rw [h₁.agrees e (h.grows he), h.agrees e he]

namespace Counterpart

theorem id_eq (h : Counterpart given rename expenses t t') : t'.id = t.id := by
  cases h <;> rfl

theorem status_eq (h : Counterpart given rename expenses t t') : t'.status = t.status := by
  cases h <;> rfl

theorem eq_of_unmatched (h : Counterpart given rename expenses t t')
    (hstatus : t.status = .unmatched) : t' = t := by
  cases h with
  | given h => rfl
  | linked matched written =>
      rw [hstatus] at matched
      cases matched
  | converted status mem made names written =>
      rw [hstatus] at status
      cases status

theorem mono (h : Counterpart given rename expenses t t')
    (hkept : ∀ e ∈ expenses, e.draft.transactionId = t.id →
      e ∈ expenses₁ ∧ rename₁ e.id = rename e.id) :
    Counterpart given rename₁ expenses₁ t t' := by
  cases h with
  | given h => exact .given h
  | linked matched written => exact .linked matched written
  | converted status mem made names written =>
      rcases hkept _ mem made with ⟨hmem, hname⟩
      rw [← hname]
      exact .converted status hmem made names written

theorem extend (h : Counterpart given rename expenses t t')
    (hextends : Extends expenses rename expenses₁ rename₁) :
    Counterpart given rename₁ expenses₁ t t' :=
  h.mono fun e he _ => ⟨hextends.grows he, hextends.agrees e he⟩

end Counterpart

theorem SameReport.extend {r r' : Except Failure Outcome}
    (h : SameReport given rename expenses r r')
    (hextends : Extends expenses rename expenses₁ rename₁) :
    SameReport given rename₁ expenses₁ r r' := by
  cases h with
  | failed e => exact .failed e
  | told h => exact .told (h.extend hextends)

/-!
## Mirrors
-/

/-- For those who look at some ids and at the terms of some tenants, one ledger is the other one
with its expenses renamed. What they look at belongs to these tenants. -/
structure Mirrors (tenants ids : String → Prop) (given : Transaction → Prop)
    (rename : String → String) (l l' : Ledger) : Prop extends SameTerms tenants l l' where
  records : ∀ id, ids id →
    Option.Rel (Counterpart given rename l.expenses) (l.transaction? id) (l'.transaction? id)
  expenses : ∀ id, ids id → (l'.expensesFor id).map (fun e => (e.id, e.draft)) =
    (l.expensesFor id).map fun e => (rename e.id, e.draft)
  owned : ∀ id t, ids id → l.transaction? id = some t → tenants t.tenantId

theorem mirrors_self
    (h : ∀ id t, ids id → l.transaction? id = some t → given t ∧ tenants t.tenantId) :
    Mirrors tenants ids given (fun x => x) l l where
  toSameTerms := .of_eq rfl rfl
  records := by
    intro id hid
    cases hstored : l.transaction? id with
    | none => exact .none
    | some t => exact .some (.given (h id t hid hstored).1)
  expenses := fun _ _ => rfl
  owned := fun id t hid hstored => (h id t hid hstored).2

theorem mirrors_empty (supply supply' : IdSupply) :
    Mirrors tenants ids given rename (empty supply) (empty supply') where
  toSameTerms := .of_eq rfl rfl
  records := fun _ _ => .none
  expenses := fun _ _ => rfl
  owned := by
    intro id t _ hstored
    cases hstored

namespace Mirrors

theorem record_of_some (h : Mirrors tenants ids given rename l l') (hid : ids id)
    (hstored : l.transaction? id = some t) :
    ∃ t', l'.transaction? id = some t' ∧ Counterpart given rename l.expenses t t' := by
  have hrecords := h.records id hid
  rw [hstored] at hrecords
  cases hstored' : l'.transaction? id with
  | none =>
      rw [hstored'] at hrecords
      cases hrecords
  | some t' =>
      rw [hstored'] at hrecords
      cases hrecords with
      | some hpair => exact ⟨t', rfl, hpair⟩

theorem record_of_none (h : Mirrors tenants ids given rename l l') (hid : ids id)
    (hstored : l.transaction? id = none) : l'.transaction? id = none := by
  have hrecords := h.records id hid
  rw [hstored] at hrecords
  cases hstored' : l'.transaction? id with
  | none => rfl
  | some t' =>
      rw [hstored'] at hrecords
      cases hrecords

theorem report (h : Mirrors tenants ids given rename l l') (hid : ids id) :
    SameReport given rename l.expenses (l.report id) (l'.report id) := by
  cases hstored : l.transaction? id with
  | none =>
      rw [report_of_none hstored, report_of_none (h.record_of_none hid hstored)]
      exact .failed _
  | some t =>
      rcases h.record_of_some hid hstored with ⟨t', hstored', hpair⟩
      rw [report_of_some hstored, report_of_some hstored']
      exact .told hpair

theorem expenseIds (h : Mirrors tenants ids given rename l l') (id : String) (hid : ids id) :
    (l'.expensesFor id).map (·.id) = ((l.expensesFor id).map (·.id)).map rename := by
  have hpairs := congrArg (List.map Prod.fst) (h.expenses id hid)
  rw [List.map_map, List.map_map] at hpairs
  rw [List.map_map]
  exact hpairs

theorem injOn (h : Mirrors tenants ids given rename l l') (horderly' : l'.Orderly) :
    Set.InjOn rename {x | ∃ e ∈ l.expenses, ids e.draft.transactionId ∧ e.id = x} := by
  rintro _ ⟨e₁, hmem₁, hid₁, rfl⟩ _ ⟨e₂, hmem₂, hid₂, rfl⟩ hsame
  have himage : ∀ e ∈ l.expenses, ids e.draft.transactionId →
      ∃ e' ∈ l'.expenses, e'.id = rename e.id ∧ e'.draft = e.draft := by
    intro e hmem hid
    have hpair : (rename e.id, e.draft) ∈
        (l.expensesFor e.draft.transactionId).map fun e => (rename e.id, e.draft) :=
      List.mem_map_of_mem (mem_expensesFor.mpr ⟨hmem, rfl⟩)
    rw [← h.expenses _ hid] at hpair
    rcases List.mem_map.mp hpair with ⟨e', he', heq⟩
    injection heq with hname hdraft
    exact ⟨e', (mem_expensesFor.mp he').1, hname, hdraft⟩
  rcases himage e₁ hmem₁ hid₁ with ⟨e₁', hmem₁', hname₁, hdraft₁⟩
  rcases himage e₂ hmem₂ hid₂ with ⟨e₂', hmem₂', hname₂, hdraft₂⟩
  have hdraft : e₁.draft = e₂.draft := by
    rw [← hdraft₁, ← hdraft₂]
    exact congrArg Expense.draft
      (horderly'.eq_of_expense_id hmem₁' hmem₂' (by rw [hname₁, hname₂, hsame]))
  -- Both are expenses of one transaction, whose images have no id in common.
  have hnodup : ((l.expensesFor e₁.draft.transactionId).map
      fun e => (rename e.id, e.draft)).Nodup := by
    rw [← h.expenses _ hid₁]
    have hids : ((l'.expensesFor e₁.draft.transactionId).map (·.id)).Nodup :=
      horderly'.expenseIds.sublist (List.filter_sublist.map _)
    have hmap : ((l'.expensesFor e₁.draft.transactionId).map
        (fun e => (e.id, e.draft))).map Prod.fst =
          (l'.expensesFor e₁.draft.transactionId).map (·.id) := by
      rw [List.map_map]
      rfl
    exact List.Nodup.of_map Prod.fst (hmap ▸ hids)
  have he : e₁ = e₂ := by
    apply List.inj_on_of_nodup_map hnodup
    · exact mem_expensesFor.mpr ⟨hmem₁, rfl⟩
    · exact mem_expensesFor.mpr ⟨hmem₂, by rw [hdraft]⟩
    · rw [hsame, hdraft]
  rw [he]

/-!
## What keeps ledgers mirrors of each other
-/

theorem of_sameView (h : Mirrors tenants ids given rename l l')
    (hview : SameView tenants ids l l₁) (hview' : SameView tenants ids l' l₁') :
    Mirrors tenants ids given rename l₁ l₁' where
  toSameTerms := (hview.toSameTerms.symm.trans h.toSameTerms).trans hview'.toSameTerms
  records := by
    intro id hid
    rw [hview.records id hid, hview'.records id hid]
    cases hstored : l.transaction? id with
    | none =>
        rw [h.record_of_none hid hstored]
        exact .none
    | some t =>
        rcases h.record_of_some hid hstored with ⟨t', hstored', hpair⟩
        rw [hstored']
        have hown : ids t.id := by
          rw [id_of_transaction? hstored]
          exact hid
        refine .some (hpair.mono fun e he hmade => ⟨?_, rfl⟩)
        have hkept := mem_expensesFor.mpr ⟨he, hmade⟩
        rw [← hview.expenses t.id hown] at hkept
        exact (mem_expensesFor.mp hkept).1
  expenses := by
    intro id hid
    rw [hview.expenses id hid, hview'.expenses id hid]
    exact h.expenses id hid
  owned := by
    intro id t hid hstored
    rw [hview.records id hid] at hstored
    exact h.owned id t hid hstored

theorem insertRule (h : Mirrors tenants ids given rename l l') (rule : Rule) :
    Mirrors tenants ids given rename (l.insertRule rule) (l'.insertRule rule) where
  rules := by
    intro tenantId htenant
    simp only [Ledger.insertRule, List.filter_append, h.rules tenantId htenant]
  invoices := h.invoices
  records := h.records
  expenses := h.expenses
  owned := h.owned

theorem insertInvoice (h : Mirrors tenants ids given rename l l') (invoice : Invoice) :
    Mirrors tenants ids given rename (l.insertInvoice invoice) (l'.insertInvoice invoice) where
  rules := h.rules
  invoices := by
    intro tenantId htenant
    simp only [Ledger.insertInvoice, List.filter_append, h.invoices tenantId htenant]
  records := h.records
  expenses := h.expenses
  owned := h.owned

theorem insertTransaction (h : Mirrors tenants ids given rename l l')
    (hpair : Counterpart given rename l.expenses t t') (htenant : tenants t.tenantId) :
    Mirrors tenants ids given rename (l.insertTransaction t) (l'.insertTransaction t') where
  toSameTerms := ⟨h.rules, h.invoices⟩
  records := by
    intro id hid
    rw [transaction?_insertTransaction, transaction?_insertTransaction, hpair.id_eq]
    by_cases heq : t.id = id
    · rw [if_pos heq, if_pos heq]
      exact .some hpair
    · rw [if_neg heq, if_neg heq]
      exact h.records id hid
  expenses := h.expenses
  owned := by
    intro id s hid hs
    rw [transaction?_insertTransaction] at hs
    by_cases heq : t.id = id
    · rw [if_pos heq] at hs
      cases hs
      exact htenant
    · rw [if_neg heq] at hs
      exact h.owned id s hid hs

/-- The next expense on either side is a new one, so the renaming goes on to it. -/
theorem createExpense (h : Mirrors tenants ids given rename l l') (horderly : l.Orderly)
    (made made' : Timestamp) (draft : ExpenseDraft) :
    let rename₁ := Function.update rename l.ids.first l'.ids.first
    Extends l.expenses rename (l.createExpense made draft).2.expenses rename₁ ∧
      Mirrors tenants ids given rename₁ (l.createExpense made draft).2
        (l'.createExpense made' draft).2 := by
  intro rename₁
  have hold : ∀ e ∈ l.expenses, rename₁ e.id = rename e.id := by
    intro e he
    exact Function.update_of_ne (horderly.ne_first he) _ _
  have hnew : rename₁ l.ids.first = l'.ids.first :=
    Function.update_self _ _ _
  have hextends : Extends l.expenses rename (l.createExpense made draft).2.expenses rename₁ :=
    ⟨List.subset_append_left _ _, hold⟩
  refine ⟨hextends, ?_⟩
  constructor
  · exact ⟨h.rules, h.invoices⟩
  · intro id hid
    show Option.Rel _ (l.transaction? id) (l'.transaction? id)
    cases hstored : l.transaction? id with
    | none =>
        rw [h.record_of_none hid hstored]
        exact .none
    | some t =>
        rcases h.record_of_some hid hstored with ⟨t', hstored', hpair⟩
        rw [hstored']
        exact .some (hpair.extend hextends)
  · intro id hid
    have hkept : (l.expensesFor id).map (fun e => (rename₁ e.id, e.draft)) =
        (l'.expensesFor id).map fun e => (e.id, e.draft) := by
      rw [h.expenses id hid]
      apply List.map_congr_left
      intro e he
      rw [hold e (mem_expensesFor.mp he).1]
    rw [expensesFor_createExpense, expensesFor_createExpense, List.map_append, List.map_append,
      hkept]
    by_cases hdraft : draft.transactionId = id
    · simp only [if_pos hdraft, List.map_cons, List.map_nil, hnew]
    · simp only [if_neg hdraft, List.map_nil]
  · exact h.owned

theorem settle (h : Mirrors tenants ids given rename l l') (horderly : l.Orderly)
    (htenant : tenants t.tenantId) (settlement : Settlement)
    (made written made' written' : Timestamp) :
    ∃ rename₁, Extends l.expenses rename (l.settle made written t settlement).expenses rename₁ ∧
      Mirrors tenants ids given rename₁ (l.settle made written t settlement)
        (l'.settle made' written' t settlement) := by
  cases settlement with
  | leave => exact ⟨rename, extends_of_subset (List.Subset.refl _) rename, h⟩
  | link invoiceId =>
      refine ⟨rename, extends_of_subset (List.Subset.refl _) rename, ?_⟩
      exact h.insertTransaction
        (.linked (t := t.linkedTo written invoiceId) rfl written') htenant
  | convert rule =>
      rcases h.createExpense horderly made made' (.ofConversion t rule) with ⟨hextends, hcreated⟩
      refine ⟨_, hextends, hcreated.insertTransaction ?_ htenant⟩
      have hpair : Counterpart given
          (Function.update rename l.ids.first l'.ids.first)
          (l.createExpense made (.ofConversion t rule)).2.expenses
          (t.convertedBy written rule l.ids.first) _ :=
        .converted rfl (List.mem_append_right l.expenses (List.mem_singleton_self _)) rfl rfl
          written'
      rw [Function.update_self] at hpair
      exact hpair

/-- The same reconciliation on both sides keeps them mirrors of each other. -/
theorem processed (h : Mirrors tenants ids given rename l l') (horderly : l.Orderly) (hid : ids id)
    (settings : Settings) (made written made' written' : Timestamp) :
    ∃ rename₁,
      Extends l.expenses rename (l.processed settings made written id).expenses rename₁ ∧
      Mirrors tenants ids given rename₁ (l.processed settings made written id)
        (l'.processed settings made' written' id) := by
  cases hstored : l.transaction? id with
  | none =>
      rw [processed_of_none hstored, processed_of_none (h.record_of_none hid hstored)]
      exact ⟨rename, extends_of_subset (List.Subset.refl _) rename, h⟩
  | some t =>
      rcases h.record_of_some hid hstored with ⟨t', hstored', hpair⟩
      by_cases hstatus : t.status = .unmatched
      · cases hpair.eq_of_unmatched hstatus
        have htenant := h.owned id t hid hstored
        rw [processed_of_unmatched hstored hstatus, processed_of_unmatched hstored' hstatus,
          h.toSameTerms.settlement htenant settings]
        exact h.settle horderly htenant _ made written made' written'
      · rw [processed_of_settled hstored hstatus,
          processed_of_settled hstored' (hpair.status_eq ▸ hstatus)]
        exact ⟨rename, extends_of_subset (List.Subset.refl _) rename, h⟩

end Mirrors

/-!
## One renaming for all
-/

def renameEach (l : Ledger) (renames : String → String → String) (x : String) : String :=
  match l.expense? x with
  | some e => renames e.draft.transactionId x
  | none => x

theorem renameEach_of_mem (horderly : l.Orderly) (renames : String → String → String)
    {e : Expense} (he : e ∈ l.expenses) :
    l.renameEach renames e.id = renames e.draft.transactionId e.id := by
  cases hfound : l.expense? e.id with
  | none =>
      have hnone := List.find?_eq_none.mp hfound e he
      simp at hnone
  | some e' =>
      have hid : e'.id = e.id := by
        simpa using List.find?_some hfound
      have hsame := horderly.eq_of_expense_id (List.mem_of_find?_eq_some hfound) he hid
      unfold renameEach
      rw [hfound, hsame]

theorem Mirrors.of_each (horderly : l.Orderly) {renames : String → String → String}
    (h : ∀ id, Mirrors tenants (· = id) given (renames id) l l') :
    Mirrors tenants (fun _ => True) given (l.renameEach renames) l l' where
  toSameTerms := (h "").toSameTerms
  records := by
    intro id _
    cases hstored : l.transaction? id with
    | none =>
        rw [(h id).record_of_none rfl hstored]
        exact .none
    | some t =>
        rcases (h id).record_of_some rfl hstored with ⟨t', hstored', hpair⟩
        rw [hstored']
        refine .some (hpair.mono fun e he hmade => ⟨he, ?_⟩)
        rw [renameEach_of_mem horderly renames he, hmade, id_of_transaction? hstored]
  expenses := by
    intro id _
    rw [(h id).expenses id rfl]
    apply List.map_congr_left
    intro e he
    rcases mem_expensesFor.mp he with ⟨hmem, hmade⟩
    rw [renameEach_of_mem horderly renames hmem, hmade]
  owned := fun id t _ hstored => (h id).owned id t rfl hstored

end Ledger
end BankFeed
