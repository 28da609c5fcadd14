import BankFeed.Proofs.Reconciliation.Mirror

/-!
# Batches

A batch reconciles one transaction after the other. The others do not see the reconciliation of one
id, and a second one of the same id changes nothing. So every id gets the report that it would get
on its own, and neither the order of the ids nor their repetition matters.
-/

namespace BankFeed

open Reconciliation

namespace Ledger

variable {l l' l'' l₁ l₁' : Ledger} {settings : Settings} {ids ids' : List String} {id : String}
  {reports reports' : Reports}

inductive Batch (settings : Settings) : Ledger → List String → Reports → Ledger → Prop where
  | nil (l : Ledger) : Batch settings l [] [] l
  | cons {l l' : Ledger} {ids : List String} {reports : Reports} (id : String)
      (made written : Timestamp)
      (rest : Batch settings (l.processed settings made written id) ids reports l') :
      Batch settings l (id :: ids)
        ((id, (l.processed settings made written id).report id) :: reports) l'

theorem serveBy_processAll_cons (l : Ledger) (settings : Settings) (now : Timestamp)
    (clock : Nat → Timestamp) (id : String) (ids : List String) :
    ∃ clock' : Nat → Timestamp,
      let first := l.serveBy clock (process settings now id)
      let rest := first.state.serveBy clock' (processAll settings now ids)
      (l.serveBy clock (processAll settings now (id :: ids))).result =
        rest.result.map (fun reports => (id, first.result) :: reports) ∧
      (l.serveBy clock (processAll settings now (id :: ids))).state = rest.state := by
  refine ⟨fun n => clock (n + (l.serveBy clock (process settings now id)).history.length), ?_⟩
  show (l.serveBy clock ((process settings now id).settle >>= fun result =>
      processAll settings now ids >>= fun results => pure ((id, result) :: results))).result = _ ∧
    (l.serveBy clock ((process settings now id).settle >>= fun result =>
      processAll settings now ids >>= fun results => pure ((id, result) :: results))).state = _
  unfold serveBy
  rw [serve_bind, serve_settle]
  simp only [serve_bind_pure]
  exact ⟨rfl, rfl⟩

theorem serveBy_processAll (l : Ledger) (settings : Settings) (now : Timestamp)
    (clock : Nat → Timestamp) (ids : List String) :
    ∃ reports, (l.serveBy clock (processAll settings now ids)).result = .ok reports ∧
      Batch settings l ids reports (l.serveBy clock (processAll settings now ids)).state := by
  induction ids generalizing l clock with
  | nil => exact ⟨[], rfl, .nil l⟩
  | cons id ids ih =>
      rcases serveBy_processAll_cons l settings now clock id ids with ⟨clock', hresult, hstate⟩
      rcases serveBy_process l settings now clock id with ⟨made, written, hfirst, hreport⟩
      rcases ih (l.serveBy clock (process settings now id)).state clock' with
        ⟨reports, hreports, hbatch⟩
      refine ⟨_, hresult.trans (congrArg _ hreports), ?_⟩
      rw [hstate, hreport]
      rw [hfirst] at hbatch ⊢
      exact .cons id made written hbatch

namespace Batch

theorem ids_eq (h : Batch settings l ids reports l') : reports.map Prod.fst = ids := by
  induction h with
  | nil l => rfl
  | cons id made written rest ih => exact congrArg (List.cons id) ih

theorem orderly (h : Batch settings l ids reports l') (horderly : l.Orderly) : l'.Orderly := by
  induction h with
  | nil l => exact horderly
  | cons id made written rest ih => exact ih (horderly.processed settings made written id)

theorem terms_eq (h : Batch settings l ids reports l') :
    l'.rules = l.rules ∧ l'.invoices = l.invoices := by
  induction h with
  | nil l => exact ⟨rfl, rfl⟩
  | @cons l _ _ _ id made written rest ih =>
      rw [rules_processed, invoices_processed] at ih
      exact ih

theorem expenses_subset (h : Batch settings l ids reports l') : l.expenses ⊆ l'.expenses := by
  induction h with
  | nil l => exact List.Subset.refl _
  | @cons l _ _ _ id made written rest ih =>
      exact List.Subset.trans (expenses_subset_processed l settings made written id) ih

/-!
## One id of a batch
-/

theorem sameView_processed_of_ne {other : String} (h : other ≠ id) (l : Ledger)
    (settings : Settings) (made written : Timestamp) :
    SameView (fun _ => True) (· = id) l (l.processed settings made written other) := by
  apply sameView_processed
  exact h

theorem sameView_of_not_mem (h : Batch settings l ids reports l') (hid : id ∉ ids) :
    SameView (fun _ => True) (· = id) l l' := by
  induction h with
  | nil l => exact sameView_refl _ _ l
  | @cons l _ _ _ first made written rest ih =>
      rw [List.mem_cons, not_or] at hid
      exact (sameView_processed_of_ne (Ne.symm hid.1) l settings made written).trans (ih hid.2)

theorem sameView_of_atRest (h : Batch settings l ids reports l') (hrest : AtRest l settings id) :
    SameView (fun _ => True) (· = id) l l' := by
  induction h with
  | nil l => exact sameView_refl _ _ l
  | @cons l _ _ _ first made written rest ih =>
      by_cases heq : first = id
      · subst heq
        rw [hrest.processed made written] at ih
        exact ih hrest
      · have hview := sameView_processed_of_ne heq l settings made written
        exact hview.trans (ih (hrest.of_sameView hview rfl))

/-- Of an id in the batch one reconciliation is seen, the first one. -/
theorem processed_of_mem (h : Batch settings l ids reports l') (horderly : l.Orderly)
    (hid : id ∈ ids) :
    ∃ l₁ made written, l₁.Orderly ∧ l.expenses ⊆ l₁.expenses ∧
      SameView (fun _ => True) (· = id) l l₁ ∧
      SameView (fun _ => True) (· = id) (l₁.processed settings made written id) l' := by
  induction h with
  | nil l => cases hid
  | @cons l _ _ _ first made written rest ih =>
      by_cases heq : first = id
      · subst heq
        -- Afterwards the id is at rest, so what is left of the batch goes unseen by it.
        exact ⟨l, made, written, horderly, List.Subset.refl _, sameView_refl _ _ l,
          rest.sameView_of_atRest (atRest_processed l settings made written first)⟩
      · rcases ih (horderly.processed settings made written first)
          ((List.mem_cons.mp hid).resolve_left (Ne.symm heq)) with
          ⟨l₁, made₁, written₁, horderly₁, hsubset, hview, hview₁⟩
        exact ⟨l₁, made₁, written₁, horderly₁,
          List.Subset.trans (expenses_subset_processed l settings made written first) hsubset,
          (sameView_processed_of_ne heq l settings made written).trans hview, hview₁⟩

theorem report_eq (h : Batch settings l ids reports l') {r : Except Failure Outcome}
    (hr : (id, r) ∈ reports) : r = l'.report id := by
  induction h with
  | nil l => cases hr
  | @cons l _ _ _ first made written rest ih =>
      rcases List.mem_cons.mp hr with hhead | htail
      · injection hhead with hfirst hreport
        subst hfirst
        have hview := rest.sameView_of_atRest (atRest_processed l settings made written id)
        exact hreport.trans (hview.report_eq rfl).symm
      · exact ih htail

/-!
## Batches from the same ledger
-/

theorem mirrors_id (h : Batch settings l ids reports l') (h' : Batch settings l ids' reports' l'')
    (horderly : l.Orderly) (hsame : id ∈ ids' ↔ id ∈ ids) :
    ∃ rename, (∀ e ∈ l.expenses, rename e.id = e.id) ∧
      Mirrors (fun _ => True) (· = id) (fun t => l.transaction? t.id = some t) rename l' l'' := by
  have hself : Mirrors (fun _ => True) (· = id) (fun t => l.transaction? t.id = some t)
      (fun x => x) l l := by
    apply mirrors_self
    intro id t _ hstored
    rw [id_of_transaction? hstored]
    exact ⟨hstored, trivial⟩
  by_cases hid : id ∈ ids
  -- What comes before and after its first reconciliation goes unseen by the id on both sides.
  · rcases h.processed_of_mem horderly hid with
      ⟨l₁, made, written, horderly₁, hsubset, hbefore, hafter⟩
    rcases h'.processed_of_mem horderly (hsame.mpr hid) with
      ⟨l₁', made', written', _, _, hbefore', hafter'⟩
    rcases (hself.of_sameView hbefore hbefore').processed horderly₁ rfl settings made written
      made' written' with ⟨rename, hextends, hmirrors⟩
    exact ⟨rename, fun e he => hextends.agrees e (hsubset he),
      hmirrors.of_sameView hafter hafter'⟩
  · exact ⟨fun x => x, fun _ _ => rfl, hself.of_sameView (h.sameView_of_not_mem hid)
      (h'.sameView_of_not_mem fun hid' => hid (hsame.mp hid'))⟩

theorem mirrors (h : Batch settings l ids reports l') (h' : Batch settings l ids' reports' l'')
    (horderly : l.Orderly) (hsame : ∀ id, id ∈ ids' ↔ id ∈ ids) :
    ∃ rename, (∀ e ∈ l.expenses, rename e.id = e.id) ∧
      Mirrors (fun _ => True) (fun _ => True) (fun t => l.transaction? t.id = some t) rename
        l' l'' := by
  -- Every id has a renaming of its own; an expense is renamed as its transaction says.
  choose renames hkept hmirrors using fun id => h.mirrors_id h' horderly (hsame id)
  have horderly' := h.orderly horderly
  refine ⟨l'.renameEach renames, ?_, .of_each horderly' hmirrors⟩
  intro e he
  rw [renameEach_of_mem horderly' renames (h.expenses_subset he)]
  exact hkept _ e he

end Batch
end Ledger

open Ledger

/-- A batch has a report for every id in its place, and the same one wherever an id is repeated. It
is the report of this id alone, up to the id of a new expense. The same ids in any other order come
to the same reports and the same ledger, up to a renaming of new expenses and the times of
settlement. -/
theorem batches_agree {l : Ledger} (h : l.Reachable) (settings : Settings) (now : Timestamp)
    (clock : Nat → Timestamp) (ids : List String) :
    let given := fun t => l.transaction? t.id = some t
    let batch := l.serveBy clock (processAll settings now ids)
    ∃ reports, batch.result = .ok reports ∧ reports.map Prod.fst = ids ∧
      (∀ r ∈ reports, ∀ s ∈ reports, r.1 = s.1 → r = s) ∧
      (∀ r ∈ reports, ∀ (now' : Timestamp) (clock' : Nat → Timestamp),
        let alone := l.serveBy clock' (process settings now' r.1)
        ∃ rename : String → String, (∀ e ∈ l.expenses, rename e.id = e.id) ∧
          SameReport given rename batch.state.expenses r.2 alone.result ∧
          Mirrors (fun _ => True) (· = r.1) given rename batch.state alone.state) ∧
      ∀ (ids' : List String) (now' : Timestamp) (clock' : Nat → Timestamp), ids'.Perm ids →
        let batch' := l.serveBy clock' (processAll settings now' ids')
        ∃ reports', batch'.result = .ok reports' ∧
          ∃ rename : String → String, (∀ e ∈ l.expenses, rename e.id = e.id) ∧
            Set.InjOn rename {x | ∃ e ∈ batch.state.expenses, e.id = x} ∧
            (∀ r ∈ reports, ∀ r' ∈ reports', r.1 = r'.1 →
              SameReport given rename batch.state.expenses r.2 r'.2) ∧
            Mirrors (fun _ => True) (fun _ => True) given rename batch.state batch'.state ∧
            batch'.state.rules = batch.state.rules ∧
            batch'.state.invoices = batch.state.invoices := by
  intro given batch
  rcases serveBy_processAll l settings now clock ids with ⟨reports, hreports, hbatch⟩
  refine ⟨reports, hreports, hbatch.ids_eq, ?_, ?_, ?_⟩
  · rintro ⟨id, r⟩ hr ⟨_, s⟩ hs rfl
    rw [hbatch.report_eq hr, hbatch.report_eq hs]
  · rintro ⟨id, r⟩ hr now' clock' alone
    rcases serveBy_process l settings now' clock' id with ⟨made, written, hstate, hresult⟩
    have hmem : id ∈ ids := hbatch.ids_eq ▸ List.mem_map_of_mem hr
    rcases hbatch.mirrors_id (.cons id made written (.nil _)) h.orderly
      (iff_of_true (List.mem_singleton_self id) hmem) with ⟨rename, hkept, hmirrors⟩
    refine ⟨rename, hkept, ?_, hstate ▸ hmirrors⟩
    rw [hbatch.report_eq hr]
    exact hresult ▸ hmirrors.report rfl
  · intro ids' now' clock' hperm batch'
    rcases serveBy_processAll l settings now' clock' ids' with ⟨reports', hreports', hbatch'⟩
    rcases hbatch.mirrors hbatch' h.orderly (fun _ => hperm.mem_iff) with
      ⟨rename, hkept, hmirrors⟩
    refine ⟨reports', hreports', rename, hkept, ?_, ?_, hmirrors, ?_, ?_⟩
    · apply (hmirrors.injOn (hbatch'.orderly h.orderly)).mono
      rintro x ⟨e, he, hx⟩
      exact ⟨e, he, trivial, hx⟩
    · rintro ⟨id, r⟩ hr ⟨_, r'⟩ hr' rfl
      rw [hbatch.report_eq hr, hbatch'.report_eq hr']
      exact hmirrors.report trivial
    · exact hbatch'.terms_eq.1.trans hbatch.terms_eq.1.symm
    · exact hbatch'.terms_eq.2.trans hbatch.terms_eq.2.symm

namespace Payment

def twoPayments : Ledger :=
  Ledger.empty .numbered
    |>.insertRule converting
    |>.insertTransaction payment
    |>.insertTransaction { payment with id := "t-2" }

theorem reachable_twoPayments : twoPayments.Reachable :=
  (((Ledger.Reachable.empty _).insertRule converting).insertTransaction payment).insertTransaction _

/-- In the one order the second payment takes the first expense, in the other one the second. -/
theorem batches_agree_twoPayments :
    twoPayments.Reachable ∧
      let batch := twoPayments.serveBy (fun _ => midnight)
        (processAll .standard midnight ["t-2", "t-9", "t-1", "t-2"])
      let batch' := twoPayments.serveBy (fun _ => midnight)
        (processAll .standard midnight ["t-1", "t-2", "t-2", "t-9"])
      ∃ rename : String → String, rename "expense-1" = "expense-2" ∧
        Mirrors (fun _ => True) (fun _ => True) (fun t => twoPayments.transaction? t.id = some t)
          rename batch.state batch'.state := by
  refine ⟨reachable_twoPayments, ?_⟩
  rcases batches_agree reachable_twoPayments .standard midnight (fun _ => midnight)
    ["t-2", "t-9", "t-1", "t-2"] with ⟨_, _, _, _, _, hpermuted⟩
  rcases hpermuted ["t-1", "t-2", "t-2", "t-9"] midnight (fun _ => midnight) (by decide) with
    ⟨_, _, rename, _, _, _, hmirrors, _⟩
  refine ⟨rename, ?_, hmirrors⟩
  have hids : ((twoPayments.serveBy (fun _ => midnight)
      (processAll .standard midnight ["t-2", "t-9", "t-1", "t-2"])).state.expensesFor "t-2").map
        (·.id) = ["expense-1"] := by cbv
  have hids' : ((twoPayments.serveBy (fun _ => midnight)
      (processAll .standard midnight ["t-1", "t-2", "t-2", "t-9"])).state.expensesFor "t-2").map
        (·.id) = ["expense-2"] := by cbv
  have hrenamed := hmirrors.expenseIds "t-2" trivial
  rw [hids, hids'] at hrenamed
  exact (List.head_eq_of_cons_eq hrenamed).symm

end Payment
end BankFeed
