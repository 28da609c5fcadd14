import BankFeed.Proofs.Reconciliation.Shape
import BankFeed.Proofs.Store.Contents
import BankFeed.Proofs.Rule.Order

/-!
# How a transaction is settled

What becomes of an unmatched transaction follows from three things: the invoice that its
description names, the rules that accept it in the order in which they are tried, and the
settings. A reconciliation only reads until it has come to this decision.
-/

namespace BankFeed

inductive Settlement where
  | convert (rule : Rule)
  | link (invoiceId : String)
  | leave
  deriving DecidableEq

namespace Settlement

/-- The decision, from the id of the invoice that the description names and the accepting
rules in their order. -/
def choose (settings : Settings) : Option String → List Rule → Settlement
  | some invoiceId, [] => if settings.creditInvoiceFallback then .link invoiceId else .leave
  | some invoiceId, rule :: _ => if rule.autoConvert then .convert rule else .link invoiceId
  | none, rules =>
      match rules.find? (·.autoConvert) with
      | some rule => .convert rule
      | none => .leave

def run (now : Timestamp) (t : Transaction) : Settlement → Run Transaction
  | .convert rule => Reconciliation.convert now t rule
  | .link invoiceId => Reconciliation.matchInvoice now t invoiceId
  | .leave => .done (.ok t)

variable {settings : Settings}

theorem choose_cons_of_converts {rule : Rule} (h : rule.autoConvert = true)
    (invoiceId : Option String) (rules : List Rule) :
    choose settings invoiceId (rule :: rules) = .convert rule := by
  cases invoiceId with
  | none => simp [choose, h]
  | some invoiceId => simp [choose, h]

theorem choose_none_cons_of_not_converts {rule : Rule} (h : ¬ rule.autoConvert = true)
    (rules : List Rule) :
    choose settings none (rule :: rules) = choose settings none rules := by
  simp [choose, h]

theorem choose_some_cons_of_not_converts {rule : Rule} (h : ¬ rule.autoConvert = true)
    (invoiceId : String) (rules : List Rule) :
    choose settings (some invoiceId) (rule :: rules) = .link invoiceId := by
  simp [choose, h]

end Settlement

def Request.isRead : Request → Bool
  | .getTransaction _ => true
  | .findApplicable _ _ => true
  | .findByNumber _ _ => true
  | .create _ => false
  | .discard _ => false
  | .compareAndSet _ _ _ _ => false

/-- A part of a history in which every call only read and did not fail. -/
def Undisturbed (history : List Exchange) : Prop :=
  ∀ x ∈ history, x.request.isRead = true ∧ x.result.isOk = true

theorem undisturbed_nil : Undisturbed [] := by
  intro x hx
  cases hx

theorem Undisturbed.cons {x : Exchange} {history : List Exchange}
    (hread : x.request.isRead = true) (hok : x.result.isOk = true)
    (hhistory : Undisturbed history) : Undisturbed (x :: history) := by
  intro y hy
  rcases List.mem_cons.mp hy with hfirst | hrest
  · rw [hfirst]
    exact ⟨hread, hok⟩
  · exact hhistory y hrest

namespace Ledger

variable {α : Type}

def invoiceFor (l : Ledger) (t : Transaction) : Option String :=
  if t.direction = .credit ∧ t.descriptionOrEmpty ≠ "" then
    (l.invoice? t.tenantId t.descriptionOrEmpty).map (·.id)
  else none

theorem invoiceFor_eq (l : Ledger) (t : Transaction) :
    l.invoiceFor t = Option.map Invoice.id
      (if t.direction = .credit ∧ t.descriptionOrEmpty ≠ "" then
        l.invoices.find? fun invoice => invoice.tenantId = t.tenantId ∧
          Text.lower invoice.number.toList = Text.lower t.descriptionOrEmpty.toList
      else none) := by
  have hnumbered : (fun invoice : Invoice =>
      decide (invoice.tenantId = t.tenantId) && invoice.hasNumber t.descriptionOrEmpty) =
        fun invoice => decide (invoice.tenantId = t.tenantId ∧
          Text.lower invoice.number.toList = Text.lower t.descriptionOrEmpty.toList) := by
    funext invoice
    apply Bool.eq_iff_iff.mpr
    simp [Invoice.hasNumber_iff]
  unfold invoiceFor invoice?
  rw [hnumbered]
  split
  · rfl
  · rfl

def settlement (l : Ledger) (settings : Settings) (t : Transaction) : Settlement :=
  .choose settings (l.invoiceFor t)
    ((Rule.applicable t.tenantId t.direction l.rules).filter (·.accepts t))

/-!
## Reading

The calls before the decision read, they pass failures on, and the ledger's answers lead to
what is left after the decision.
-/

/-- A run that first reads from the ledger and then goes on as another run. -/
inductive ReadsTo (l : Ledger) : Run α → Run α → Prop where
  | refl (run : Run α) : ReadsTo l run run
  | ask {q : Request} {resume : q.Result → Run α} {run : Run α} (answer : q.Answer)
      (reads : q.isRead = true) (answered : ∀ now, l.answer now q = (.ok answer, l))
      (fails : ∀ e, resume (.error e) = .done (.error e))
      (next : ReadsTo l (resume (.ok answer)) run) : ReadsTo l (.ask q resume) run

namespace ReadsTo

variable {l : Ledger} {run run' : Run α}

/-- Under any fates a run that reads either meets its first failure while it reads, or it goes
on as the other run with the fates that are left. -/
theorem serve (h : ReadsTo l run run') (fates : Nat → Fate) :
    (∃ history q e, l.serve fates run = ⟨.error e, l, history ++ [⟨q, .error e⟩]⟩ ∧
      q.isRead = true ∧ (∃ n, fates n = .error e) ∧ Undisturbed history) ∨
    ∃ history k, l.serve fates run =
        (l.serve (fun n => fates (n + k)) run').following history ∧ Undisturbed history := by
  induction h generalizing fates with
  | refl run => exact .inr ⟨[], 0, rfl, undisturbed_nil⟩
  | @ask q resume run answer reads answered fails next ih =>
      cases hfate : fates 0 with
      | error e =>
          left
          refine ⟨[], q, e, ?_, reads, ⟨0, hfate⟩, undisturbed_nil⟩
          rw [serve_ask_of_error hfate, fails e]
          rfl
      | ok now =>
          have hserve : l.serve fates (.ask q resume) =
              (l.serve (later fates) (resume (.ok answer))).following [⟨q, .ok answer⟩] := by
            rw [serve_ask_of_ok hfate, answered now]
          rcases ih (later fates) with ⟨history, q', e, heq, hq', ⟨n, hn⟩, hhistory⟩ |
            ⟨history, k, heq, hhistory⟩
          · left
            refine ⟨⟨q, .ok answer⟩ :: history, q', e, ?_, hq', ⟨n + 1, hn⟩,
              hhistory.cons reads rfl⟩
            rw [hserve, heq]
            rfl
          · right
            refine ⟨⟨q, .ok answer⟩ :: history, k + 1, ?_, hhistory.cons reads rfl⟩
            rw [hserve, heq]
            rfl

theorem serveBy (h : ReadsTo l run run') (clock : Nat → Timestamp) :
    ∃ history k, l.serveBy clock run =
      (l.serveBy (fun n => clock (n + k)) run').following history := by
  rcases h.serve (fun n => .ok (clock n)) with ⟨_, _, e, _, _, ⟨n, hn⟩, _⟩ |
    ⟨history, k, heq, _⟩
  · cases hn
  · exact ⟨history, k, heq⟩

end ReadsTo

section Decision

variable (l : Ledger) (settings : Settings) (now : Timestamp)

theorem readsTo_lookUp_of_none {t : Transaction} {missed run : Run Transaction}
    (hcredit : t.direction = .credit) (hnone : l.invoiceFor t = none)
    (hmissed : ReadsTo l missed run) :
    ReadsTo l (Reconciliation.lookUp now t missed) run := by
  unfold Reconciliation.lookUp
  by_cases hempty : t.descriptionOrEmpty = ""
  · rw [if_pos hempty]
    exact hmissed
  · rw [if_neg hempty]
    rw [invoiceFor, if_pos ⟨hcredit, hempty⟩] at hnone
    refine .ask none rfl ?_ (fun e => rfl) hmissed
    intro now
    rw [← hnone]
    rfl

theorem readsTo_lookUp_of_some {t : Transaction} {missed : Run Transaction} {invoiceId : String}
    (hsome : l.invoiceFor t = some invoiceId) :
    ReadsTo l (Reconciliation.lookUp now t missed)
      (Reconciliation.matchInvoice now t invoiceId) := by
  unfold invoiceFor at hsome
  by_cases hnamed : t.direction = .credit ∧ t.descriptionOrEmpty ≠ ""
  · rw [if_pos hnamed] at hsome
    unfold Reconciliation.lookUp
    rw [if_neg hnamed.2]
    refine .ask (some invoiceId) rfl ?_ (fun e => rfl) (.refl _)
    intro now
    rw [← hsome]
    rfl
  · rw [if_neg hnamed] at hsome
    cases hsome

theorem invoiceFor_of_not_credit {t : Transaction} (h : ¬ t.direction = .credit) :
    l.invoiceFor t = none := by
  unfold invoiceFor
  rw [if_neg]
  intro hnamed
  exact h hnamed.1

theorem readsTo_fallBack (t : Transaction) :
    ReadsTo l (Reconciliation.fallBack settings now t)
      ((Settlement.choose settings (l.invoiceFor t) []).run now t) := by
  unfold Reconciliation.fallBack
  by_cases hcredit : t.direction = .credit
  · cases hinvoice : l.invoiceFor t with
    | none =>
        by_cases hfallback : settings.creditInvoiceFallback = true
        · rw [if_pos ⟨hcredit, hfallback⟩]
          exact readsTo_lookUp_of_none l now hcredit hinvoice (.refl _)
        · rw [if_neg (fun h => hfallback h.2)]
          exact .refl _
    | some invoiceId =>
        by_cases hfallback : settings.creditInvoiceFallback = true
        · rw [if_pos ⟨hcredit, hfallback⟩]
          simp only [Settlement.choose, if_pos hfallback]
          exact readsTo_lookUp_of_some l now hinvoice
        · rw [if_neg (fun h => hfallback h.2)]
          simp only [Settlement.choose, if_neg hfallback]
          exact .refl _
  · rw [if_neg (fun h => hcredit h.1), invoiceFor_of_not_credit l hcredit]
    exact .refl _

/-- The search through the rules reads until it has come to the decision that the accepting
ones among them lead to. -/
theorem readsTo_search (t : Transaction) (rules : List Rule) :
    ReadsTo l (Reconciliation.search settings now t rules)
      ((Settlement.choose settings (l.invoiceFor t)
        (rules.filter (·.accepts t))).run now t) := by
  induction rules with
  | nil => exact readsTo_fallBack l settings now t
  | cons rule rules ih =>
      unfold Reconciliation.search
      by_cases haccepts : rule.accepts t = true
      · rw [if_pos haccepts, List.filter_cons, if_pos haccepts]
        by_cases hconverts : rule.autoConvert = true
        · rw [if_pos hconverts, Settlement.choose_cons_of_converts hconverts]
          exact .refl _
        · rw [if_neg hconverts]
          by_cases hcredit : t.direction = .credit
          · rw [if_pos hcredit]
            cases hinvoice : l.invoiceFor t with
            | none =>
                rw [Settlement.choose_none_cons_of_not_converts hconverts, ← hinvoice]
                exact readsTo_lookUp_of_none l now hcredit hinvoice ih
            | some invoiceId =>
                rw [Settlement.choose_some_cons_of_not_converts hconverts]
                exact readsTo_lookUp_of_some l now hinvoice
          · have hnone := invoiceFor_of_not_credit l hcredit
            rw [if_neg hcredit, hnone, Settlement.choose_none_cons_of_not_converts hconverts,
              ← hnone]
            exact ih
      · rw [if_neg haccepts, List.filter_cons, if_neg haccepts]
        exact ih

theorem readsTo_reconcile {t : Transaction} (h : t.status = .unmatched) :
    ReadsTo l (Reconciliation.reconcile settings now t)
      ((l.settlement settings t).run now t) := by
  rw [Reconciliation.reconcile_of_unmatched h]
  refine .ask (Rule.applicable t.tenantId t.direction l.rules) rfl
    (fun now => rfl) (fun e => rfl) ?_
  show ReadsTo l (Reconciliation.search settings now t
    (Rule.applicable t.tenantId t.direction
      (Rule.applicable t.tenantId t.direction l.rules))) _
  rw [Rule.applicable_applicable]
  exact readsTo_search l settings now t _

theorem readsTo_process {id : String} {t : Transaction} (h : l.transaction? id = some t) :
    ReadsTo l (Reconciliation.process settings now id)
      (Reconciliation.reconcile settings now t >>= fun t => pure t.outcome) := by
  rw [Reconciliation.process_eq]
  refine .ask (some t) rfl ?_ (fun e => rfl) (.refl _)
  intro now
  rw [← h]
  rfl

end Decision
end Ledger
end BankFeed
