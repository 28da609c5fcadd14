import BankFeed.Proofs.Reconciliation.Commands
import BankFeed.Proofs.Reconciliation.Mirror

/-!
# Tenants are isolated

Two sequences of commands that are the same for one tenant, whatever is done for others in between,
come to the same for this tenant: the reports, the transactions and the expenses that were made for
them, up to the ids of these expenses and the times that were read off a clock.
-/

namespace BankFeed
namespace Command

variable (tenantId : String) (reserved : String → Prop)

def Concerns : Command → Prop
  | .insertTransaction t => t.tenantId = tenantId
  | .insertRule rule => rule.tenantId = tenantId
  | .insertInvoice invoice => invoice.tenantId = tenantId
  | .process id => reserved id

instance [DecidablePred reserved] : DecidablePred (Concerns tenantId reserved)
  | .insertTransaction t => inferInstanceAs (Decidable (t.tenantId = tenantId))
  | .insertRule rule => inferInstanceAs (Decidable (rule.tenantId = tenantId))
  | .insertInvoice invoice => inferInstanceAs (Decidable (invoice.tenantId = tenantId))
  | .process id => inferInstanceAs (Decidable (reserved id))

/-- The reserved ids are those of the tenant's transactions, and of no others. -/
def Respects : Command → Prop
  | .insertTransaction t => t.tenantId = tenantId ↔ reserved t.id
  | .insertRule _ => True
  | .insertInvoice _ => True
  | .process _ => True

end Command

open Ledger

variable {tenantId : String} {reserved : String → Prop} {settings : Settings}
  {given : Transaction → Prop} {rename rename₁ : String → String}
  {expenses expenses₁ : List Expense} {reports reports' rest rest' : Reports}
  {l l' : Ledger} {cs cs' : List Timed}

/-!
## Reports
-/

def SameReports (given : Transaction → Prop) (rename : String → String) (expenses : List Expense) :
    Reports → Reports → Prop :=
  List.Forall₂ fun r r' => r.1 = r'.1 ∧ SameReport given rename expenses r.2 r'.2

namespace SameReports

theorem extend (h : SameReports given rename expenses reports reports')
    (hextends : Extends expenses rename expenses₁ rename₁) :
    SameReports given rename₁ expenses₁ reports reports' :=
  h.imp fun _ _ hpair => ⟨hpair.1, hpair.2.extend hextends⟩

theorem append (h : SameReports given rename expenses reports reports')
    (hrest : SameReports given rename expenses rest rest') :
    SameReports given rename expenses (reports ++ rest) (reports' ++ rest') :=
  List.rel_append h hrest

end SameReports

/-!
## One command
-/

theorem sameView_obey (l : Ledger) (settings : Settings) {c : Timed}
    (hrespects : c.command.Respects tenantId reserved)
    (hother : ¬ c.command.Concerns tenantId reserved) :
    SameView (· = tenantId) reserved l (l.obey settings c).2 ∧
      ∀ r ∈ (l.obey settings c).1, ¬ reserved r.1 := by
  rcases c with ⟨command, now, clock⟩
  cases command with
  | insertTransaction t =>
      exact ⟨sameView_insertTransaction (fun hid => hother (hrespects.mpr hid)) l, nofun⟩
  | insertRule rule => exact ⟨sameView_insertRule hother l, nofun⟩
  | insertInvoice invoice => exact ⟨sameView_insertInvoice hother l, nofun⟩
  | process id =>
      rcases obey_process settings l id now clock with ⟨made, written, hobey⟩
      rw [hobey]
      refine ⟨sameView_processed hother l settings made written, ?_⟩
      intro r hr
      rw [List.mem_singleton.mp hr]
      exact hother

theorem reserved_of_mem_obey (l : Ledger) (settings : Settings) {c : Timed}
    (hconcerns : c.command.Concerns tenantId reserved) :
    ∀ r ∈ (l.obey settings c).1, reserved r.1 := by
  rcases c with ⟨command, now, clock⟩
  intro r hr
  cases command with
  | insertTransaction t => cases hr
  | insertRule rule => cases hr
  | insertInvoice invoice => cases hr
  | process id =>
      rw [List.mem_singleton.mp hr]
      exact hconcerns

theorem mirrors_obey (h : Mirrors (· = tenantId) reserved given rename l l')
    (hreachable : l.Reachable) (settings : Settings) {command : Command}
    (hconcerns : command.Concerns tenantId reserved)
    (hgiven : ∀ t, command = .insertTransaction t → given t)
    (now now' : Timestamp) (clock clock' : Nat → Timestamp) :
    ∃ rename₁,
      Extends l.expenses rename (l.obey settings ⟨command, now, clock⟩).2.expenses rename₁ ∧
      Mirrors (· = tenantId) reserved given rename₁ (l.obey settings ⟨command, now, clock⟩).2
        (l'.obey settings ⟨command, now', clock'⟩).2 ∧
      SameReports given rename₁ (l.obey settings ⟨command, now, clock⟩).2.expenses
        (l.obey settings ⟨command, now, clock⟩).1
        (l'.obey settings ⟨command, now', clock'⟩).1 := by
  cases command with
  | insertTransaction t =>
      exact ⟨rename, extends_of_subset (List.Subset.refl _) rename,
        h.insertTransaction (.given (hgiven t rfl)) hconcerns, .nil⟩
  | insertRule rule =>
      exact ⟨rename, extends_of_subset (List.Subset.refl _) rename, h.insertRule rule, .nil⟩
  | insertInvoice invoice =>
      exact ⟨rename, extends_of_subset (List.Subset.refl _) rename, h.insertInvoice invoice, .nil⟩
  | process id =>
      rcases obey_process settings l id now clock with ⟨made, written, hobey⟩
      rcases obey_process settings l' id now' clock' with ⟨made', written', hobey'⟩
      rcases h.processed hreachable.orderly hconcerns settings made written made' written' with
        ⟨rename₁, hextends, hmirrors⟩
      rw [hobey, hobey']
      exact ⟨rename₁, hextends, hmirrors, .cons ⟨rfl, hmirrors.report hconcerns⟩ .nil⟩

/-!
## Sequences of commands
-/

/-- Two sequences that are the same where they concern the tenant, with any other commands before,
between and after. -/
inductive Aligned (tenantId : String) (reserved : String → Prop) :
    List Timed → List Timed → Prop where
  | nil : Aligned tenantId reserved [] []
  | left {c : Timed} {cs cs' : List Timed} (other : ¬ c.command.Concerns tenantId reserved)
      (rest : Aligned tenantId reserved cs cs') : Aligned tenantId reserved (c :: cs) cs'
  | right {c : Timed} {cs cs' : List Timed} (other : ¬ c.command.Concerns tenantId reserved)
      (rest : Aligned tenantId reserved cs cs') : Aligned tenantId reserved cs (c :: cs')
  | both {command : Command} {cs cs' : List Timed} (concerns : command.Concerns tenantId reserved)
      (now now' : Timestamp) (clock clock' : Nat → Timestamp)
      (rest : Aligned tenantId reserved cs cs') :
      Aligned tenantId reserved (⟨command, now, clock⟩ :: cs) (⟨command, now', clock'⟩ :: cs')

theorem aligned_of_filter_eq [DecidablePred reserved]
    (h : (cs.map (·.command)).filter (·.Concerns tenantId reserved) =
      (cs'.map (·.command)).filter (·.Concerns tenantId reserved)) :
    Aligned tenantId reserved cs cs' := by
  -- What does not concern the tenant is passed over, on the left before the right.
  induction cs generalizing cs' with
  | nil =>
      induction cs' with
      | nil => exact .nil
      | cons c' cs' ih' =>
          by_cases hc' : c'.command.Concerns tenantId reserved
          · simp [hc'] at h
          · exact .right hc' (ih' (by simpa [hc'] using h))
  | cons c cs ih =>
      by_cases hc : c.command.Concerns tenantId reserved
      · induction cs' with
        | nil => simp [hc] at h
        | cons c' cs' ih' =>
            by_cases hc' : c'.command.Concerns tenantId reserved
            · rcases c with ⟨command, now, clock⟩
              rcases c' with ⟨command', now', clock'⟩
              simp only [List.map_cons, List.filter_cons, decide_eq_true hc, decide_eq_true hc',
                if_true] at h
              injection h with hhead htail
              subst hhead
              exact .both hc now now' clock clock' (ih htail)
            · exact .right hc' (ih' (by simpa [hc'] using h))
      · exact .left hc (ih (by simpa [hc] using h))

def Reports.on (reserved : String → Prop) [DecidablePred reserved] (reports : Reports) : Reports :=
  reports.filter fun r => reserved r.1

section

variable [DecidablePred reserved]

theorem on_perform_of_concerns (l : Ledger) (settings : Settings) {c : Timed}
    (hconcerns : c.command.Concerns tenantId reserved) (cs : List Timed) :
    (l.perform settings (c :: cs)).1.on reserved =
      (l.obey settings c).1 ++ ((l.obey settings c).2.perform settings cs).1.on reserved := by
  rw [perform_cons]
  unfold Reports.on
  rw [List.filter_append, List.filter_eq_self.mpr]
  intro r hr
  exact decide_eq_true (reserved_of_mem_obey l settings hconcerns r hr)

theorem on_perform_of_not_concerns (l : Ledger) (settings : Settings) {c : Timed}
    (hunseen : ∀ r ∈ (l.obey settings c).1, ¬ reserved r.1) (cs : List Timed) :
    (l.perform settings (c :: cs)).1.on reserved =
      ((l.obey settings c).2.perform settings cs).1.on reserved := by
  rw [perform_cons]
  unfold Reports.on
  rw [List.filter_append, List.filter_eq_nil_iff.mpr, List.nil_append]
  intro r hr
  simpa using hunseen r hr

/-- Aligned sequences keep ledgers mirrors of each other, and report the same on the way. -/
theorem Aligned.mirrors (haligned : Aligned tenantId reserved cs cs')
    (h : Mirrors (· = tenantId) reserved given rename l l')
    (hreachable : l.Reachable) (settings : Settings)
    (hrespects : ∀ c ∈ cs, c.command.Respects tenantId reserved)
    (hrespects' : ∀ c ∈ cs', c.command.Respects tenantId reserved)
    (hgiven : ∀ c ∈ cs, ∀ t, c.command = .insertTransaction t → given t) :
    ∃ rename₁, Extends l.expenses rename (l.perform settings cs).2.expenses rename₁ ∧
      Mirrors (· = tenantId) reserved given rename₁ (l.perform settings cs).2
        (l'.perform settings cs').2 ∧
      SameReports given rename₁ (l.perform settings cs).2.expenses
        ((l.perform settings cs).1.on reserved) ((l'.perform settings cs').1.on reserved) := by
  -- Only a command of the tenant can give the renaming another expense; what others do merely adds
  -- expenses that it need not speak of.
  induction haligned generalizing l l' rename with
  | nil => exact ⟨rename, extends_of_subset (List.Subset.refl _) rename, h, .nil⟩
  | @left c cs cs' other _ ih =>
      rcases sameView_obey l settings (hrespects c List.mem_cons_self) other with
        ⟨hview, hunseen⟩
      rw [on_perform_of_not_concerns l settings hunseen]
      rcases ih (h.of_sameView hview (sameView_refl _ _ _)) (hreachable.obey settings c)
        (fun d hd => hrespects d (List.mem_cons_of_mem _ hd)) hrespects'
        (fun d hd => hgiven d (List.mem_cons_of_mem _ hd)) with
        ⟨rename₁, hextends, hmirrors, hreports⟩
      exact ⟨rename₁,
        (extends_of_subset (expenses_subset_obey l settings c) rename).trans hextends,
        hmirrors, hreports⟩
  | @right c cs cs' other _ ih =>
      rcases sameView_obey l' settings (hrespects' c List.mem_cons_self) other with
        ⟨hview, hunseen⟩
      rw [on_perform_of_not_concerns l' settings hunseen]
      exact ih (h.of_sameView (sameView_refl _ _ _) hview) hreachable hrespects
        (fun d hd => hrespects' d (List.mem_cons_of_mem _ hd)) hgiven
  | @both command cs cs' concerns now now' clock clock' _ ih =>
      rcases mirrors_obey h hreachable settings concerns
        (hgiven _ List.mem_cons_self) now now' clock clock' with
        ⟨rename₁, hextends, hmirrors, hfirst⟩
      rcases ih hmirrors (hreachable.obey settings _)
        (fun d hd => hrespects d (List.mem_cons_of_mem _ hd))
        (fun d hd => hrespects' d (List.mem_cons_of_mem _ hd))
        (fun d hd => hgiven d (List.mem_cons_of_mem _ hd)) with
        ⟨rename₂, hextends₂, hmirrors₂, hreports⟩
      refine ⟨rename₂, hextends.trans hextends₂, hmirrors₂, ?_⟩
      rw [on_perform_of_concerns l settings concerns, on_perform_of_concerns l' settings concerns]
      exact (hfirst.extend hextends₂).append hreports

/-- If two sequences of commands on empty ledgers are the same where they concern a tenant, the
reports of its transactions are the same in both, and so are these transactions and their expenses
at the end, up to a renaming of expenses and the times of settlement. -/
theorem tenants_isolated (supply supply' : IdSupply) (settings : Settings)
    (hrespects : ∀ c ∈ cs, c.command.Respects tenantId reserved)
    (hrespects' : ∀ c ∈ cs', c.command.Respects tenantId reserved)
    (hsame : (cs.map (·.command)).filter (·.Concerns tenantId reserved) =
      (cs'.map (·.command)).filter (·.Concerns tenantId reserved)) :
    let given := fun t => ∃ c ∈ cs, c.command = .insertTransaction t
    let ran := (empty supply).perform settings cs
    let ran' := (empty supply').perform settings cs'
    ∃ rename : String → String,
      Set.InjOn rename {x | ∃ e ∈ ran.2.expenses, reserved e.draft.transactionId ∧ e.id = x} ∧
      SameReports given rename ran.2.expenses (ran.1.on reserved) (ran'.1.on reserved) ∧
      Mirrors (· = tenantId) reserved given rename ran.2 ran'.2 := by
  intro given ran ran'
  have hempty : Mirrors (· = tenantId) reserved given (fun x => x)
      (empty supply) (empty supply') := mirrors_empty supply supply'
  rcases (aligned_of_filter_eq hsame).mirrors hempty (.empty supply) settings hrespects hrespects'
    (fun c hc t ht => ⟨c, hc, ht⟩) with ⟨rename, _, hmirrors, hreports⟩
  exact ⟨rename, hmirrors.injOn ((Reachable.empty supply').perform settings cs').orderly, hreports, hmirrors⟩

end

namespace Payment

def alone : List Timed :=
  [.insertRule converting, .insertTransaction payment, .process "t-1"].map
    fun command => ⟨command, midnight, fun _ => midnight⟩

def amongOthers : List Timed :=
  [.insertRule { converting with tenantId := "globex" }, .insertRule converting,
    .insertTransaction { payment with id := "t-2", tenantId := "globex" }, .process "t-2",
    .insertTransaction payment, .process "t-1"].map
    fun command => ⟨command, midnight, fun _ => midnight⟩

/-- The expense of the other tenant takes the first id. -/
theorem tenants_isolated_amongOthers :
    (∀ c ∈ alone, c.command.Respects "acme" (· = "t-1")) ∧
    (∀ c ∈ amongOthers, c.command.Respects "acme" (· = "t-1")) ∧
    (alone.map (·.command)).filter (·.Concerns "acme" (· = "t-1")) =
      (amongOthers.map (·.command)).filter (·.Concerns "acme" (· = "t-1")) ∧
    let given := fun t => ∃ c ∈ alone, c.command = .insertTransaction t
    let ran := (empty .numbered).perform .standard alone
    let ran' := (empty .numbered).perform .standard amongOthers
    ∃ rename : String → String, rename "expense-1" = "expense-2" ∧
      SameReports given rename ran.2.expenses (ran.1.on (· = "t-1")) (ran'.1.on (· = "t-1")) ∧
      Mirrors (· = "acme") (· = "t-1") given rename ran.2 ran'.2 := by
  have hrespects : ∀ c ∈ alone, c.command.Respects "acme" (· = "t-1") := by
    simp [alone, Command.Respects, payment, Transaction.create]
  have hrespects' : ∀ c ∈ amongOthers, c.command.Respects "acme" (· = "t-1") := by
    simp [amongOthers, Command.Respects, payment, Transaction.create]
  have hsame : (alone.map (·.command)).filter (·.Concerns "acme" (· = "t-1")) =
      (amongOthers.map (·.command)).filter (·.Concerns "acme" (· = "t-1")) := by
    rfl
  refine ⟨hrespects, hrespects', hsame, ?_⟩
  rcases tenants_isolated .numbered .numbered .standard hrespects hrespects' hsame with
    ⟨rename, _, hreports, hmirrors⟩
  refine ⟨rename, ?_, hreports, hmirrors⟩
  have hids : (((empty .numbered).perform .standard alone).2.expensesFor "t-1").map (·.id) =
      ["expense-1"] := by cbv
  have hids' : (((empty .numbered).perform .standard amongOthers).2.expensesFor "t-1").map (·.id) =
      ["expense-2"] := by cbv
  have hrenamed := hmirrors.expenseIds "t-1" rfl
  rw [hids, hids'] at hrenamed
  exact (List.head_eq_of_cons_eq hrenamed).symm

end Payment

end BankFeed
