import BankFeed.Proofs.Reconciliation.Outcome
import BankFeed.Proofs.Rule.Order
import Mathlib

/-!
# Candidates

A reconciliation asks once for rules, and of what it is offered only the rules for its transaction
are candidates. If no two candidates have the same rank, neither their order in the offer matters
nor what else is offered.
-/

namespace BankFeed
namespace Run

variable {α σ τ : Type}

def Played.mapState (f : σ → τ) (played : Played σ α) : Played τ α :=
  ⟨played.result, f played.state, played.history⟩

/-- Whatever it is answered, a run makes such calls only. -/
inductive Asks (allowed : Request → Prop) : Run α → Prop where
  | done (r : Except Failure α) : Asks allowed (.done r)
  | ask {q : Request} {resume : q.Result → Run α} (here : allowed q)
      (later : ∀ r, Asks allowed (resume r)) : Asks allowed (.ask q resume)

theorem Asks.mono {allowed allowed' : Request → Prop} {run : Run α} (h : run.Asks allowed)
    (himp : ∀ q, allowed q → allowed' q) : run.Asks allowed' := by
  induction h with
  | done r => exact .done r
  | ask here later ih => exact .ask (himp _ here) ih

/-- From states that are alike, such calls are answered alike and leave states that are alike. -/
def AnswerAlike (allowed : Request → Prop) (alike : σ → τ → Prop) (answering : Answering σ)
    (answering' : Answering τ) : Prop :=
  ∀ q s s', allowed q → alike s s' →
    (answering' q s').1 = (answering q s).1 ∧ alike (answering q s).2 (answering' q s').2

/-- A run tells two hosts apart only by a call that they answer differently. -/
theorem Asks.indistinct {allowed : Request → Prop} {run : Run α} (h : run.Asks allowed)
    {alike : σ → τ → Prop} {answering : Answering σ} {answering' : Answering τ}
    (hosts : AnswerAlike allowed alike answering answering') {s : σ} {s' : τ} (hs : alike s s') :
    (run.play answering' s').result = (run.play answering s).result ∧
      alike (run.play answering s).state (run.play answering' s').state ∧
      (run.play answering' s').history = (run.play answering s).history := by
  induction h generalizing s s' with
  | done r => exact ⟨rfl, hs, rfl⟩
  | @ask q resume here later ih =>
      rcases hosts q s s' here hs with ⟨hanswer, hnext⟩
      rcases ih (answering q s).1 hnext with ⟨hresult, hstate, hhistory⟩
      simp only [play, hanswer]
      exact ⟨hresult, hstate, congrArg _ hhistory⟩

end Run

namespace Reconciliation

variable {settings : Settings} {now : Timestamp} {t : Transaction} {rules : List Rule}

theorem Searches.asks {run : Run Transaction} (h : Searches now t rules run) :
    run.Asks fun q => q.call ≠ .findApplicable := by
  have hconcede : ∀ (expenseId : String) (e : Failure),
      (concede expenseId e : Run Transaction).Asks fun q => q.call ≠ .findApplicable :=
    fun expenseId e => .ask nofun fun _ => .done _
  induction h with
  | leave => exact .done _
  | convert mem accepts converts =>
      rw [convert_eq]
      refine .ask nofun fun created => ?_
      cases created with
      | error e => exact .done _
      | ok expenseId =>
          refine .ask nofun fun written => ?_
          cases written with
          | error e => exact hconcede expenseId e
          | ok b =>
              cases b with
              | false => exact hconcede expenseId _
              | true => exact .done _
  | look credit named next ih =>
      refine .ask nofun fun found => ?_
      cases found with
      | error e => exact .done _
      | ok answer =>
          cases answer with
          | none => exact ih
          | some invoiceId =>
              show (matchInvoice now t invoiceId).Asks _
              rw [matchInvoice_eq]
              refine .ask nofun fun written => ?_
              cases written with
              | error e => exact .done _
              | ok b =>
                  cases b with
                  | false => exact .done _
                  | true => exact .done _

theorem asks_search (settings : Settings) (now : Timestamp) (t : Transaction)
    (rules : List Rule) :
    (search settings now t rules).Asks fun q => q.call ≠ .findApplicable :=
  (searches_search settings now t fun _ h => h).asks

theorem asks_reconcile (settings : Settings) (now : Timestamp) (t : Transaction) :
    (reconcile settings now t).Asks fun q =>
      q.call = .findApplicable → q = .findApplicable t.tenantId t.direction := by
  cases hterminal : t.status.isTerminal with
  | true =>
      rw [reconcile_of_terminal hterminal]
      exact .done _
  | false =>
      rw [reconcile_of_unmatched (Status.isTerminal_eq_false_iff.mp hterminal)]
      refine .ask (fun _ => rfl) fun answered => ?_
      cases answered with
      | error e => exact .done _
      | ok offered => exact (asks_search settings now t _).mono fun q hq hcall => absurd hcall hq

/-!
## Hosts that offer different rules
-/

/-- Two hosts that answer alike, but offer these and those rules for the transaction. -/
structure Offering {σ τ : Type} (t : Transaction) (offered offered' : List Rule)
    (alike : σ → τ → Prop) (answering : Run.Answering σ) (answering' : Run.Answering τ) (s : σ)
    (s' : τ) : Prop where
  start : alike s s'
  others : Run.AnswerAlike (fun q => q.call ≠ .findApplicable) alike answering answering'
  these : (answering (.findApplicable t.tenantId t.direction) s).1 = .ok offered
  those : (answering' (.findApplicable t.tenantId t.direction) s').1 = .ok offered'
  next : alike (answering (.findApplicable t.tenantId t.direction) s).2
    (answering' (.findApplicable t.tenantId t.direction) s').2

theorem Offering.played_alike {σ τ : Type} {offered offered' : List Rule} {alike : σ → τ → Prop}
    {answering : Run.Answering σ} {answering' : Run.Answering τ} {s : σ} {s' : τ}
    (h : Offering t offered offered' alike answering answering' s s')
    (hsame : Rule.applicable t.tenantId t.direction offered' =
      Rule.applicable t.tenantId t.direction offered)
    (settings : Settings) (now : Timestamp) :
    let played := (reconcile settings now t).play answering s
    let played' := (reconcile settings now t).play answering' s'
    played'.result = played.result ∧ alike played.state played'.state ∧
      played'.history.map (·.request) = played.history.map (·.request) ∧
      played'.history.tail = played.history.tail := by
  cases hterminal : t.status.isTerminal with
  | true =>
      rw [reconcile_of_terminal hterminal]
      exact ⟨rfl, h.start, rfl, rfl⟩
  | false =>
      rw [reconcile_of_unmatched (Status.isTerminal_eq_false_iff.mp hterminal)]
      simp only [Run.play, h.these, h.those, hsame]
      rcases (asks_search settings now t (Rule.applicable t.tenantId t.direction offered)).indistinct
        h.others h.next with ⟨hresult, hstate, hhistory⟩
      refine ⟨hresult, hstate, ?_, hhistory⟩
      rw [hhistory]
      rfl

end Reconciliation

namespace Ledger

open Reconciliation

variable {t : Transaction} {rules : List Rule} {l : Ledger}

def withRules (rules : List Rule) (l : Ledger) : Ledger :=
  { l with rules := rules }

theorem compareAndSet_withRules (rules : List Rule) (l : Ledger) (now : Timestamp) (id : String)
    (expected status : Status) (update : StatusUpdate) :
    (l.withRules rules).compareAndSet now id expected status update =
      ((l.compareAndSet now id expected status update).1,
        (l.compareAndSet now id expected status update).2.withRules rules) := by
  cases hstored : l.transaction? id with
  | none =>
      have hstored' : (l.withRules rules).transaction? id = none := hstored
      rw [compareAndSet_of_none hstored, compareAndSet_of_none hstored']
  | some s =>
      have hstored' : (l.withRules rules).transaction? id = some s := hstored
      by_cases hstatus : s.status = expected
      · rw [compareAndSet_of_eq hstored hstatus, compareAndSet_of_eq hstored' hstatus]
        rfl
      · rw [compareAndSet_of_ne hstored hstatus, compareAndSet_of_ne hstored' hstatus]

/-- Rules that give a transaction the same candidates give its reconciliation the same answers. -/
theorem answer_withRules
    (hsame : Rule.applicable t.tenantId t.direction rules =
      Rule.applicable t.tenantId t.direction l.rules)
    {q : Request} (hq : q.call = .findApplicable → q = .findApplicable t.tenantId t.direction)
    (now : Timestamp) :
    (l.withRules rules).answer now q =
      ((l.answer now q).1, (l.answer now q).2.withRules rules) := by
  cases q with
  | getTransaction id => rfl
  | findApplicable tenantId direction =>
      cases hq rfl
      exact congrArg (fun rules' => (Except.ok rules', l.withRules rules)) hsame
  | findByNumber tenantId number => rfl
  | create draft => rfl
  | discard expenseId => rfl
  | compareAndSet id expected status update =>
      exact compareAndSet_withRules rules l now id expected status update

theorem rules_answer (l : Ledger) (now : Timestamp) (q : Request) :
    (l.answer now q).2.rules = l.rules := by
  cases q with
  | getTransaction id => rfl
  | findApplicable tenantId direction => rfl
  | findByNumber tenantId number => rfl
  | create draft => rfl
  | discard expenseId => rfl
  | compareAndSet id expected status update =>
      -- The ledger is the same one with its own rules, so it keeps them.
      have hsame := compareAndSet_withRules l.rules l now id expected status update
      exact congrArg (fun answered => answered.2.rules) hsame

theorem serve_withRules {α : Type} {run : Run α}
    (h : run.Asks fun q =>
      q.call = .findApplicable → q = .findApplicable t.tenantId t.direction)
    (hsame : Rule.applicable t.tenantId t.direction rules =
      Rule.applicable t.tenantId t.direction l.rules) (fates : Nat → Fate) :
    (l.withRules rules).serve fates run = (l.serve fates run).mapState (withRules rules) := by
  induction h generalizing l fates with
  | done r => rfl
  | @ask q resume here later ih =>
      rw [serve_ask, serve_ask]
      cases fates 0 with
      | error e =>
          show ((l.withRules rules).serve _ _).following _ = _
          rw [ih _ hsame]
          rfl
      | ok now =>
          simp only [answer_withRules hsame here]
          rw [ih _ (by rw [rules_answer]; exact hsame)]
          rfl

theorem serve_process_withRules {id : String} (hstored : l.transaction? id = some t)
    (hsame : Rule.applicable t.tenantId t.direction rules =
      Rule.applicable t.tenantId t.direction l.rules)
    (settings : Settings) (now : Timestamp) (fates : Nat → Fate) :
    (l.withRules rules).serve fates (process settings now id) =
      (l.serve fates (process settings now id)).mapState (withRules rules) := by
  have hstored' : (l.withRules rules).transaction? id = some t := hstored
  have hreconcile := serve_withRules (asks_reconcile settings now t) hsame (later fates)
  rw [process_eq, serve_ask, serve_ask]
  cases fates 0 with
  | error e => rfl
  | ok now' =>
      simp only [answer, hstored, hstored']
      rw [serve_bind_pure, serve_bind_pure, hreconcile]
      rfl

end Ledger

open Reconciliation

/-- If no two candidates for a transaction have the same rank, then neither their order in an offer
matters nor what else is offered: a reconciliation makes the same calls after the offer and comes to
the same. On a ledger it does not matter in which order the rules were put in. -/
theorem candidates_decide {t : Transaction} {offered offered' : List Rule}
    (hperm : (offered'.filter (·.covers t.tenantId t.direction)).Perm
      (offered.filter (·.covers t.tenantId t.direction)))
    (hdistinct : ((offered.filter (·.covers t.tenantId t.direction)).map Rule.rank).Nodup)
    (settings : Settings) (now : Timestamp) :
    (∀ {σ τ : Type} {alike : σ → τ → Prop} {answering : Run.Answering σ}
        {answering' : Run.Answering τ} {s : σ} {s' : τ},
      Offering t offered offered' alike answering answering' s s' →
        let played := (reconcile settings now t).play answering s
        let played' := (reconcile settings now t).play answering' s'
        played'.result = played.result ∧ alike played.state played'.state ∧
          played'.history.map (·.request) = played.history.map (·.request) ∧
          played'.history.tail = played.history.tail) ∧
    ∀ (l : Ledger) (fates : Nat → Fate),
      (l.withRules offered').serve fates (reconcile settings now t) =
        ((l.withRules offered).serve fates (reconcile settings now t)).mapState
          (Ledger.withRules offered') ∧
      ∀ id, l.transaction? id = some t →
        (l.withRules offered').serve fates (process settings now id) =
          ((l.withRules offered).serve fates (process settings now id)).mapState
            (Ledger.withRules offered') := by
  have hsame : Rule.applicable t.tenantId t.direction offered' =
      Rule.applicable t.tenantId t.direction offered :=
    Rule.sorted_eq_of_perm hperm hdistinct
  constructor
  · intro σ τ alike answering answering' s s' h
    exact h.played_alike hsame settings now
  · intro l fates
    constructor
    · exact Ledger.serve_withRules (l := l.withRules offered) (asks_reconcile settings now t) hsame
        fates
    · intro id hstored
      exact Ledger.serve_process_withRules (l := l.withRules offered) hstored hsame settings now
        fates

namespace Payment

def agreeable (rules : List Rule) : Run.Answering Unit := fun q s =>
  match q with
  | .getTransaction _ => (.ok none, s)
  | .findApplicable _ _ => (.ok rules, s)
  | .findByNumber _ _ => (.ok none, s)
  | .create _ => (.ok "expense-1", s)
  | .discard _ => (.ok (), s)
  | .compareAndSet _ _ _ _ => (.ok true, s)

theorem offering_agreeable (rules rules' : List Rule) :
    Offering payment rules rules' (fun _ _ => True) (agreeable rules) (agreeable rules') () () where
  start := trivial
  others := by
    intro q s s' hq _
    refine ⟨?_, trivial⟩
    cases q with
    | findApplicable tenantId direction => exact absurd rfl hq
    | getTransaction id => rfl
    | findByNumber tenantId number => rfl
    | create draft => rfl
    | discard expenseId => rfl
    | compareAndSet id expected status update => rfl
  these := rfl
  those := rfl
  next := trivial

def foreign : Rule :=
  { converting with tenantId := "globex" }

/-- The rule that converts is offered before or after the other one, and a rule of another tenant is
offered or not. -/
theorem candidates_decide_swapped :
    (([small, converting].filter (·.covers "acme" .credit)).Perm
      ([foreign, converting, small].filter (·.covers "acme" .credit))) ∧
    (([foreign, converting, small].filter (·.covers "acme" .credit)).map Rule.rank).Nodup ∧
      let played := (reconcile .standard midnight payment).play
        (agreeable [foreign, converting, small]) ()
      let played' := (reconcile .standard midnight payment).play (agreeable [small, converting]) ()
      played.result.map (·.status) = .ok .converted ∧ played'.result = played.result ∧
        played'.history.tail = played.history.tail := by
  have hperm : ([small, converting].filter (·.covers "acme" .credit)).Perm
      ([foreign, converting, small].filter (·.covers "acme" .credit)) :=
    List.Perm.swap converting small []
  have hdistinct :
      (([foreign, converting, small].filter (·.covers "acme" .credit)).map Rule.rank).Nodup := by
    decide
  rcases (candidates_decide (t := payment) hperm hdistinct .standard midnight).1
    (offering_agreeable _ _) with ⟨hresult, _, _, hhistory⟩
  exact ⟨hperm, hdistinct, by cbv, hresult, hhistory⟩

end Payment
end BankFeed
