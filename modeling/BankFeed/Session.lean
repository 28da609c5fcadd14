import BankFeed.Reconciliation
import BankFeed.Store.Host

/-!
# Sessions

A session is a sequence of steps on one host: records are put in, settings and the conduct
of the host change, transactions are reconciled through the host, and the ledger behind it is
called past its conduct. A step that fails does not end the session.
-/

namespace BankFeed

structure Session where
  host : Host
  settings : Settings

inductive Step where
  | insertTransaction (t : Transaction)
  | insertRule (rule : Rule)
  | insertInvoice (invoice : Invoice)
  | configure (settings : Settings)
  | conduct (conduct : Conduct)
  | process (id : String)
  | processAll (ids : List String)
  | reconcile (t : Transaction)
  | getTransaction (id : String)
  | findApplicable (tenantId : String) (direction : Direction)
  | findByNumber (tenantId number : String)
  | compareAndSet (id : String) (expected status : Status) (update : StatusUpdate)
  | create (draft : ExpenseDraft)
  | discard (expenseId : String)
  | expense (id : String)
  | expensesFor (transactionId : String)
  | expenseCount

inductive Reply where
  | nothing
  | outcome (o : Outcome)
  | outcomes (results : List (String × Except Failure Outcome))
  | transaction (t : Option Transaction)
  | expense (e : Option Expense)
  | id (id : Option String)
  | ids (ids : List String)
  | written (b : Bool)
  | count (n : Nat)

structure Turn where
  reply : Except Failure Reply
  calls : List Request

namespace Session

def start (settings : Settings) : Session :=
  ⟨.ofLedger (.empty .numbered), settings⟩

def ledger (s : Session) : Ledger :=
  s.host.ledger

def withLedger (s : Session) (l : Ledger) : Session :=
  { s with host := { s.host with ledger := l } }

def play {α : Type} (now : Timestamp) (reply : α → Reply) (run : Run α) (s : Session) :
    Turn × Session :=
  let played := run.play (Host.answer now) s.host
  (⟨played.result.map reply, played.history.map (·.request)⟩, { s with host := played.state })

def quiet (reply : Reply) (s : Session) : Turn × Session :=
  (⟨.ok reply, []⟩, s)

def step (now : Timestamp) (s : Session) : Step → Turn × Session
  | .insertTransaction t => (s.withLedger (s.ledger.insertTransaction t)).quiet .nothing
  | .insertRule rule => (s.withLedger (s.ledger.insertRule rule)).quiet .nothing
  | .insertInvoice invoice => (s.withLedger (s.ledger.insertInvoice invoice)).quiet .nothing
  | .configure settings => { s with settings := settings }.quiet .nothing
  | .conduct conduct => { s with host := { s.host with conduct := conduct } }.quiet .nothing
  | .process id => s.play now .outcome (Reconciliation.process s.settings now id)
  | .processAll ids => s.play now .outcomes (Reconciliation.processAll s.settings now ids)
  | .reconcile t =>
      s.play now (fun t => .transaction (some t)) (Reconciliation.reconcile s.settings now t)
  | .getTransaction id => s.quiet (.transaction (s.ledger.transaction? id))
  | .findApplicable tenantId direction =>
      s.quiet (.ids ((Rule.applicable tenantId direction s.ledger.rules).map (·.id)))
  | .findByNumber tenantId number =>
      s.quiet (.id ((s.ledger.invoice? tenantId number).map (·.id)))
  | .compareAndSet id expected status update =>
      let (result, l) := s.ledger.compareAndSet now id expected status update
      (⟨result.map .written, []⟩, s.withLedger l)
  | .create draft =>
      let (id, l) := s.ledger.createExpense now draft
      (s.withLedger l).quiet (.id (some id))
  | .discard expenseId => (s.withLedger (s.ledger.discardExpense expenseId)).quiet .nothing
  | .expense id => s.quiet (.expense (s.ledger.expense? id))
  | .expensesFor transactionId =>
      s.quiet (.ids ((s.ledger.expensesFor transactionId).map (·.id)))
  | .expenseCount => s.quiet (.count s.ledger.expenses.length)

def run (now : Timestamp) (s : Session) : List Step → List Turn × Session
  | [] => ([], s)
  | first :: rest =>
      let (turn, s) := s.step now first
      let (turns, s) := s.run now rest
      (turn :: turns, s)

end Session
end BankFeed
