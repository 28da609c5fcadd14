import BankFeed.Expense
import BankFeed.Failure

/-!
# Requests to the store

A reconciliation reads and writes its records only through these calls. Every call has an
answer of its own type, or fails.
-/

namespace BankFeed

inductive Request where
  | getTransaction (id : String)
  | findApplicable (tenantId : String) (direction : Direction)
  | findByNumber (tenantId number : String)
  | create (draft : ExpenseDraft)
  | discard (expenseId : String)
  | compareAndSet (id : String) (expected status : Status) (update : StatusUpdate)
  deriving DecidableEq

inductive Call where
  | getTransaction
  | findApplicable
  | findByNumber
  | create
  | discard
  | compareAndSet
  deriving DecidableEq, Repr

namespace Request

/-- What a call answers: the stored transaction, rules that may apply, the id of an invoice,
the id of a new expense, nothing, or whether the status was written. -/
@[reducible]
def Answer : Request → Type
  | .getTransaction _ => Option Transaction
  | .findApplicable _ _ => List Rule
  | .findByNumber _ _ => Option String
  | .create _ => String
  | .discard _ => Unit
  | .compareAndSet _ _ _ _ => Bool

@[reducible]
def Result (q : Request) : Type :=
  Except Failure q.Answer

def call : Request → Call
  | .getTransaction _ => .getTransaction
  | .findApplicable _ _ => .findApplicable
  | .findByNumber _ _ => .findByNumber
  | .create _ => .create
  | .discard _ => .discard
  | .compareAndSet _ _ _ _ => .compareAndSet

end Request

structure Exchange where
  request : Request
  result : request.Result

end BankFeed
