/-!
# Failures

Why a reconciliation, a call to the store or a validation did not succeed.
-/

namespace BankFeed

inductive Failure where
  | storage (reason : String)
  | transactionNotFound (id : String)
  | conversionFailed (reason : String)
  | alreadyReconciled (id : String)
  | validation (reason : String)
  deriving DecidableEq, Repr

def Failure.message : Failure → String
  | .storage reason => "Storage error: " ++ reason
  | .transactionNotFound id => "Transaction not found: " ++ id
  | .conversionFailed reason => "Conversion failed: " ++ reason
  | .alreadyReconciled id => "Transaction already reconciled: " ++ id
  | .validation reason => "Validation error: " ++ reason

end BankFeed
