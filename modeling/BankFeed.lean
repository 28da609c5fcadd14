import BankFeed.Binary.Double
import BankFeed.Binary.Printer
import BankFeed.Binary.Reader
import BankFeed.Binary.Rounding
import BankFeed.Binary.Shortest
import BankFeed.Calendar.Date
import BankFeed.Calendar.Printer
import BankFeed.Calendar.Reader
import BankFeed.Clause.Basic
import BankFeed.Clause.Operator
import BankFeed.Clause.Value
import BankFeed.Decimal.Basic
import BankFeed.Decimal.Equality
import BankFeed.Decimal.Printer
import BankFeed.Decimal.Reader
import BankFeed.Expense
import BankFeed.Failure
import BankFeed.Integer
import BankFeed.Json.Basic
import BankFeed.Json.Codec
import BankFeed.Json.Misfit
import BankFeed.Json.Printer
import BankFeed.Json.Reader
import BankFeed.Json.Record
import BankFeed.Persisted
import BankFeed.Reconciliation
import BankFeed.Rule
import BankFeed.Rule.Validation
import BankFeed.Session
import BankFeed.Settings
import BankFeed.Store.Host
import BankFeed.Store.Ledger
import BankFeed.Store.Request
import BankFeed.Store.Run
import BankFeed.Text.Blank
import BankFeed.Text.CaseTable
import BankFeed.Text.HiddenTable
import BankFeed.Text.Lower
import BankFeed.Text.Quoted
import BankFeed.Text.Range
import BankFeed.Text.Search
import BankFeed.Transaction
import BankFeed.Proofs.Binary.Exact
import BankFeed.Proofs.Binary.Excess
import BankFeed.Proofs.Binary.Shortest
import BankFeed.Proofs.Calendar.Written
import BankFeed.Proofs.Clause.Literal
import BankFeed.Proofs.Clause.Occurrence
import BankFeed.Proofs.Clause.Recased
import BankFeed.Proofs.Clause.Written
import BankFeed.Proofs.Decimal.Carry
import BankFeed.Proofs.Decimal.Equality
import BankFeed.Proofs.Decimal.Value
import BankFeed.Proofs.Decimal.Written
import BankFeed.Proofs.Json.Codecs
import BankFeed.Proofs.Json.Cut
import BankFeed.Proofs.Json.Reading
import BankFeed.Proofs.Json.Records
import BankFeed.Proofs.Json.Strings
import BankFeed.Proofs.Json.Written
import BankFeed.Proofs.Persisted
import BankFeed.Proofs.Reconciliation.Batch
import BankFeed.Proofs.Reconciliation.Candidates
import BankFeed.Proofs.Reconciliation.Chronicle
import BankFeed.Proofs.Reconciliation.Commands
import BankFeed.Proofs.Reconciliation.Consistency
import BankFeed.Proofs.Reconciliation.Effect
import BankFeed.Proofs.Reconciliation.Faults
import BankFeed.Proofs.Reconciliation.Isolation
import BankFeed.Proofs.Reconciliation.Mirror
import BankFeed.Proofs.Reconciliation.Outcome
import BankFeed.Proofs.Reconciliation.Record
import BankFeed.Proofs.Reconciliation.Rest
import BankFeed.Proofs.Reconciliation.Settlement
import BankFeed.Proofs.Reconciliation.Shape
import BankFeed.Proofs.Reconciliation.Stale
import BankFeed.Proofs.Reconciliation.Transcript
import BankFeed.Proofs.Reconciliation.View
import BankFeed.Proofs.Rule.Amount
import BankFeed.Proofs.Rule.Clauses
import BankFeed.Proofs.Rule.Order
import BankFeed.Proofs.Rule.Validation
import BankFeed.Proofs.Rule.Weakening
import BankFeed.Proofs.Rule.Written
import BankFeed.Proofs.Store.Contents
import BankFeed.Proofs.Store.Service
import BankFeed.Proofs.Text.Digits
import BankFeed.Proofs.Text.Lower
import BankFeed.Proofs.Text.Sigma
import BankFeed.Proofs.Workers.Conduct
import BankFeed.Proofs.Workers.Custody
import BankFeed.Proofs.Workers.Office
import BankFeed.Proofs.Binary.Interval
import BankFeed.Proofs.Rule.Naming
import BankFeed.Proofs.Binary.Nearest
import BankFeed.Proofs.Binary.Recovery
import BankFeed.Proofs.Clause.Numbers
import BankFeed.Proofs.Reconciliation.Imports
import BankFeed.Proofs.Reconciliation.Receipts
