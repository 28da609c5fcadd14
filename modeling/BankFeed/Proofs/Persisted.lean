import BankFeed.Persisted
import BankFeed.Proofs.Json.Records

/-!
# Persisted values

Whatever is kept in a file comes back as it was, whatever its texts, dates and links are. Only the
scale of an amount may change, and never its value, and a timestamp in a leap second that does not
end its minute comes back as one in the next second. What came back is written as the same text
again.
-/

namespace BankFeed

/-!
## Choices
-/

theorem Direction.rereads : Direction.codec.Rereads 0 id :=
  Codec.rereads_choice fun a => by cases a <;> rfl

theorem Status.rereads : Status.codec.Rereads 0 id :=
  Codec.rereads_choice fun a => by cases a <;> rfl

/-!
## Transactions
-/

namespace Transaction

def asWritten (t : Transaction) : Transaction :=
  { t with
    amount := t.amount.map Decimal.asWritten
    createdAt := t.createdAt.asWritten
    updatedAt := t.updatedAt.asWritten }

/-- Equality, but for the scale of the amount. -/
def Same (a b : Transaction) : Prop :=
  { a with amount := b.amount } = b ∧ a.amount.map Decimal.value = b.amount.map Decimal.value

theorem rereads : Transaction.codec.Rereads 1 asWritten := by
  have hfields : Changes.Rereads 0 fields _ :=
    .cons Codec.rereads_text <| .cons Codec.rereads_text <| .cons Codec.rereads_optional_text <|
    .cons (Codec.rereads_amount.optional (by intro d h; cases h)) <|
    .cons Codec.rereads_optional_text <| .cons Codec.rereads_optional_text <|
    .cons Codec.rereads_date <| .cons Direction.rereads <| .cons Codec.rereads_optional_text <|
    .cons Codec.rereads_optional_text <| .cons Status.rereads <|
    .cons Codec.rereads_optional_text <| .cons Codec.rereads_optional_text <|
    .cons Codec.rereads_timestamp <| .cons Codec.rereads_timestamp .nil
  exact schema.rereads (by decide) (by decide) (fun _ => rfl) hfields

theorem same_asWritten (t : Transaction) :
    t.asWritten.Same
      { t with createdAt := t.createdAt.asWritten, updatedAt := t.updatedAt.asWritten } := by
  refine ⟨rfl, ?_⟩
  simp [asWritten, Function.comp_def, Decimal.value_asWritten]

theorem same_asWritten_iff (t : Transaction) :
    t.asWritten.Same t ↔ ¬ t.createdAt.Stray ∧ ¬ t.updatedAt.Stray := by
  rw [← Timestamp.asWritten_eq_self_iff, ← Timestamp.asWritten_eq_self_iff]
  constructor
  · intro h
    exact ⟨congrArg createdAt h.1, congrArg updatedAt h.1⟩
  · rintro ⟨hcreated, hupdated⟩
    have hsame := same_asWritten t
    rwa [hcreated, hupdated] at hsame

end Transaction

/-!
## Expenses
-/

namespace ExpenseDraft

def asWritten (e : ExpenseDraft) : ExpenseDraft :=
  { e with amount := e.amount.asWritten }

def Same (a b : ExpenseDraft) : Prop :=
  { a with amount := b.amount } = b ∧ a.amount.value = b.amount.value

theorem rereads : ExpenseDraft.codec.Rereads 1 asWritten := by
  have hfields : Changes.Rereads 0 fields _ :=
    .cons Codec.rereads_text <| .cons Codec.rereads_text <| .cons Codec.rereads_amount <|
    .cons Codec.rereads_date <| .cons Codec.rereads_text <| .cons Codec.rereads_optional_text <|
    .cons Codec.rereads_optional_text <| .cons Codec.rereads_optional_text <|
    .cons Codec.rereads_optional_text .nil
  exact schema.rereads (by decide) (by decide) (fun _ => rfl) hfields

theorem same_asWritten (e : ExpenseDraft) : e.asWritten.Same e :=
  ⟨rfl, e.amount.value_asWritten⟩

end ExpenseDraft

namespace Expense

def asWritten (e : Expense) : Expense :=
  { e with draft := e.draft.asWritten, createdAt := e.createdAt.asWritten }

def Same (a b : Expense) : Prop :=
  { a with draft := b.draft } = b ∧ a.draft.Same b.draft

theorem rereads : Expense.codec.Rereads 2 asWritten := by
  have hfields : Changes.Rereads 1 fields _ :=
    .cons (Codec.rereads_text.mono (by decide)) <| .cons ExpenseDraft.rereads <|
    .cons (Codec.rereads_timestamp.mono (by decide)) .nil
  exact schema.rereads (by decide) (by decide) (fun _ => rfl) hfields

theorem same_asWritten (e : Expense) :
    e.asWritten.Same { e with createdAt := e.createdAt.asWritten } :=
  ⟨rfl, e.draft.same_asWritten⟩

theorem same_asWritten_iff (e : Expense) : e.asWritten.Same e ↔ ¬ e.createdAt.Stray := by
  rw [← Timestamp.asWritten_eq_self_iff]
  constructor
  · intro h
    exact congrArg createdAt h.1
  · intro hcreated
    have hsame := same_asWritten e
    rwa [hcreated] at hsame

end Expense

/-!
## Values without amounts
-/

theorem Invoice.rereads : Invoice.codec.Rereads 1 fun i => i := by
  have hfields : Changes.Rereads 0 fields _ :=
    .cons Codec.rereads_text <| .cons Codec.rereads_text <| .cons Codec.rereads_text .nil
  exact schema.rereads (by decide) (by decide) (fun _ => rfl) hfields

theorem StatusUpdate.rereads : StatusUpdate.codec.Rereads 1 fun u => u := by
  have hfields : Changes.Rereads 0 fields _ :=
    .cons Codec.rereads_optional_text <| .cons Codec.rereads_optional_text <|
    .cons Codec.rereads_optional_text .nil
  exact schema.rereads (by decide) (by decide) (fun _ => rfl) hfields

theorem Outcome.rereads : Outcome.codec.Rereads 1 fun o => o := by
  have hfields : Changes.Rereads 0 fields _ :=
    .cons Codec.rereads_text <| .cons Status.rereads <| .cons Codec.rereads_optional_text <|
    .cons Codec.rereads_optional_text .nil
  exact schema.rereads (by decide) (by decide) (fun _ => rfl) hfields

theorem Settings.rereads : Settings.codec.Rereads 1 fun s => s := by
  have hfields : Changes.Rereads 0 fields _ := .cons Codec.rereads_flag .nil
  exact schema.rereads (by decide) (by decide) (fun _ => rfl) hfields

/-!
## All of them
-/

/-- Every value of these types can be written and read. It comes back as it was, up to the scale
of its amount, but for its timestamps in leap seconds within a minute. These come back in the next
second, and then it is not the same value. In any case it is written as the same text again. -/
theorem persisted_values_return :
    Transaction.codec.Faithful (fun read t =>
      read.Same
        { t with createdAt := t.createdAt.asWritten, updatedAt := t.updatedAt.asWritten } ∧
      (read.Same t ↔ ¬ t.createdAt.Stray ∧ ¬ t.updatedAt.Stray)) ∧
    ExpenseDraft.codec.Faithful ExpenseDraft.Same ∧
    Expense.codec.Faithful (fun read e =>
      read.Same { e with createdAt := e.createdAt.asWritten } ∧
      (read.Same e ↔ ¬ e.createdAt.Stray)) ∧
    Invoice.codec.Faithful Eq ∧
    StatusUpdate.codec.Faithful Eq ∧
    Outcome.codec.Faithful Eq ∧
    Settings.codec.Faithful Eq :=
  ⟨Transaction.rereads.faithful (by decide) fun t => ⟨t.same_asWritten, t.same_asWritten_iff⟩,
    ExpenseDraft.rereads.faithful (by decide) ExpenseDraft.same_asWritten,
    Expense.rereads.faithful (by decide) fun e => ⟨e.same_asWritten, e.same_asWritten_iff⟩,
    Invoice.rereads.faithful (by decide) fun _ => rfl,
    StatusUpdate.rereads.faithful (by decide) fun _ => rfl,
    Outcome.rereads.faithful (by decide) fun _ => rfl,
    Settings.rereads.faithful (by decide) fun _ => rfl⟩

/-!
## A third of a second too late

The transaction was created 1.333333333 seconds after 23:56:04, in the leap second that follows.
-/

namespace LeapSecond

def moment : Timestamp where
  date := { year := 2016, month := 12, day := 31 }
  hour := 23
  minute := 56
  second := 4
  nanosecond := 1333333333

def transaction : Transaction :=
  .create moment "t-1" "acme" .debit Decimal.zero "rent" moment.date

theorem moved_in_writing :
    ∃ t, Transaction.codec.read (Transaction.codec.write transaction) = .ok t ∧
      ¬ t.Same transaction ∧ t.createdAt.second = 5 ∧ t.createdAt.nanosecond = 333333333 := by
  refine ⟨transaction.asWritten, Transaction.rereads.read_write (by decide) _, ?_, rfl, rfl⟩
  rw [Transaction.same_asWritten_iff]
  decide

end LeapSecond
end BankFeed
