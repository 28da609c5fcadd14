import BankFeed.Proofs.Clause.Written
import BankFeed.Proofs.Persisted
import BankFeed.Proofs.Rule.Clauses
import BankFeed.Rule.Validation
import Mathlib.Data.List.Forall2

/-!
# Rules as they are written

A rule comes back with everything but its clauses as it was, unless it was created in a leap second
within a minute, and with clauses that mean the same: validation gives the same answer. So does every
transaction, but for amounts that are tested for equality with a number of a negative scale where
the test may lose a carry.
-/

namespace BankFeed
namespace Rule

def asWritten (r : Rule) : Rule :=
  { r with clauses := r.clauses.map Clause.asWritten, createdAt := r.createdAt.asWritten }

theorem rereads : Rule.codec.Rereads 3 asWritten := by
  have hfields : Changes.Rereads 2 fields _ :=
    .cons (Codec.rereads_text.mono (by decide)) <|
    .cons (Codec.rereads_text.mono (by decide)) <|
    .cons (Codec.rereads_text.mono (by decide)) <|
    .cons (Direction.rereads.mono (by decide)) <|
    .cons (Codec.rereads_flag.mono (by decide)) <|
    .cons (Codec.rereads_flag.mono (by decide)) <|
    .cons (Codec.rereads_optional_text.mono (by decide)) <|
    .cons (Codec.rereads_optional_text.mono (by decide)) <|
    .cons (Codec.rereads_optional_text.mono (by decide)) <|
    .cons (Codec.rereads_count32.mono (by decide)) <|
    .cons Clause.rereads.list <|
    .cons (Codec.rereads_timestamp.mono (by decide)) .nil
  exact schema.rereads (by decide) (by decide) (fun _ => rfl) hfields

/-!
## Validation
-/

theorem firstFault?_eq {cs cs' : List Clause} (h : List.Forall₂ Clause.SameMeaning cs cs')
    (position : Nat) : firstFault? position cs' = firstFault? position cs := by
  induction h generalizing position with
  | nil => rfl
  | @cons c c' cs cs' hc hcs ih =>
      unfold firstFault?
      cases hcompile : c.compile with
      | error e => simp only [hc.error e hcompile]
      | ok p =>
          obtain ⟨p', hp', -⟩ := hc.predicate p hcompile
          simp only [hp', ih]

theorem isEmpty_eq {cs cs' : List Clause} (h : List.Forall₂ Clause.SameMeaning cs cs') :
    cs'.isEmpty = cs.isEmpty := by
  cases h <;> rfl

theorem validate_eq {r r' : Rule} (hname : r'.name = r.name)
    (h : List.Forall₂ Clause.SameMeaning r.clauses r'.clauses) : r'.validate = r.validate := by
  unfold validate
  rw [hname, isEmpty_eq h, firstFault?_eq h]

/-!
## Acceptance
-/

theorem map_accepts_eq {cs cs' : List Clause} {t : Transaction}
    (h : List.Forall₂ Clause.SameMeaning cs cs') (hrisk : ∀ c ∈ cs, ¬ c.AtRisk t) :
    cs'.map (·.accepts t) = cs.map (·.accepts t) := by
  induction h with
  | nil => rfl
  | cons hc _ ih =>
      rw [List.forall_mem_cons] at hrisk
      rw [List.map_cons, List.map_cons, hc.accepts_eq hrisk.1, ih hrisk.2]

theorem accepts_eq {r r' : Rule} {t : Transaction} (hall : r'.matchesOnAll = r.matchesOnAll)
    (h : List.Forall₂ Clause.SameMeaning r.clauses r'.clauses)
    (hrisk : ∀ c ∈ r.clauses, ¬ c.AtRisk t) : r'.accepts t = r.accepts t :=
  accepts_eq_of_map hall (map_accepts_eq h hrisk)

/-!
## Writing and reading
-/

/-- A rule is read back from its text. It keeps its fields, unless it was created in a leap second
within a minute, and its clauses mean what they meant, so it validates as before and accepts the
same transactions, as far as no clause is at risk with them. It is written as the same text again,
from which it is read as it is. -/
theorem read_write_keeps_meaning (r : Rule) :
    ∃ r', Rule.codec.read (Rule.codec.write r) = .ok r' ∧
      { r with clauses := r'.clauses, createdAt := r.createdAt.asWritten } = r' ∧
      (r'.createdAt = r.createdAt ↔ ¬ r.createdAt.Stray) ∧
      List.Forall₂ Clause.SameMeaning r.clauses r'.clauses ∧
      r'.validate = r.validate ∧
      (∀ t, (∀ c ∈ r.clauses, ¬ c.AtRisk t) → r'.accepts t = r.accepts t) ∧
      Rule.codec.write r' = Rule.codec.write r ∧
      Rule.codec.read (Rule.codec.write r') = .ok r' := by
  have hmeaning : List.Forall₂ Clause.SameMeaning r.clauses r.asWritten.clauses :=
    List.forall₂_map_right_iff.mpr
      (List.forall₂_same.mpr fun c _ => Clause.sameMeaning_asWritten c)
  have hread := rereads.read_write (by decide) r
  have hwrite := rereads.write_eq r
  exact ⟨r.asWritten, hread, rfl, Timestamp.asWritten_eq_self_iff, hmeaning,
    validate_eq rfl hmeaning, fun t hrisk => accepts_eq rfl hmeaning hrisk, hwrite,
    by rw [hwrite, hread]⟩

end Rule

/-!
## An amount at risk

Ten zeros are written behind the digits of the scale -10, and the highest product of words with
its carry then just passes 64 bits.
-/

namespace LargePayment

def amount : Decimal where
  coefficient := 7922816251433193472
  scale := -10

def moment : Timestamp where
  date := { year := 2024, month := 6, day := 3 }
  hour := 12
  minute := 30
  second := 15
  nanosecond := 500000000

def transaction : Transaction :=
  .create moment "t-1" "acme" .debit amount "large" moment.date

def rule : Rule :=
  (Rule.create moment "r-1" "acme" "large" .debit).withClause ⟨"amount", "=", .number amount⟩

/-- The rule accepts the payment, and what is read back of it does not. -/
theorem accepts_lost_in_writing :
    rule.accepts transaction = true ∧
    ∃ r', Rule.codec.read (Rule.codec.write rule) = .ok r' ∧ r'.accepts transaction = false := by
  have haccepts : rule.accepts transaction = true := by decide
  have hrefuses : rule.asWritten.accepts transaction = false := by decide
  exact ⟨haccepts, rule.asWritten, Rule.rereads.read_write (by decide) rule, hrefuses⟩

end LargePayment
end BankFeed
