import BankFeed.Proofs.Binary.Shortest
import BankFeed.Proofs.Clause.Written
import BankFeed.Proofs.Persisted

/-!
# The same number in a transaction and in a clause

An amount that is written as a number and the value of a clause are read by different rules: a
double is taken exactly as an amount, and by its shortest digits as a value. So a clause that asks
for the very number accepts the transaction if it is an integer, or if its shortest digits are
exact; with most cents they are not.
-/

namespace BankFeed

open Json (Reads ReadsMember IsPlainText objectText stringText)

variable {n : List Char} {j : Json}

/-!
## The clause
-/

namespace Clause

def amountText (n : List Char) : List Char :=
  objectText [("search_key", stringText "amount"), ("operator", stringText "="), ("value", n)]

theorem read_amountText {value : Decimal} (hread : Json.read n = (j, some []))
    (hnumber : j.IsNumber) (hvalue : ClauseValue.codec.decode .text j = .ok (.number value)) :
    Clause.codec.read (amountText n) = .ok ⟨"amount", "=", .number value⟩ := by
  have hmembers : List.Forall₂ ReadsMember
      [("search_key", stringText "amount"), ("operator", stringText "="), ("value", n)]
      [("search_key", .text "amount"), ("operator", .text "="), ("value", j)] :=
    .cons ⟨by decide, Json.reads_text _⟩ <| .cons ⟨by decide, Json.reads_text _⟩ <|
    .cons ⟨by decide, Json.reads_number hread hnumber⟩ .nil
  have hdecodes : Row.Decodes .text fields
      [("search_key", .text "amount"), ("operator", .text "="), ("value", j)]
      ("amount", "=", .number value, ()) :=
    .cons rfl <| .cons rfl <| .cons hvalue .nil
  refine schema.read_objectText hmembers ?_ (by decide) hdecodes
  simp [Json.within, hnumber.within]

end Clause

/-!
## The transaction
-/

namespace Transaction

def readWith (amount : Decimal) (t : Transaction) : Transaction :=
  { t with
    amount := some amount
    createdAt := t.createdAt.asWritten
    updatedAt := t.updatedAt.asWritten }

/-- The text of the transaction, with this text for its amount. -/
def textWithAmount (n : List Char) (t : Transaction) : List Char :=
  objectText ((Row.toMembers fields (schema.view t)).map fun m =>
    (m.1, if m.1 = "amount" then n else m.2.render))

theorem textWithAmount_own (t : Transaction) :
    t.textWithAmount (Codec.amount.optional.encode t.amount).render =
      Transaction.codec.write t := by
  change _ = (Json.record (Row.toMembers fields (schema.view t))).render
  rw [Json.render_record]
  rfl

def membersWithAmount (j : Json) (t : Transaction) : List (String × Json) :=
  (Row.toMembers fields (schema.view t)).map fun m => (m.1, if m.1 = "amount" then j else m.2)

theorem decodes_membersWithAmount {amount : Decimal} (t : Transaction)
    (h : Codec.amount.optional.decode .text j = .ok (some amount)) :
    Row.Decodes .text fields (t.membersWithAmount j) (schema.view (t.readWith amount)) := by
  have hmembers : t.membersWithAmount j =
      [("id", .text t.id), ("tenant_id", .text t.tenantId),
        ("integration_id", Codec.text.optional.encode t.integrationId), ("amount", j),
        ("currency_id", Codec.text.optional.encode t.currencyId),
        ("description", Codec.text.optional.encode t.description),
        ("date", Codec.date.encode t.date), ("direction", Direction.codec.encode t.direction),
        ("category_id", Codec.text.optional.encode t.categoryId),
        ("category_type", Codec.text.optional.encode t.categoryType),
        ("status", Status.codec.encode t.status),
        ("expense_id", Codec.text.optional.encode t.expenseId),
        ("invoice_id", Codec.text.optional.encode t.invoiceId),
        ("created_at", Codec.timestamp.encode t.createdAt),
        ("updated_at", Codec.timestamp.encode t.updatedAt)] := by
    rfl
  have htext := Codec.rereads_optional_text.reread
  rw [hmembers]
  exact .cons rfl <| .cons rfl <| .cons (htext _) <| .cons h <| .cons (htext _) <|
    .cons (htext _) <| .cons (Codec.rereads_date.reread _) <|
    .cons (Direction.rereads.reread _) <| .cons (htext _) <| .cons (htext _) <|
    .cons (Status.rereads.reread _) <| .cons (htext _) <| .cons (htext _) <|
    .cons (Codec.rereads_timestamp.reread _) <| .cons (Codec.rereads_timestamp.reread _) .nil

theorem read_textWithAmount {amount : Decimal} (hread : Json.read n = (j, some []))
    (hnumber : j.IsNumber) (hamount : Codec.amount.decode .text j = .ok amount) (t : Transaction) :
    Transaction.codec.read (t.textWithAmount n) = .ok (t.readWith amount) := by
  have hoptional : Codec.amount.optional.decode .text j = .ok (some amount) := by
    rw [Codec.decode_optional_of_ne_null (by rintro rfl; exact hnumber), hamount]
    rfl
  have hfits := Members.fits_ofList.mp (Transaction.rereads.fits t)
  have hmembers : List.Forall₂ ReadsMember
      ((Row.toMembers fields (schema.view t)).map fun m =>
        (m.1, if m.1 = "amount" then n else m.2.render))
      (t.membersWithAmount j) := by
    rw [membersWithAmount, List.forall₂_map_left_iff, List.forall₂_map_right_iff,
      List.forall₂_same]
    intro m hm
    refine ⟨(hfits m hm).1, ?_⟩
    split
    · exact Json.reads_number hread hnumber
    · exact Json.reads_render m.2 (hfits m hm).2
  refine schema.read_objectText hmembers ?_ (by decide) (t.decodes_membersWithAmount hoptional)
  intro m hm
  obtain ⟨written, hwritten, rfl⟩ := List.mem_map.mp hm
  simp only
  split
  · exact hnumber.within 126
  · exact Json.Fits.within _ ((hfits written hwritten).2.mono _ (Nat.zero_le 126))

end Transaction

/-!
## Two readings of one number
-/

namespace Json

def exactValue : Json → ℚ
  | .integer k => k
  | .double x => x.value
  | _ => 0

def shortestValue : Json → ℚ
  | .integer k => k
  | .double x => x.shortestValue
  | _ => 0

end Json

/-- What a number is as an amount and what it is as the value of a clause. -/
structure BothReadings (j : Json) (amount value : Decimal) : Prop where
  amount_read : Codec.amount.decode .text j = .ok amount
  value_read : ClauseValue.codec.decode .text j = .ok (.number value)
  amount_eq : amount.value = j.exactValue
  value_eq : value.value = j.shortestValue
  same_iff : amount.same value = true ↔ j.exactValue = j.shortestValue

theorem exists_bothReadings (hnumber : j.IsNumber) :
    ∃ amount value, BothReadings j amount value := by
  cases j with
  | integer k =>
      exact ⟨.ofInt k, .ofInt k, rfl, rfl, Decimal.value_ofInt k, Decimal.value_ofInt k,
        iff_of_true (Decimal.same_self _) rfl⟩
  | double x =>
      obtain ⟨value, hread, hcoefficient, hscale⟩ := x.read_plainText
      have hamount := x.value_toDecimal
      have hvalue := Binary64.value_eq_shortestValue hcoefficient hscale
      have hclause : ClauseValue.codec.decode .text (.double x) = .ok (.number value) := by
        change ClauseValue.ofDouble (.finite x) = _
        rw [ClauseValue.ofDouble, hread]
        rfl
      refine ⟨x.toDecimal, value, rfl, hclause, hamount, hvalue, ?_⟩
      rw [Binary64.same_toDecimal hcoefficient hscale, hamount, hvalue]
      rfl
  | _ => exact absurd hnumber id

/-- A transaction and a clause with the same number for their amounts are both read, one with the
exact value and the other with the shortest digits. The clause accepts the transaction if these
are the same number, as they are for every integer. -/
theorem accepts_same_number_iff (hread : Json.read n = (j, some [])) (hnumber : j.IsNumber)
    (t : Transaction) :
    ∃ amount value,
      Transaction.codec.read (t.textWithAmount n) = .ok (t.readWith amount) ∧
      Clause.codec.read (Clause.amountText n) = .ok ⟨"amount", "=", .number value⟩ ∧
      amount.value = j.exactValue ∧ value.value = j.shortestValue ∧
      (Clause.accepts ⟨"amount", "=", .number value⟩ (t.readWith amount) = true ↔
        j.exactValue = j.shortestValue) := by
  obtain ⟨amount, value, hreadings⟩ := exists_bothReadings hnumber
  exact ⟨amount, value, t.read_textWithAmount hread hnumber hreadings.amount_read,
    Clause.read_amountText hread hnumber hreadings.value_read, hreadings.amount_eq,
    hreadings.value_eq, hreadings.same_iff⟩

/-!
## Prices

A half is what its shortest digits say, a price with cents is not: the double next to 19.99 is less
than 19.99.
-/

namespace CentPrice

def half : Binary64 where
  negative := false
  significand := 4503599627370496
  exponent := -53
  significand_lt := by decide
  exponent_ge := by decide
  exponent_le := by decide
  normal := by decide

def price : Binary64 where
  negative := false
  significand := 5626684784446013
  exponent := -48
  significand_lt := by decide
  exponent_ge := by decide
  exponent_le := by decide
  normal := by decide

def moment : Timestamp where
  date := { year := 2024, month := 7, day := 4 }
  hour := 8
  minute := 45
  second := 20
  nanosecond := 250000000

def transaction : Transaction :=
  .create moment "t-1" "acme" .debit (.ofInt 0) "coffee" moment.date

theorem half_exact : (Json.double half).exactValue = (Json.double half).shortestValue := by
  have hshortest : half.shortest .up = (5, -1) := by decide +kernel
  have hexact : half.value = 1 / 2 := by
    norm_num [Binary64.value, Binary64.magnitude, half]
  have hwritten : half.shortestValue = 1 / 2 := by
    rw [Binary64.shortestValue, hshortest]
    norm_num [half]
  exact hexact.trans hwritten.symm

theorem accepts_half :
    Json.read ['0', '.', '5'] = (.double half, some []) ∧
    (Json.double half).IsNumber ∧
    ∃ amount value,
      Transaction.codec.read (transaction.textWithAmount ['0', '.', '5']) =
        .ok (transaction.readWith amount) ∧
      Clause.codec.read (Clause.amountText ['0', '.', '5']) =
        .ok ⟨"amount", "=", .number value⟩ ∧
      Clause.accepts ⟨"amount", "=", .number value⟩ (transaction.readWith amount) = true := by
  have hread : Json.read ['0', '.', '5'] = (.double half, some []) := by rfl
  obtain ⟨amount, value, htransaction, hclause, -, -, haccepts⟩ :=
    accepts_same_number_iff hread trivial transaction
  exact ⟨hread, trivial, amount, value, htransaction, hclause, haccepts.mpr half_exact⟩

/-- The clause refuses the very price that it asks for. -/
theorem refuses_own_price :
    ∃ amount value,
      Transaction.codec.read (transaction.textWithAmount ['1', '9', '.', '9', '9']) =
        .ok (transaction.readWith amount) ∧
      Clause.codec.read (Clause.amountText ['1', '9', '.', '9', '9']) =
        .ok ⟨"amount", "=", .number value⟩ ∧
      Clause.accepts ⟨"amount", "=", .number value⟩ (transaction.readWith amount) = false := by
  let cents : Decimal := ⟨1999, 2, by decide, by decide⟩
  have hread : Json.read ['1', '9', '.', '9', '9'] = (.double price, some []) := by rfl
  have hplain : Decimal.read price.plainText = .ok cents := by rfl
  have hclause : ClauseValue.codec.decode .text (.double price) = .ok (.number cents) := by
    change ClauseValue.ofDouble (.finite price) = _
    rw [ClauseValue.ofDouble, hplain]
    rfl
  have hrefuses : price.toDecimal.same cents = false := by decide
  exact ⟨price.toDecimal, cents, transaction.read_textWithAmount hread trivial rfl,
    Clause.read_amountText hread trivial hclause, hrefuses⟩

end CentPrice
end BankFeed
