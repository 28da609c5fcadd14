import BankFeed.Proofs.Decimal.Carry
import BankFeed.Proofs.Rule.Validation
import Mathlib.Tactic.NormNum

/-!
# Comparisons of amounts

A clause on the amount compares two rational numbers, however they are written. Its answer for "less",
"at most", "greater" and "at least" is always right; for "equal" it is right unless the test for
equality loses a carry. As far as the answers are right, only the value of an amount counts.
-/

namespace BankFeed
namespace NumericOperator

def Relates (op : NumericOperator) (x y : ℚ) : Prop :=
  match op with
  | .equal => x = y
  | .less => x < y
  | .atMost => x ≤ y
  | .greater => y < x
  | .atLeast => y ≤ x

/-- Exactly one of "less", "equal" and "greater" is answered by yes, and the two other operators join
"equal" with one of them. -/
def Trichotomy (answers : NumericOperator → Bool) : Prop :=
  [answers .less, answers .equal, answers .greater].count true = 1 ∧
    answers .atMost = (answers .less || answers .equal) ∧ answers .atLeast = (answers .greater || answers .equal)

instance (answers : NumericOperator → Bool) : Decidable (Trichotomy answers) :=
  inferInstanceAs (Decidable (_ ∧ _ ∧ _))

variable {op : NumericOperator} {a b : Decimal}

theorem apply_iff_relates (h : op = .equal → ¬ a.MayLoseCarry b) :
    op.apply a b = true ↔ op.Relates a.value b.value := by
  cases op with
  | equal => exact Decimal.same_iff_value_eq_of_not_mayLoseCarry (h rfl)
  | less =>
      rw [apply, Decimal.cmp_eq_compare, beq_iff_eq, compare_lt_iff_lt]
      rfl
  | atMost =>
      rw [apply, Decimal.cmp_eq_compare, bne_iff_ne, compare_le_iff_le]
      rfl
  | greater =>
      rw [apply, Decimal.cmp_eq_compare, beq_iff_eq, compare_gt_iff_gt]
      rfl
  | atLeast =>
      rw [apply, Decimal.cmp_eq_compare, bne_iff_ne, compare_ge_iff_ge]
      rfl

theorem trichotomy_of_relates {answers : NumericOperator → Bool} {x y : ℚ}
    (h : ∀ op : NumericOperator, answers op = true ↔ op.Relates x y) : Trichotomy answers := by
  have hno : ∀ op : NumericOperator, answers op = false ↔ ¬ op.Relates x y := by
    intro op
    rw [← h op, Bool.not_eq_true]
  unfold Trichotomy
  rcases lt_trichotomy x y with hlt | heq | hgt
  · rw [(h .less).mpr hlt, (hno .equal).mpr hlt.ne, (hno .greater).mpr hlt.not_gt,
      (h .atMost).mpr hlt.le, (hno .atLeast).mpr hlt.not_ge]
    decide
  · rw [(hno .less).mpr heq.not_lt, (h .equal).mpr heq, (hno .greater).mpr heq.not_gt,
      (h .atMost).mpr heq.le, (h .atLeast).mpr heq.ge]
    decide
  · rw [(hno .less).mpr hgt.not_gt, (hno .equal).mpr hgt.ne', (h .greater).mpr hgt,
      (hno .atMost).mpr hgt.not_ge, (h .atLeast).mpr hgt.le]
    decide

end NumericOperator

/-!
## Clauses
-/

namespace Clause

variable {c : Clause} {t : Transaction}

theorem compile_eq_amount_iff {op : NumericOperator} {d : Decimal} :
    c.compile = .ok (.amount op d) ↔
      c.searchKey = "amount" ∧ c.operator = op.symbol ∧ c.value.asDecimal? = some d := by
  constructor
  · intro h
    unfold compile at h
    split at h
    · cases h
    · split at h <;> cases h
    · next hkey =>
        split at h
        · cases h
        · next hop =>
            split at h
            · cases h
            · next hvalue =>
                cases h
                exact ⟨SearchKey.ofName?_eq_some_iff.mp hkey,
                  NumericOperator.ofSymbol?_eq_some_iff.mp hop, hvalue⟩
  · intro h
    rcases h with ⟨hkey, hop, hvalue⟩
    have hname : SearchKey.ofName? "amount" = some .amount := SearchKey.ofName?_name .amount
    unfold compile
    simp only [hkey, hname, hop, NumericOperator.ofSymbol?_symbol, hvalue]

/-- Whether the clause asks for equality with a number for which the test may lose a carry. -/
def MayErr (c : Clause) (t : Transaction) : Prop :=
  ∃ d, c.compile = .ok (.amount .equal d) ∧ t.amountOrZero.MayLoseCarry d

theorem operator_of_mayErr (h : c.MayErr t) : c.operator = NumericOperator.equal.symbol := by
  rcases h with ⟨d, hcompile, _⟩
  exact (compile_eq_amount_iff.mp hcompile).2.1

theorem not_mayErr_of_lt {d : Decimal} (hvalue : c.value.asDecimal? = some d)
    (ht : t.amountOrZero.coefficient.natAbs < 2 ^ 64) (hd : d.coefficient.natAbs < 2 ^ 64) :
    ¬ c.MayErr t := by
  intro herr
  rcases herr with ⟨d', hcompile, hloses⟩
  rcases compile_eq_amount_iff.mp hcompile with ⟨_, _, hvalue'⟩
  cases hvalue.symm.trans hvalue'
  exact Decimal.not_mayLoseCarry_of_lt ht hd hloses

theorem accepts_iff_relates {op : NumericOperator} {d : Decimal}
    (hcompile : c.compile = .ok (.amount op d)) (herr : ¬ c.MayErr t) :
    c.accepts t = true ↔ op.Relates t.amountOrZero.value d.value := by
  rw [accepts_of_compile hcompile]
  apply NumericOperator.apply_iff_relates
  intro hequal hloses
  subst hequal
  exact herr ⟨d, hcompile, hloses⟩

theorem accepts_withAmount {amount : Option Decimal}
    (hvalue : ({ t with amount := amount } : Transaction).amountOrZero.value =
      t.amountOrZero.value)
    (herr : ¬ c.MayErr t) (herr' : ¬ c.MayErr { t with amount := amount }) :
    c.accepts { t with amount := amount } = c.accepts t := by
  cases hcompile : c.compile with
  | error e => rw [accepts_of_error hcompile, accepts_of_error hcompile]
  | ok p =>
      cases p with
      | description op value =>
          rw [accepts_of_compile hcompile, accepts_of_compile hcompile]
          rfl
      | amount op d =>
          rw [Bool.eq_iff_iff, accepts_iff_relates hcompile herr',
            accepts_iff_relates hcompile herr, hvalue]

end Clause

/-- A clause on the amount with a number answers what its operator asks of the two rational numbers,
unless it asks for equality and the test loses a carry. Then, for one value, exactly one of "less",
"equal" and "greater" is answered by yes, and amounts of the same value, or an absent one and zero,
are alike for all rules. No carry is lost as long as the coefficients are below 2⁶⁴. -/
theorem amounts_compared_as_numbers (t : Transaction) :
    (∀ (c : Clause) (op : NumericOperator) (d : Decimal), c.searchKey = "amount" →
      c.operator = op.symbol → c.value.asDecimal? = some d →
      (op = .equal → ¬ t.amountOrZero.MayLoseCarry d) →
      (c.accepts t = true ↔ op.Relates t.amountOrZero.value d.value)) ∧
    (∀ (value : ClauseValue) (d : Decimal), value.asDecimal? = some d →
      ¬ t.amountOrZero.MayLoseCarry d →
      NumericOperator.Trichotomy fun op => (⟨"amount", op.symbol, value⟩ : Clause).accepts t) ∧
    (∀ (rule : Rule) (amount : Option Decimal),
      ({ t with amount := amount } : Transaction).amountOrZero.value = t.amountOrZero.value →
      (∀ c ∈ rule.clauses, ¬ c.MayErr t ∧ ¬ c.MayErr { t with amount := amount }) →
      rule.accepts { t with amount := amount } = rule.accepts t) ∧
    (∀ d : Decimal, t.amountOrZero.coefficient.natAbs < 2 ^ 64 →
      d.coefficient.natAbs < 2 ^ 64 → ¬ t.amountOrZero.MayLoseCarry d) := by
  refine ⟨?_, ?_, ?_, ?_⟩
  · intro c op d hkey hop hvalue hloses
    rw [Clause.accepts_of_compile (Clause.compile_eq_amount_iff.mpr ⟨hkey, hop, hvalue⟩)]
    exact NumericOperator.apply_iff_relates hloses
  · intro value d hvalue hloses
    apply NumericOperator.trichotomy_of_relates
    intro op
    rw [Clause.accepts_of_compile (Clause.compile_eq_amount_iff.mpr ⟨rfl, rfl, hvalue⟩)]
    exact NumericOperator.apply_iff_relates fun _ => hloses
  · intro rule amount hvalue herr
    apply Rule.accepts_eq_of_map rfl
    apply List.map_congr_left
    intro c hc
    exact Clause.accepts_withAmount hvalue (herr c hc).1 (herr c hc).2
  · intro d ht hd
    exact Decimal.not_mayLoseCarry_of_lt ht hd

/-!
## A price

It is asked for with blanks around it and one zero more than the amount has.
-/

namespace TicketPrice

def price : Clause :=
  ⟨"amount", "=", .text " 2.50 "⟩

def rule : Rule :=
  (Rule.create Clause.anyMoment "r-1" "acme" "tickets" .debit).withClauses [price]

def purchase : Transaction :=
  .create Clause.anyMoment "t-1" "acme" .debit { coefficient := 25, scale := 1 } "ticket"
    Clause.anyMoment.date

def thousandths : Decimal where
  coefficient := 2500
  scale := 3

theorem asDecimal?_price :
    price.value.asDecimal? = some { coefficient := 250, scale := 2 } := by decide

theorem amounts_compared_as_numbers_price :
    price.accepts purchase = true ∧
    (NumericOperator.Trichotomy fun op =>
      (⟨"amount", op.symbol, price.value⟩ : Clause).accepts purchase) ∧
    rule.accepts { purchase with amount := some thousandths } = rule.accepts purchase := by
  rcases amounts_compared_as_numbers purchase with ⟨hnumbers, htrichotomy, halike, hshort⟩
  have hloses : ¬ purchase.amountOrZero.MayLoseCarry { coefficient := 250, scale := 2 } :=
    hshort _ (by decide) (by decide)
  have hpaid : purchase.amountOrZero.value =
      ({ coefficient := 250, scale := 2 } : Decimal).value := by
    norm_num [Decimal.value, purchase, Transaction.create, Transaction.amountOrZero]
  have hsame : ({ purchase with amount := some thousandths } : Transaction).amountOrZero.value =
      purchase.amountOrZero.value := by
    norm_num [Decimal.value, purchase, thousandths, Transaction.create, Transaction.amountOrZero]
  refine ⟨?_, htrichotomy _ _ asDecimal?_price hloses, ?_⟩
  · exact (hnumbers price .equal _ rfl rfl asDecimal?_price fun _ => hloses).mpr hpaid
  · apply halike rule _ hsame
    intro c hc
    cases List.mem_singleton.mp hc
    constructor
    · exact Clause.not_mayErr_of_lt asDecimal?_price (by decide) (by decide)
    · exact Clause.not_mayErr_of_lt asDecimal?_price (by decide) (by decide)

end TicketPrice

/-!
## A sum with ten places

When the number is multiplied by the tenth power of ten, the highest word fits two words only without
what is carried to it.
-/

namespace TenPlaces

def number : Decimal :=
  .ofInt 7922816251433193472

def sum : Decimal where
  coefficient := 79228162514331934720000000000
  scale := 10

def transaction : Transaction :=
  .create Clause.anyMoment "t-1" "acme" .debit sum "sum" Clause.anyMoment.date

/-- The amount has the value that is asked for, and yet it is neither equal nor less nor greater. -/
theorem equal_amount_refused :
    transaction.amountOrZero.value = number.value ∧
    (⟨"amount", "=", .number number⟩ : Clause).accepts transaction = false ∧
    ¬ NumericOperator.Trichotomy fun op =>
      (⟨"amount", op.symbol, .number number⟩ : Clause).accepts transaction := by
  refine ⟨?_, by decide, by decide⟩
  norm_num [Decimal.value, transaction, sum, number, Decimal.ofInt, Transaction.create, Transaction.amountOrZero]

end TenPlaces
end BankFeed
