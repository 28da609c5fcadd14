import BankFeed.Persisted
import BankFeed.Proofs.Decimal.Carry
import BankFeed.Proofs.Json.Records

/-!
# Clauses as they are written

A number comes back as a text, so a clause that is read back need not be the one that was written.
It compiles to the same error all the same, or compares the same field by the same operator with
the same text or a decimal of the same value. What it answers is the same but for one thing: zeros
that were written in place of a negative scale are digits afterwards, and the test for equality of
amounts may lose a carry with one scale and not with the other.
-/

namespace BankFeed

/-!
## Decimals of the same value
-/

namespace Decimal

variable {a d : Decimal}

theorem same_of_zero (h : d.coefficient = 0) : a.same d = decide (a.coefficient = 0) := by
  unfold same
  by_cases hzero : a.coefficient = 0
  · simp [hzero, h]
  · simp [hzero, h]

end Decimal

theorem NumericOperator.apply_eq_of_value_eq {op : NumericOperator} {a d d' : Decimal}
    (hop : op ≠ .equal) (h : d'.value = d.value) : op.apply a d' = op.apply a d := by
  cases op with
  | equal => contradiction
  | less => simp only [apply, Decimal.cmp_congr_right h]
  | atMost => simp only [apply, Decimal.cmp_congr_right h]
  | greater => simp only [apply, Decimal.cmp_congr_right h]
  | atLeast => simp only [apply, Decimal.cmp_congr_right h]

def Predicate.Alike : Predicate → Predicate → Prop
  | .description op v, .description op' v' => op' = op ∧ v' = v
  | .amount op d, .amount op' d' => op' = op ∧ d'.value = d.value
  | _, _ => False

theorem Predicate.Alike.refl (p : Predicate) : p.Alike p := by
  cases p with
  | description => exact ⟨rfl, rfl⟩
  | amount => exact ⟨rfl, rfl⟩

/-!
## Clauses
-/

namespace Clause

def asWritten (c : Clause) : Clause :=
  { c with value := .text c.value.asText }

theorem rereads : Clause.codec.Rereads 1 asWritten := by
  have hfields : Changes.Rereads 0 fields _ :=
    .cons Codec.rereads_text <| .cons Codec.rereads_text <| .cons Codec.rereads_clauseValue .nil
  exact schema.rereads (by decide) (by decide) (fun _ => rfl) hfields

/-- Whether the clause asks for an amount equal to a number that is written with zeros in place
of a negative scale, and the test may lose a carry with the amount of the transaction. -/
def AtRisk (c : Clause) (t : Transaction) : Prop :=
  c.searchKey = "amount" ∧ c.operator = "=" ∧ ∃ d, c.value = .number d ∧ d.coefficient ≠ 0 ∧
    -15 ≤ d.scale ∧ d.scale < 0 ∧
    (t.amountOrZero.MayLoseCarry d ∨ t.amountOrZero.MayLoseCarry d.asWritten)

/-- The second clause means the same as the first one. -/
structure SameMeaning (c c' : Clause) : Prop where
  searchKey : c'.searchKey = c.searchKey
  operator : c'.operator = c.operator
  asText : c'.value.asText = c.value.asText
  error : ∀ e, c.compile = .error e → c'.compile = .error e
  predicate : ∀ p, c.compile = .ok p → ∃ p', c'.compile = .ok p' ∧ p.Alike p' ∧
    ∀ t, ¬ c.AtRisk t → p'.test t = p.test t

variable {c c' : Clause}

theorem SameMeaning.refl (c : Clause) : c.SameMeaning c where
  searchKey := rfl
  operator := rfl
  asText := rfl
  error _ h := h
  predicate p h := ⟨p, h, .refl p, fun _ _ => rfl⟩

theorem SameMeaning.accepts_eq (h : c.SameMeaning c') {t : Transaction} (hrisk : ¬ c.AtRisk t) :
    c'.accepts t = c.accepts t := by
  cases hc : c.compile with
  | error e => rw [accepts_of_error hc, accepts_of_error (h.error e hc)]
  | ok p =>
      obtain ⟨p', hp', -, htest⟩ := h.predicate p hc
      rw [accepts_of_compile hc, accepts_of_compile hp', htest t hrisk]

theorem asDecimal?_asText (d : Decimal) :
    (ClauseValue.text (ClauseValue.number d).asText).asDecimal? = some d.asWritten := by
  show (Decimal.read (Text.trim (String.ofList d.text).toList)).toOption = _
  rw [String.toList_ofList, Decimal.trim_text, Decimal.read_text]
  rfl

theorem same_asWritten {a d : Decimal}
    (h : d.coefficient ≠ 0 → -15 ≤ d.scale → d.scale < 0 →
      ¬ a.MayLoseCarry d ∧ ¬ a.MayLoseCarry d.asWritten) :
    a.same d.asWritten = a.same d := by
  by_cases hzero : d.coefficient = 0
  · rw [Decimal.asWritten_of_zero hzero, Decimal.same_of_zero hzero, Decimal.same_of_zero rfl]
  · by_cases hkept : 0 < d.scale ∨ Decimal.trailingZeroLimit < -d.scale
    · rw [Decimal.asWritten_of_kept hzero hkept]
    · by_cases hinteger : d.scale = 0
      · rw [Decimal.asWritten_of_integer hzero hinteger]
      · unfold Decimal.trailingZeroLimit at hkept
        obtain ⟨hold, hnew⟩ := h hzero (by omega) (by omega)
        rw [Bool.eq_iff_iff, Decimal.same_iff_value_eq_of_not_mayLoseCarry hold,
          Decimal.same_iff_value_eq_of_not_mayLoseCarry hnew, Decimal.value_asWritten]

theorem compile_asWritten {d : Decimal} (h : c.value = .number d) :
    c.asWritten.compile = c.compile ∨
    (c.searchKey = "amount" ∧ ∃ op : NumericOperator, c.operator = op.symbol ∧
      c.compile = .ok (.amount op d) ∧ c.asWritten.compile = .ok (.amount op d.asWritten)) := by
  unfold compile
  simp only [asWritten, h]
  cases hkey : SearchKey.ofName? c.searchKey with
  | none => exact .inl rfl
  | some key =>
      cases key with
      | description => exact .inl rfl
      | amount =>
          cases hop : NumericOperator.ofSymbol? c.operator with
          | none => exact .inl rfl
          | some op =>
              refine .inr ⟨?_, op, NumericOperator.ofSymbol?_eq_some_iff.mp hop, rfl, ?_⟩
              · exact SearchKey.ofName?_eq_some_iff.mp hkey
              · simp only [asDecimal?_asText]

/-- A clause that was written and read back means what it meant. -/
theorem sameMeaning_asWritten (c : Clause) : c.SameMeaning c.asWritten := by
  cases hvalue : c.value with
  | text s =>
      have hsame : c.asWritten = c := by
        cases c
        subst hvalue
        rfl
      rw [hsame]
      exact .refl c
  | number d =>
      refine ⟨rfl, rfl, rfl, ?_, ?_⟩
      · intro e he
        rcases compile_asWritten hvalue with hcompile | ⟨-, op, -, hcompile, -⟩
        · rw [hcompile, he]
        · rw [hcompile] at he
          cases he
      · intro p hp
        rcases compile_asWritten hvalue with hcompile | ⟨hkey, op, hop, hcompile, hwritten⟩
        · exact ⟨p, by rw [hcompile, hp], .refl p, fun _ _ => rfl⟩
        · rw [hcompile] at hp
          cases hp
          refine ⟨_, hwritten, ⟨rfl, d.value_asWritten⟩, fun t hrisk => ?_⟩
          by_cases hequal : op = .equal
          · subst hequal
            refine same_asWritten fun hne hge hneg => ?_
            rw [← not_or]
            exact fun hlose => hrisk ⟨hkey, hop, d, hvalue, hne, hge, hneg, hlose⟩
          · exact NumericOperator.apply_eq_of_value_eq hequal d.value_asWritten

end Clause
end BankFeed
