import BankFeed.Proofs.Decimal.Value
import BankFeed.Proofs.Rule.Clauses
import BankFeed.Rule.Validation

/-!
# Validation and acceptance

Validation refuses exactly the clauses that no transaction can satisfy. A clause that compiles is
satisfied by a change of any transaction in the one field that it looks at: by its own value, or by
the number next to it if it asks for a smaller or a greater one. A clause that does not compile is
satisfied by nothing, and the first one of a rule is the one that validation reports.
-/

namespace BankFeed

/-!
## Fields that satisfy an operator
-/

def TextOperator.sample (op : TextOperator) (value : String) : String :=
  match op with
  | .is | .contains | .startsWith => value
  | .isEmpty => ""

theorem TextOperator.apply_sample (op : TextOperator) (value : String) :
    op.apply (op.sample value) value = true := by
  cases op with
  | is => simp [apply, sample]
  | contains => simp [apply, sample, Text.occursIn_iff]
  | startsWith => simp [apply, sample]
  | isEmpty => rfl

theorem Decimal.cmp_self (d : Decimal) : d.cmp d = .eq := by
  rw [cmp_eq_compare, compare_eq_iff_eq]

theorem Decimal.value_lt_of_coefficient_lt {a b : Decimal} (hscale : a.scale = b.scale)
    (hlt : a.coefficient < b.coefficient) : a.value < b.value := by
  unfold value
  rw [hscale]
  exact mul_lt_mul_of_pos_right (by exact_mod_cast hlt) b.scaleFactor_pos

def NumericOperator.sample (op : NumericOperator) (value : Decimal) : Decimal :=
  match op with
  | .equal | .atMost | .atLeast => value
  | .less => { value with coefficient := value.coefficient - 1 }
  | .greater => { value with coefficient := value.coefficient + 1 }

theorem NumericOperator.apply_sample (op : NumericOperator) (value : Decimal) :
    op.apply (op.sample value) value = true := by
  cases op with
  | equal => exact Decimal.same_self value
  | less =>
      have hlt : (less.sample value).value < value.value :=
        Decimal.value_lt_of_coefficient_lt rfl (by simp [sample])
      rw [apply, Decimal.cmp_eq_compare, compare_lt_iff_lt.mpr hlt]
      rfl
  | greater =>
      have hgt : value.value < (greater.sample value).value :=
        Decimal.value_lt_of_coefficient_lt rfl (by simp [sample])
      rw [apply, Decimal.cmp_eq_compare, compare_gt_iff_gt.mpr hgt]
      rfl
  | atMost =>
      rw [apply, sample, Decimal.cmp_self]
      rfl
  | atLeast =>
      rw [apply, sample, Decimal.cmp_self]
      rfl

/-!
## Clauses that can be satisfied
-/

def Predicate.sample (p : Predicate) (t : Transaction) : Transaction :=
  match p with
  | .description op value => { t with description := some (op.sample value) }
  | .amount op value => { t with amount := some (op.sample value) }

theorem Predicate.test_sample (p : Predicate) (t : Transaction) : p.test (p.sample t) = true := by
  cases p with
  | description op value => exact op.apply_sample value
  | amount op value => exact op.apply_sample value

namespace Clause

variable {c : Clause}

/-- Whether some transaction satisfies the clause. -/
def Satisfiable (c : Clause) : Prop :=
  ∃ t, c.accepts t = true

def anyMoment : Timestamp where
  date := { year := 1970, month := 1, day := 1 }
  hour := 1
  minute := 1
  second := 1
  nanosecond := 1

def anyTransaction : Transaction :=
  .create anyMoment "" "" .debit .zero "" anyMoment.date

/-- The clauses that compile are those that some transaction satisfies. -/
theorem compiles_iff_satisfiable : c.compiles = true ↔ c.Satisfiable := by
  constructor
  · intro h
    obtain ⟨p, hp⟩ := compiles_iff.mp h
    refine ⟨p.sample anyTransaction, ?_⟩
    rw [accepts_of_compile hp]
    exact p.test_sample anyTransaction
  · rintro ⟨t, haccepts⟩
    exact compiles_of_accepts haccepts

end Clause

/-!
## Validation
-/

namespace Rule

variable {rule : Rule} {alive rest : List Clause} {dead : Clause}

theorem firstFault?_cons_of_compiles {c : Clause} (h : c.compiles = true) (position : Nat)
    (clauses : List Clause) :
    firstFault? position (c :: clauses) = firstFault? (position + 1) clauses := by
  obtain ⟨p, hp⟩ := Clause.compiles_iff.mp h
  rw [firstFault?, hp]

theorem firstFault?_cons_of_error {c : Clause} {e : ClauseError} (h : c.compile = .error e)
    (position : Nat) (clauses : List Clause) :
    firstFault? position (c :: clauses) = some (position, e) := by
  rw [firstFault?, h]

theorem firstFault?_eq_none_iff {position : Nat} {clauses : List Clause} :
    firstFault? position clauses = none ↔ ∀ c ∈ clauses, c.compiles = true := by
  induction clauses generalizing position with
  | nil => simp [firstFault?]
  | cons c cs ih =>
      rw [List.forall_mem_cons]
      cases hcompiles : c.compiles with
      | true => rw [firstFault?_cons_of_compiles hcompiles, ih, and_iff_right rfl]
      | false =>
          obtain ⟨e, he⟩ := Clause.exists_error_of_not_compiles hcompiles
          simp [firstFault?_cons_of_error he]

theorem firstFault?_append_cons {e : ClauseError} (position : Nat)
    (halive : ∀ c ∈ alive, c.compiles = true) (hdead : dead.compile = .error e) :
    firstFault? position (alive ++ dead :: rest) = some (position + alive.length, e) := by
  induction alive generalizing position with
  | nil => exact firstFault?_cons_of_error hdead position rest
  | cons c cs ih =>
      rw [List.forall_mem_cons] at halive
      rw [List.cons_append, firstFault?_cons_of_compiles halive.1, ih _ halive.2, List.length_cons,
        Nat.add_assoc, Nat.add_comm 1]

def faultReport (name : String) (position : Nat) (e : ClauseError) : String :=
  "Rule '" ++ name ++ "' clause " ++ String.ofList (Nat.toDigits 10 position) ++ ": " ++ e.message

theorem validate_eq_ok_iff :
    rule.validate = .ok () ↔ validateName rule.name = .ok () ∧ rule.clauses ≠ [] ∧
      firstFault? 1 rule.clauses = none := by
  unfold validate
  cases validateName rule.name with
  | error e => simp [bind, Except.bind]
  | ok u =>
      cases rule.clauses with
      | nil => simp [bind, Except.bind, throw, throwThe, MonadExceptOf.throw]
      | cons c cs =>
          cases firstFault? 1 (c :: cs) with
          | none => simp [bind, Except.bind, pure, Except.pure]
          | some fault => simp [bind, Except.bind, throw, throwThe, MonadExceptOf.throw]

theorem validate_of_fault {position : Nat} {e : ClauseError}
    (hname : validateName rule.name = .ok ())
    (hfault : firstFault? 1 rule.clauses = some (position, e)) :
    rule.validate = .error (.validation (faultReport rule.name position e)) := by
  unfold validate
  rw [hname, hfault]
  cases hclauses : rule.clauses with
  | nil =>
      rw [hclauses] at hfault
      cases hfault
  | cons c cs => rfl

/-- Validation accepts a rule if and only if it accepts the name, there are clauses, and every clause
is satisfied by some transaction. Where only the clauses are at fault, it reports the first one that
no transaction satisfies, by its place in the list. The clauses that some transaction satisfies are
those that compile. -/
theorem validation_finds_dead_clauses (rule : Rule) :
    (rule.validate = .ok () ↔ validateName rule.name = .ok () ∧ rule.clauses ≠ [] ∧
      ∀ c ∈ rule.clauses, c.Satisfiable) ∧
    (∀ alive dead rest, rule.clauses = alive ++ dead :: rest → validateName rule.name = .ok () →
      (∀ c ∈ alive, c.Satisfiable) → ¬ dead.Satisfiable →
      ∃ e, dead.compile = .error e ∧
        rule.validate = .error (.validation (faultReport rule.name (alive.length + 1) e))) ∧
    (∀ c : Clause, (∃ p, c.compile = .ok p) ↔ c.Satisfiable) := by
  refine ⟨?_, ?_, fun c => ?_⟩
  · simp only [validate_eq_ok_iff, firstFault?_eq_none_iff, Clause.compiles_iff_satisfiable]
  · intro alive dead rest hclauses hname halive hdead
    rw [← Clause.compiles_iff_satisfiable, Bool.not_eq_true] at hdead
    obtain ⟨e, he⟩ := Clause.exists_error_of_not_compiles hdead
    have hcompile : ∀ c ∈ alive, c.compiles = true :=
      fun c hc => Clause.compiles_iff_satisfiable.mpr (halive c hc)
    refine ⟨e, he, validate_of_fault hname ?_⟩
    rw [hclauses, firstFault?_append_cons 1 hcompile he, Nat.add_comm]
  · rw [← Clause.compiles_iff_satisfiable, Clause.compiles_iff]

end Rule

/-!
## A rule with a misprint

The second clause asks for the start of a number.
-/

namespace SmallAmounts

def lunch : Clause :=
  ⟨"description", "contains", .text "lunch"⟩

def misprint : Clause :=
  ⟨"amount", "starts_with", .text "1"⟩

def rule : Rule :=
  (Rule.create Clause.anyMoment "r-1" "acme" "Small" .debit).withClauses [lunch, misprint]

theorem validation_finds_dead_clauses_misprint :
    ¬ misprint.Satisfiable ∧
    rule.validate = .error (.validation
      "Rule 'Small' clause 2: operator \"starts_with\" is not valid for search key \"amount\"") := by
  have hname : Rule.validateName rule.name = .ok () := by decide
  have halive : ∀ c ∈ [lunch], c.Satisfiable := by
    intro c hc
    cases List.mem_singleton.mp hc
    exact Clause.compiles_iff_satisfiable.mp (by decide)
  have hdead : ¬ misprint.Satisfiable := by
    rw [← Clause.compiles_iff_satisfiable]
    decide
  obtain ⟨e, he, hreport⟩ :=
    (Rule.validation_finds_dead_clauses rule).2.1 [lunch] misprint [] rfl hname halive hdead
  cases he
  exact ⟨hdead, hreport⟩

end SmallAmounts
end BankFeed
