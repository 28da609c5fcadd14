import BankFeed.Rule

/-!
# Rules and their clauses

A rule says of a transaction what its clauses say one by one, joined by "all" or "any", except that
a rule without clauses says no. So neither the order of the clauses nor their number counts, only
which clauses there are. A clause that does not compile says no of every transaction, wherever it
stands: "any" can do without it, and "all" fails because of it.
-/

namespace BankFeed

def Clause.compiles (c : Clause) : Bool :=
  c.compile.isOk

namespace Clause

variable {c : Clause} {t : Transaction}

theorem compiles_iff : c.compiles = true ↔ ∃ p, c.compile = .ok p := by
  unfold compiles
  cases c.compile <;> simp [Except.isOk, Except.toBool]

theorem exists_error_of_not_compiles (h : c.compiles = false) : ∃ e, c.compile = .error e := by
  cases hcompile : c.compile with
  | error e => exact ⟨e, rfl⟩
  | ok p =>
      rw [compiles_iff.mpr ⟨p, hcompile⟩] at h
      cases h

theorem accepts_of_not_compiles (h : c.compiles = false) (t : Transaction) :
    c.accepts t = false := by
  obtain ⟨e, he⟩ := exists_error_of_not_compiles h
  exact accepts_of_error he t

theorem compiles_of_accepts (h : c.accepts t = true) : c.compiles = true := by
  rw [← Bool.not_eq_false]
  intro hcompiles
  rw [accepts_of_not_compiles hcompiles] at h
  cases h

end Clause

namespace Rule

variable {rule rule' : Rule} {c : Clause} {t : Transaction}

def withClauses (rule : Rule) (clauses : List Clause) : Rule :=
  { rule with clauses := clauses }

def only (rule : Rule) (c : Clause) : Rule :=
  rule.withClauses [c]

def compiling (rule : Rule) : Rule :=
  rule.withClauses (rule.clauses.filter (·.compiles))

/-!
## What a rule says
-/

theorem accepts_iff_of_all (h : rule.matchesOnAll = true) :
    rule.accepts t = true ↔ rule.clauses ≠ [] ∧ ∀ c ∈ rule.clauses, c.accepts t = true := by
  unfold accepts
  cases rule.clauses <;> simp [h]

theorem accepts_iff_of_any (h : rule.matchesOnAll = false) :
    rule.accepts t = true ↔ ∃ c ∈ rule.clauses, c.accepts t = true := by
  unfold accepts
  cases rule.clauses <;> simp [h]

theorem accepts_only (rule : Rule) (c : Clause) (t : Transaction) :
    (rule.only c).accepts t = c.accepts t := by
  simp [accepts, only, withClauses]

theorem accepts_eq_of_mem_iff (hall : rule'.matchesOnAll = rule.matchesOnAll)
    (h : ∀ c, c ∈ rule'.clauses ↔ c ∈ rule.clauses) : rule'.accepts t = rule.accepts t := by
  rw [Bool.eq_iff_iff]
  cases hpolicy : rule.matchesOnAll with
  | true =>
      rw [accepts_iff_of_all hpolicy, accepts_iff_of_all (hall.trans hpolicy)]
      simp only [ne_eq, List.eq_nil_iff_forall_not_mem, h]
  | false =>
      rw [accepts_iff_of_any hpolicy, accepts_iff_of_any (hall.trans hpolicy)]
      simp only [h]

theorem accepts_eq_of_map {t' : Transaction} (hall : rule'.matchesOnAll = rule.matchesOnAll)
    (h : rule'.clauses.map (·.accepts t') = rule.clauses.map (·.accepts t)) :
    rule'.accepts t' = rule.accepts t := by
  have hempty : rule'.clauses.isEmpty = rule.clauses.isEmpty := by
    simpa only [List.isEmpty_map] using congrArg List.isEmpty h
  have hevery : rule'.clauses.all (·.accepts t') = rule.clauses.all (·.accepts t) := by
    simpa only [List.all_map, Function.comp_def] using congrArg (List.all · fun b => b) h
  have hsome : rule'.clauses.any (·.accepts t') = rule.clauses.any (·.accepts t) := by
    simpa only [List.any_map, Function.comp_def] using congrArg (List.any · fun b => b) h
  unfold accepts
  rw [hempty, hall, hevery, hsome]

/-!
## Clauses that do not compile
-/

theorem accepts_compiling (h : rule.matchesOnAll = false) :
    rule.compiling.accepts t = rule.accepts t := by
  have hpolicy : rule.compiling.matchesOnAll = false := h
  rw [Bool.eq_iff_iff, accepts_iff_of_any h, accepts_iff_of_any hpolicy]
  constructor
  · rintro ⟨c, hc, haccepts⟩
    exact ⟨c, (List.mem_filter.mp hc).1, haccepts⟩
  · rintro ⟨c, hc, haccepts⟩
    exact ⟨c, List.mem_filter.mpr ⟨hc, Clause.compiles_of_accepts haccepts⟩, haccepts⟩

theorem accepts_of_not_compiles (h : rule.matchesOnAll = true) (hc : c ∈ rule.clauses)
    (hcompiles : c.compiles = false) : rule.accepts t = false := by
  rw [Bool.eq_false_iff, Ne, accepts_iff_of_all h]
  rintro ⟨-, haccepts⟩
  have hno := Clause.accepts_of_not_compiles hcompiles t
  rw [haccepts c hc] at hno
  cases hno

/-- A rule with clauses says what they say one by one, joined as it demands, and one without clauses
says no. A clause that does not compile says no: "any" says the same without such clauses, and "all"
always says no with one. The order and the number of the clauses do not count. -/
theorem clauses_decide (rule : Rule) :
    (∀ t, rule.accepts t = true ↔ rule.clauses ≠ [] ∧
      if rule.matchesOnAll then ∀ c ∈ rule.clauses, (rule.only c).accepts t = true
      else ∃ c ∈ rule.clauses, (rule.only c).accepts t = true) ∧
    (∀ c : Clause, c.compiles = false → ∀ t, (rule.only c).accepts t = false) ∧
    (rule.matchesOnAll = false → ∀ t, rule.compiling.accepts t = rule.accepts t) ∧
    (rule.matchesOnAll = true → ∀ c ∈ rule.clauses, c.compiles = false →
      ∀ t, rule.accepts t = false) ∧
    (∀ clauses : List Clause, (∀ c, c ∈ clauses ↔ c ∈ rule.clauses) →
      ∀ t, (rule.withClauses clauses).accepts t = rule.accepts t) := by
  refine ⟨fun t => ?_, fun c hc t => ?_, fun h t => accepts_compiling h,
    fun h c hc hcompiles t => accepts_of_not_compiles h hc hcompiles,
    fun clauses h t => accepts_eq_of_mem_iff rfl h⟩
  · simp only [accepts_only]
    cases hpolicy : rule.matchesOnAll with
    | true => simpa using accepts_iff_of_all hpolicy
    | false =>
        rw [accepts_iff_of_any hpolicy]
        constructor
        · rintro ⟨c, hc, haccepts⟩
          exact ⟨List.ne_nil_of_mem hc, by simpa using ⟨c, hc, haccepts⟩⟩
        · rintro ⟨-, hsome⟩
          simpa using hsome
  · rw [accepts_only]
    exact Clause.accepts_of_not_compiles hc t

end Rule

/-!
## A rule for coffee

One of its clauses asks for a field that transactions do not have.
-/

namespace CoffeeRule

def moment : Timestamp where
  date := { year := 2024, month := 7, day := 1 }
  hour := 9
  minute := 12
  second := 40
  nanosecond := 750000000

def purchase : Transaction :=
  .create moment "t-1" "acme" .debit (.ofInt 4) "Corner Coffee Shop" moment.date

def payee : Clause :=
  ⟨"payee", "is", .text "bean"⟩

def coffee : Clause :=
  ⟨"description", "contains", .text "coffee"⟩

def anyRule : Rule :=
  (Rule.create moment "r-1" "acme" "coffee" .debit).withClauses [payee, coffee]

def allRule : Rule :=
  { anyRule with matchesOnAll := true }

theorem clauses_decide_purchase :
    anyRule.accepts purchase = true ∧
    anyRule.compiling.accepts purchase = true ∧
    (anyRule.withClauses [coffee, payee, coffee]).accepts purchase = true ∧
    (anyRule.only payee).accepts purchase = false ∧
    allRule.accepts purchase = false := by
  have haccepts : anyRule.accepts purchase = true := by decide
  have hpayee : payee.compiles = false := by decide
  have hmem : ∀ c, c ∈ [coffee, payee, coffee] ↔ c ∈ anyRule.clauses := by
    intro c
    simp [anyRule, Rule.withClauses, or_comm]
  obtain ⟨-, hmalformed, hany, -, hsame⟩ := Rule.clauses_decide anyRule
  obtain ⟨-, -, -, hall, -⟩ := Rule.clauses_decide allRule
  exact ⟨haccepts, (hany rfl purchase).trans haccepts,
    (hsame [coffee, payee, coffee] hmem purchase).trans haccepts, hmalformed payee hpayee purchase,
    hall rfl payee List.mem_cons_self hpayee purchase⟩

end CoffeeRule
end BankFeed
