import BankFeed.Proofs.Rule.Amount
import Mathlib.Logic.Relation

/-!
# Weaker rules

A rule is weakened by edits: an operator is replaced by one that asks for less, a clause is dropped
where all are needed, one is added where any will do, or "all" becomes "any". What a rule accepts it
still accepts after any number of such edits, with one exception. A test for equality that loses a
carry may hold of a number that is less or greater, and then "at least" or "at most" in its place
does not.
-/

namespace BankFeed

/-!
## Operators that ask for less
-/

inductive TextOperator.Weakens : TextOperator → TextOperator → Prop where
  | isToStartsWith : Weakens .is .startsWith
  | startsWithToContains : Weakens .startsWith .contains

inductive NumericOperator.Weakens : NumericOperator → NumericOperator → Prop where
  | equalToAtMost : Weakens .equal .atMost
  | equalToAtLeast : Weakens .equal .atLeast
  | lessToAtMost : Weakens .less .atMost
  | greaterToAtLeast : Weakens .greater .atLeast

theorem TextOperator.apply_of_weakens {op op' : TextOperator} (h : op.Weakens op')
    {field value : String} (hholds : op.apply field value = true) :
    op'.apply field value = true := by
  cases h with
  | isToStartsWith =>
      have hsame : Text.lower field.toList = Text.lower value.toList := beq_iff_eq.mp hholds
      have hprefix : Text.lower value.toList <+: Text.lower field.toList := by
        rw [hsame]
      exact List.isPrefixOf_iff_prefix.mpr hprefix
  | startsWithToContains =>
      have hprefix : Text.lower value.toList <+: Text.lower field.toList :=
        List.isPrefixOf_iff_prefix.mp hholds
      exact Text.occursIn_iff.mpr hprefix.isInfix

theorem NumericOperator.relates_of_weakens {op op' : NumericOperator} (h : op.Weakens op')
    {x y : ℚ} (hrelates : op.Relates x y) : op'.Relates x y := by
  cases h with
  | equalToAtMost => exact le_of_eq hrelates
  | equalToAtLeast => exact ge_of_eq hrelates
  | lessToAtMost => exact le_of_lt hrelates
  | greaterToAtLeast => exact le_of_lt hrelates

theorem NumericOperator.Weakens.ne_equal {op op' : NumericOperator} (h : op.Weakens op') :
    op' ≠ .equal := by
  cases h <;> exact nofun

theorem NumericOperator.Weakens.not_weakens {op op' op'' : NumericOperator}
    (h : op.Weakens op') : ¬ op'.Weakens op'' := by
  cases h <;> exact nofun

theorem TextOperator.symbol_ne_symbol (op : TextOperator) (op' : NumericOperator) :
    op.symbol ≠ op'.symbol := by
  cases op <;> cases op' <;> decide

theorem TextOperator.symbol_injective : Function.Injective symbol := by
  intro op op' h
  apply Option.some.inj
  rw [← ofSymbol?_symbol op, ← ofSymbol?_symbol op', h]

theorem NumericOperator.symbol_injective : Function.Injective symbol := by
  intro op op' h
  apply Option.some.inj
  rw [← ofSymbol?_symbol op, ← ofSymbol?_symbol op', h]

/-!
## Clauses
-/

namespace Clause

variable {c c' : Clause} {t : Transaction}

def withOperator (c : Clause) (operator : String) : Clause :=
  { c with operator := operator }

/-- The second clause is the first one with an operator that asks for less. -/
inductive Weakens (c : Clause) : Clause → Prop where
  | text {op op' : TextOperator} (weaker : op.Weakens op') (operator : c.operator = op.symbol) :
      Weakens c (c.withOperator op'.symbol)
  | number {op op' : NumericOperator} (weaker : op.Weakens op')
      (operator : c.operator = op.symbol) : Weakens c (c.withOperator op'.symbol)

theorem compile_eq_description_iff {op : TextOperator} {value : String} :
    c.compile = .ok (.description op value) ↔
      c.searchKey = "description" ∧ c.operator = op.symbol ∧ c.value.asText = value := by
  constructor
  · intro h
    unfold compile at h
    split at h
    · cases h
    · next hkey =>
        split at h
        · cases h
        · next hop =>
            cases h
            exact ⟨SearchKey.ofName?_eq_some_iff.mp hkey,
              TextOperator.ofSymbol?_eq_some_iff.mp hop, rfl⟩
    · split at h
      · cases h
      · split at h <;> cases h
  · intro h
    rcases h with ⟨hkey, hop, rfl⟩
    have hname : SearchKey.ofName? "description" = some .description :=
      SearchKey.ofName?_name .description
    unfold compile
    simp only [hkey, hname, hop, TextOperator.ofSymbol?_symbol]

theorem Weakens.not_mayErr (h : c.Weakens c') : ¬ c'.MayErr t := by
  intro herr
  have hequal : c'.operator = NumericOperator.equal.symbol := operator_of_mayErr herr
  cases h with
  | text weaker operator => exact TextOperator.symbol_ne_symbol _ _ hequal
  | number weaker operator => exact weaker.ne_equal (NumericOperator.symbol_injective hequal)

theorem Weakens.not_weakens_of_mayErr {c'' : Clause} (h : c.Weakens c') (herr : c.MayErr t) :
    ¬ c'.Weakens c'' := by
  have hequal : c.operator = NumericOperator.equal.symbol := operator_of_mayErr herr
  intro hagain
  cases h with
  | text weaker operator =>
      exact TextOperator.symbol_ne_symbol _ _ (operator.symm.trans hequal)
  | @number op op' weaker operator =>
      cases hagain with
      | text weaker' operator' => exact TextOperator.symbol_ne_symbol _ _ operator'.symm
      | number weaker' operator' =>
          cases NumericOperator.symbol_injective operator'
          exact weaker.not_weakens weaker'

theorem accepts_of_weakens (h : c.Weakens c') (herr : ¬ c.MayErr t)
    (haccepts : c.accepts t = true) : c'.accepts t = true := by
  obtain ⟨p, hp⟩ := compiles_iff.mp (compiles_of_accepts haccepts)
  have htest : p.test t = true := by rwa [accepts_of_compile hp] at haccepts
  cases p with
  | description op₀ value =>
      rcases compile_eq_description_iff.mp hp with ⟨hkey, hop, hvalue⟩
      cases h with
      | @text op op' weaker operator =>
          cases TextOperator.symbol_injective (hop.symm.trans operator)
          have hcompile : (c.withOperator op'.symbol).compile = .ok (.description op' value) :=
            compile_eq_description_iff.mpr ⟨hkey, rfl, hvalue⟩
          rw [accepts_of_compile hcompile]
          exact TextOperator.apply_of_weakens weaker htest
      -- A symbol belongs to one type of operator, so the other kind of change is none of this clause.
      | number weaker operator =>
          exact absurd (hop.symm.trans operator) (TextOperator.symbol_ne_symbol _ _)
  | amount op₀ d =>
      rcases compile_eq_amount_iff.mp hp with ⟨hkey, hop, hvalue⟩
      cases h with
      | text weaker operator =>
          exact absurd (operator.symm.trans hop) (TextOperator.symbol_ne_symbol _ _)
      | @number op op' weaker operator =>
          cases NumericOperator.symbol_injective (hop.symm.trans operator)
          have hcompile : (c.withOperator op'.symbol).compile = .ok (.amount op' d) :=
            compile_eq_amount_iff.mpr ⟨hkey, rfl, hvalue⟩
          have hrelates := (accepts_iff_relates hp herr).mp haccepts
          rw [accepts_of_compile hcompile]
          apply (NumericOperator.apply_iff_relates ?_).mpr
          · exact NumericOperator.relates_of_weakens weaker hrelates
          · intro hequal
            exact absurd hequal weaker.ne_equal

end Clause

/-!
## Rules
-/

namespace Rule

variable {rule rule' : Rule} {P Q : Clause → Prop} {t : Transaction}

inductive Weakens (rule : Rule) : Rule → Prop where
  | clause {before after : List Clause} {c c' : Clause}
      (clauses : rule.clauses = before ++ c :: after) (weaker : c.Weakens c') :
      Weakens rule (rule.withClauses (before ++ c' :: after))
  | drop {before after : List Clause} {c : Clause} (all : rule.matchesOnAll = true)
      (clauses : rule.clauses = before ++ c :: after) (rest : before ++ after ≠ []) :
      Weakens rule (rule.withClauses (before ++ after))
  | add {before after : List Clause} (any : rule.matchesOnAll = false)
      (clauses : rule.clauses = before ++ after) (c : Clause) :
      Weakens rule (rule.withClauses (before ++ c :: after))
  | toAny (all : rule.matchesOnAll = true) : Weakens rule { rule with matchesOnAll := false }

abbrev WeakensTo : Rule → Rule → Prop :=
  Relation.ReflTransGen Weakens

/-- The property holds of the clauses as the rule joins them: of all, and there are some, or of
any. -/
def Joins (rule : Rule) (P : Clause → Prop) : Prop :=
  if rule.matchesOnAll then rule.clauses ≠ [] ∧ ∀ c ∈ rule.clauses, P c
  else ∃ c ∈ rule.clauses, P c

theorem joins_iff_of_all (h : rule.matchesOnAll = true) :
    rule.Joins P ↔ rule.clauses ≠ [] ∧ ∀ c ∈ rule.clauses, P c := by
  unfold Joins
  rw [if_pos h]

theorem joins_iff_of_any (h : rule.matchesOnAll = false) :
    rule.Joins P ↔ ∃ c ∈ rule.clauses, P c := by
  unfold Joins
  rw [h, if_neg Bool.false_ne_true]

theorem accepts_iff_joins : rule.accepts t = true ↔ rule.Joins (·.accepts t = true) := by
  cases hpolicy : rule.matchesOnAll with
  | true => rw [accepts_iff_of_all hpolicy, joins_iff_of_all hpolicy]
  | false => rw [accepts_iff_of_any hpolicy, joins_iff_of_any hpolicy]

theorem Joins.imp (h : rule.Joins P) (himp : ∀ c ∈ rule.clauses, P c → Q c) : rule.Joins Q := by
  cases hpolicy : rule.matchesOnAll with
  | true =>
      rw [joins_iff_of_all hpolicy] at h ⊢
      exact ⟨h.1, fun c hc => himp c hc (h.2 c hc)⟩
  | false =>
      rw [joins_iff_of_any hpolicy] at h ⊢
      rcases h with ⟨c, hc, hP⟩
      exact ⟨c, hc, himp c hc hP⟩

theorem Joins.of_clause {before after : List Clause} {c c' : Clause}
    (clauses : rule.clauses = before ++ c :: after) (hP : P c → P c') (h : rule.Joins P) :
    (rule.withClauses (before ++ c' :: after)).Joins P := by
  cases hpolicy : rule.matchesOnAll with
  | true =>
      rw [joins_iff_of_all hpolicy, clauses, List.forall_mem_append, List.forall_mem_cons] at h
      rcases h with ⟨_, hbefore, hc, hafter⟩
      refine (joins_iff_of_all ?_).mpr ⟨?_, ?_⟩
      · exact hpolicy
      · exact List.append_ne_nil_of_right_ne_nil before (List.cons_ne_nil c' after)
      · exact List.forall_mem_append.mpr ⟨hbefore, List.forall_mem_cons.mpr ⟨hP hc, hafter⟩⟩
  | false =>
      rw [joins_iff_of_any hpolicy, clauses] at h
      rcases h with ⟨d, hd, hPd⟩
      refine (joins_iff_of_any ?_).mpr ?_
      · exact hpolicy
      rcases List.mem_append.mp hd with hbefore | hrest
      · exact ⟨d, List.mem_append_left _ hbefore, hPd⟩
      rcases List.mem_cons.mp hrest with rfl | hafter
      · exact ⟨c', List.mem_append_right _ List.mem_cons_self, hP hPd⟩
      · exact ⟨d, List.mem_append_right _ (List.mem_cons_of_mem c' hafter), hPd⟩

theorem subset_insert {before after : List Clause} {c : Clause} :
    before ++ after ⊆ before ++ c :: after :=
  ((List.sublist_cons_self c after).append_left before).subset

/-- What a weaker operator keeps of a clause, an edit keeps of the joined clauses. -/
theorem Joins.of_weakens (hP : ∀ c c' : Clause, c.Weakens c' → P c → P c') (h : rule.Joins P)
    (hedit : rule.Weakens rule') : rule'.Joins P := by
  cases hedit with
  | clause clauses weaker => exact h.of_clause clauses (hP _ _ weaker)
  | @drop before after c all clauses rest =>
      rw [joins_iff_of_all all, clauses] at h
      refine (joins_iff_of_all ?_).mpr ⟨rest, ?_⟩
      · exact all
      · exact fun d hd => h.2 d (subset_insert hd)
  | @add before after any clauses c =>
      rw [joins_iff_of_any any, clauses] at h
      rcases h with ⟨d, hd, hPd⟩
      refine (joins_iff_of_any ?_).mpr ⟨d, subset_insert hd, hPd⟩
      exact any
  | toAny all =>
      rw [joins_iff_of_all all] at h
      rcases List.exists_mem_of_ne_nil rule.clauses h.1 with ⟨c, hc⟩
      refine (joins_iff_of_any ?_).mpr ⟨c, hc, h.2 c hc⟩
      rfl

theorem Joins.of_weakensTo (hP : ∀ c c' : Clause, c.Weakens c' → P c → P c') (h : rule.Joins P)
    (hedits : rule.WeakensTo rule') : rule'.Joins P := by
  induction hedits with
  | refl => exact h
  | tail _ hedit ih => exact ih.of_weakens hP hedit

/-!
## Matches

An edit can undo a match only where a test for equality loses a carry. So it is followed through all
edits which clauses come from such a test; all others still say yes.
-/

/-- The clause says yes of the transaction, and is a clause of the rule if it may err, or it has been
made of a clause of the rule that may err. -/
def Keeps (rule : Rule) (t : Transaction) (c : Clause) : Prop :=
  (c.accepts t = true ∧ (c.MayErr t → c ∈ rule.clauses)) ∨
    ∃ d ∈ rule.clauses, d.MayErr t ∧ d.Weakens c

theorem Keeps.of_weakens {c c' : Clause} (h : rule.Keeps t c) (hedit : c.Weakens c') :
    rule.Keeps t c' := by
  rcases h with ⟨haccepts, hmem⟩ | ⟨d, _, herr, hturned⟩
  · by_cases herr : c.MayErr t
    · exact .inr ⟨c, hmem herr, herr, hedit⟩
    · refine .inl ⟨Clause.accepts_of_weakens hedit herr haccepts, ?_⟩
      intro herr'
      exact absurd herr' hedit.not_mayErr
  · exact absurd hedit (hturned.not_weakens_of_mayErr herr)

theorem joins_keeps (h : rule.accepts t = true) : rule.Joins (rule.Keeps t) := by
  apply (accepts_iff_joins.mp h).imp
  intro c hc haccepts
  exact .inl ⟨haccepts, fun _ => hc⟩

/-- Any number of edits after which a rule asks for less leave its matches, unless a clause for which
the test for equality may lose a carry has been turned into "at most" or "at least". -/
theorem weakening_keeps_matches (hedits : rule.WeakensTo rule') (haccepts : rule.accepts t = true)
    (hequal : ∀ c ∈ rule.clauses, c.MayErr t → ∀ c' ∈ rule'.clauses, ¬ c.Weakens c') :
    rule'.accepts t = true := by
  have hkeeps : rule'.Joins (rule.Keeps t) :=
    (joins_keeps haccepts).of_weakensTo (fun _ _ hedit h => h.of_weakens hedit) hedits
  apply accepts_iff_joins.mpr
  apply hkeeps.imp
  intro c' hc' hkept
  rcases hkept with ⟨hyes, _⟩ | ⟨c, hc, herr, hturned⟩
  · exact hyes
  · exact absurd hturned (hequal c hc herr c' hc')

end Rule

/-!
## A coffee

At first the rule asks for its name, its price and a limit, in the end for a part of the name or the
price as a limit or for something that cannot be read.
-/

namespace Coffee

def name : Clause :=
  ⟨"description", "is", .text "COFFEE"⟩

def price : Clause :=
  ⟨"amount", "=", .text "2.00"⟩

def limit : Clause :=
  ⟨"amount", "<", .number (.ofInt 3)⟩

def unreadable : Clause :=
  ⟨"colour", "~", .text "brown"⟩

def rule : Rule :=
  { Rule.create Clause.anyMoment "r-1" "acme" "coffee" .debit with
    matchesOnAll := true
    clauses := [name, price, limit] }

def looser : Rule :=
  { rule with
    matchesOnAll := false
    clauses := [name.withOperator "contains", unreadable, price.withOperator "<="] }

def purchase : Transaction :=
  .create Clause.anyMoment "t-1" "acme" .debit (.ofInt 2) "Coffee" Clause.anyMoment.date

theorem weakensTo_looser : rule.WeakensTo looser := by
  apply Relation.ReflTransGen.head
  · exact @Rule.Weakens.clause _ [] [price, limit] name _ rfl (.text .isToStartsWith rfl)
  apply Relation.ReflTransGen.head
  · exact @Rule.Weakens.drop _ [_, price] [] limit rfl rfl nofun
  apply Relation.ReflTransGen.head
  · exact @Rule.Weakens.clause _ [_] [] price _ rfl (.number .equalToAtMost rfl)
  apply Relation.ReflTransGen.head
  · exact .toAny rfl
  apply Relation.ReflTransGen.head
  · exact @Rule.Weakens.clause _ [] [_] _ _ rfl (.text .startsWithToContains rfl)
  apply Relation.ReflTransGen.single
  exact @Rule.Weakens.add _ [_] [_] rfl rfl unreadable

theorem not_mayErr_price : ¬ price.MayErr purchase := by
  have hvalue : price.value.asDecimal? = some { coefficient := 200, scale := 2 } := by decide
  exact Clause.not_mayErr_of_lt hvalue (by decide) (by decide)

theorem not_mayErr {c : Clause} (hc : c ∈ rule.clauses) : ¬ c.MayErr purchase := by
  intro herr
  have hequal : c.operator = "=" := Clause.operator_of_mayErr herr
  rcases List.mem_cons.mp hc with rfl | hc
  · exact absurd hequal (by decide)
  rcases List.mem_cons.mp hc with rfl | hc
  · exact not_mayErr_price herr
  · cases List.mem_singleton.mp hc
    exact absurd hequal (by decide)

theorem weakening_keeps_matches_coffee :
    rule.accepts purchase = true ∧ looser.accepts purchase = true := by
  have haccepts : rule.accepts purchase = true := by decide
  refine ⟨haccepts, Rule.weakening_keeps_matches weakensTo_looser haccepts ?_⟩
  intro c hc herr
  exact absurd herr (not_mayErr hc)

end Coffee

/-!
## A match that is lost

The tenth power of ten times the number exceeds the amount's coefficient by 2⁹⁶, the carry that the
test for equality loses.
-/

namespace LostCarry

def number : Decimal :=
  .ofInt 137050024767500054784

def amount : Decimal :=
  { TenPlaces.sum with coefficient := 1291272085160736210246456049664 }

def exactly : Clause :=
  ⟨"amount", "=", .number number⟩

def rule : Rule :=
  (Rule.create Clause.anyMoment "r-1" "acme" "number" .debit).withClauses [exactly]

def looser : Rule :=
  rule.withClauses [exactly.withOperator ">="]

def transaction : Transaction :=
  .create Clause.anyMoment "t-1" "acme" .debit amount "number" Clause.anyMoment.date

theorem match_lost_by_weakening :
    rule.WeakensTo looser ∧ rule.accepts transaction = true ∧
      looser.accepts transaction = false := by
  refine ⟨?_, by decide, by decide⟩
  apply Relation.ReflTransGen.single
  exact @Rule.Weakens.clause _ [] [] exactly _ rfl (.number .equalToAtLeast rfl)

end LostCarry
end BankFeed
