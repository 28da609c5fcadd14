import BankFeed.Rule
import Mathlib.Data.List.Nodup

/-!
# The order of rules

Rules are tried by priority, older ones first, and rules that tie keep their order. There is
only one list with these two properties, and sorting finds it.
-/

namespace BankFeed

open Std

/-!
## Comparisons

Days, moments and rules are compared part by part.
-/

theorem transCmp_on {α β : Type} (f : α → β) (cmp : β → β → Ordering) [TransCmp cmp] :
    TransCmp fun a b => cmp (f a) (f b) where
  eq_swap := OrientedCmp.eq_swap
  isLE_trans := TransCmp.isLE_trans

instance : TransCmp Date.cmp :=
  inferInstanceAs (TransCmp (compareLex
    (compareLex (compareOn Date.year) (compareOn Date.month)) (compareOn Date.day)))

instance : TransCmp Timestamp.cmp :=
  have : TransCmp fun a b : Timestamp => a.date.cmp b.date := transCmp_on Timestamp.date Date.cmp
  inferInstanceAs (TransCmp (compareLex (compareLex (compareLex (compareLex
    (fun a b : Timestamp => a.date.cmp b.date) (compareOn Timestamp.hour))
    (compareOn Timestamp.minute)) (compareOn Timestamp.second))
    (compareOn Timestamp.nanosecond)))

theorem Date.eq_of_cmp {a b : Date} (h : a.cmp b = .eq) : a = b := by
  simp only [Date.cmp, Ordering.then_eq_eq, Std.compare_eq_iff_eq] at h
  rcases h with ⟨⟨hyear, hmonth⟩, hday⟩
  cases a
  cases b
  cases hyear
  cases hmonth
  cases hday
  rfl

theorem Timestamp.eq_of_cmp {a b : Timestamp} (h : a.cmp b = .eq) : a = b := by
  simp only [Timestamp.cmp, Ordering.then_eq_eq, Std.compare_eq_iff_eq] at h
  rcases h with ⟨⟨⟨⟨hdate, hhour⟩, hminute⟩, hsecond⟩, hnanosecond⟩
  cases a
  cases b
  cases Date.eq_of_cmp hdate
  cases hhour
  cases hminute
  cases hsecond
  cases hnanosecond
  rfl

namespace Rule

instance : TransCmp Rule.order :=
  have : TransCmp fun a b : Rule => a.createdAt.cmp b.createdAt :=
    transCmp_on Rule.createdAt Timestamp.cmp
  inferInstanceAs (TransCmp (compareLex (compareOn Rule.priority)
    (fun a b : Rule => a.createdAt.cmp b.createdAt)))

def precedes (a b : Rule) : Bool :=
  a.order b != .gt

theorem precedes_eq_isLE (a b : Rule) : a.precedes b = (a.order b).isLE := by
  unfold precedes
  cases a.order b <;> rfl

theorem order_swap (a b : Rule) : b.order a = (a.order b).swap :=
  OrientedCmp.eq_swap

theorem precedes_trans (a b c : Rule) (hab : a.precedes b = true) (hbc : b.precedes c = true) :
    a.precedes c = true := by
  rw [precedes_eq_isLE] at *
  exact TransCmp.isLE_trans hab hbc

theorem precedes_total (a b : Rule) : (a.precedes b || b.precedes a) = true := by
  rw [precedes_eq_isLE, precedes_eq_isLE, order_swap a b]
  cases a.order b <;> rfl

def ties (a b : Rule) : Bool :=
  a.order b == .eq

theorem ties_iff {a b : Rule} :
    a.ties b = true ↔ a.precedes b = true ∧ b.precedes a = true := by
  rw [precedes_eq_isLE, precedes_eq_isLE, order_swap a b]
  unfold ties
  cases a.order b <;> simp

theorem ties_self (a : Rule) : a.ties a = true := by
  unfold ties
  have hself : a.order a = .eq := ReflCmp.compare_self
  rw [hself]
  rfl

/-!
## Stable sorts

Sorting brings rules in order and keeps, for each rule, the list of those that tie with it.
-/

/-- The same rules in the order in which they are tried, those that tie as they came. -/
structure StablySorts (rules sorted : List Rule) : Prop where
  perm : sorted.Perm rules
  ordered : sorted.Pairwise fun a b => a.precedes b = true
  ties : ∀ rule ∈ rules, sorted.filter rule.ties = rules.filter rule.ties

theorem ordered_sorted (rules : List Rule) :
    (sorted rules).Pairwise fun a b => a.precedes b = true :=
  List.pairwise_mergeSort precedes_trans precedes_total rules

theorem ordered_filter_ties (rule : Rule) (rules : List Rule) :
    (rules.filter rule.ties).Pairwise fun a b => a.precedes b = true := by
  apply List.pairwise_of_forall_mem_list
  intro a ha b hb
  have hra := ties_iff.mp (List.mem_filter.mp ha).2
  have hrb := ties_iff.mp (List.mem_filter.mp hb).2
  exact precedes_trans a rule b hra.2 hrb.1

theorem stablySorts_sorted (rules : List Rule) : StablySorts rules (sorted rules) where
  perm := List.mergeSort_perm rules _
  ordered := ordered_sorted rules
  ties := by
    intro rule _
    have hsub : (rules.filter rule.ties).Sublist (sorted rules) :=
      List.sublist_mergeSort precedes_trans precedes_total (ordered_filter_ties rule rules)
        List.filter_sublist
    have htied : (rules.filter rule.ties).Sublist ((sorted rules).filter rule.ties) := by
      have h := hsub.filter rule.ties
      rw [List.filter_filter] at h
      simpa using h
    have hlength : (rules.filter rule.ties).length = ((sorted rules).filter rule.ties).length :=
      (((List.mergeSort_perm rules _).filter rule.ties).length_eq).symm
    exact (htied.eq_of_length hlength).symm

theorem precedes_of_mem {x y : Rule} {xs : List Rule}
    (hordered : (x :: xs).Pairwise fun a b => a.precedes b = true) (hy : y ∈ x :: xs) :
    x.precedes y = true := by
  rcases List.mem_cons.mp hy with heq | hmem
  · rw [heq]
    exact (ties_iff.mp (ties_self x)).1
  · exact (List.pairwise_cons.mp hordered).1 y hmem

/-- Of the same rules there is only one ordered list with given ties: its first rules tie, so
they are the same. -/
theorem eq_of_ordered_of_ties :
    ∀ {xs ys : List Rule}, xs.Perm ys → xs.Pairwise (fun a b => a.precedes b = true) →
      ys.Pairwise (fun a b => a.precedes b = true) →
      (∀ rule ∈ xs, xs.filter rule.ties = ys.filter rule.ties) → xs = ys
  | [], _, hperm, _, _, _ => hperm.nil_eq
  | _ :: _, [], hperm, _, _, _ => hperm.eq_nil
  | x :: xs, y :: ys, hperm, hxs, hys, hties => by
      have hxy : x.precedes y = true :=
        precedes_of_mem hxs (hperm.mem_iff.mpr List.mem_cons_self)
      have hyx : y.precedes x = true :=
        precedes_of_mem hys (hperm.mem_iff.mp List.mem_cons_self)
      have hheads : x = y := by
        have hx := hties x List.mem_cons_self
        simp only [List.filter_cons, ties_self, ties_iff.mpr ⟨hxy, hyx⟩, if_true] at hx
        injection hx
      subst hheads
      have htails : xs = ys := by
        apply eq_of_ordered_of_ties hperm.cons_inv (List.pairwise_cons.mp hxs).2
          (List.pairwise_cons.mp hys).2
        intro rule hrule
        have hboth := hties rule (List.mem_cons_of_mem x hrule)
        by_cases hx : rule.ties x = true
        · simpa [hx] using hboth
        · simpa [hx] using hboth
      rw [htails]

theorem StablySorts.unique {rules xs ys : List Rule} (hxs : StablySorts rules xs)
    (hys : StablySorts rules ys) : xs = ys := by
  apply eq_of_ordered_of_ties (hxs.perm.trans hys.perm.symm) hxs.ordered hys.ordered
  intro rule hrule
  have hmem : rule ∈ rules := hxs.perm.mem_iff.mp hrule
  rw [hxs.ties rule hmem, hys.ties rule hmem]

/-- The only stable sort of the rules for a tenant and a direction is the order of trial. -/
theorem applicable_of_stablySorts {tenantId : String} {direction : Direction}
    {rules xs : List Rule} (h : StablySorts (rules.filter (·.covers tenantId direction)) xs) :
    applicable tenantId direction rules = xs :=
  (stablySorts_sorted _).unique h

theorem applicable_applicable (tenantId : String) (direction : Direction) (rules : List Rule) :
    applicable tenantId direction (applicable tenantId direction rules) =
      applicable tenantId direction rules := by
  have hcovered : (applicable tenantId direction rules).filter (·.covers tenantId direction) =
      applicable tenantId direction rules := by
    apply List.filter_eq_self.mpr
    intro rule hrule
    exact (mem_applicable.mp hrule).2
  show sorted ((applicable tenantId direction rules).filter (·.covers tenantId direction)) = _
  rw [hcovered]
  exact List.mergeSort_of_pairwise (ordered_sorted _)

/-!
## Distinct ranks

Only rules of one rank can tie. Where all ranks differ, it does not matter how the rules came.
-/

/-- By what a rule is ordered: its priority and its age. -/
def rank (rule : Rule) : UInt32 × Timestamp :=
  (rule.priority, rule.createdAt)

theorem rank_eq_of_ties {a b : Rule} (h : a.ties b = true) : a.rank = b.rank := by
  have heq : a.order b = .eq := by
    simpa [ties] using h
  rcases Ordering.then_eq_eq.mp heq with ⟨hpriority, hage⟩
  exact Prod.ext (Std.compare_eq_iff_eq.mp hpriority) (Timestamp.eq_of_cmp hage)

theorem sorted_eq_of_perm {rules rules' : List Rule} (hperm : rules'.Perm rules)
    (hdistinct : (rules.map rank).Nodup) : sorted rules' = sorted rules := by
  apply List.Perm.eq_of_pairwise ?_ (ordered_sorted rules') (ordered_sorted rules)
  · exact ((List.mergeSort_perm rules' _).trans hperm).trans (List.mergeSort_perm rules _).symm
  · intro a b ha hb hab hba
    have hmem : a ∈ rules := hperm.mem_iff.mp ((List.mergeSort_perm rules' _).mem_iff.mp ha)
    have hmem' : b ∈ rules := (List.mergeSort_perm rules _).mem_iff.mp hb
    exact List.inj_on_of_nodup_map hdistinct hmem hmem' (rank_eq_of_ties (ties_iff.mpr ⟨hab, hba⟩))

end Rule
end BankFeed
