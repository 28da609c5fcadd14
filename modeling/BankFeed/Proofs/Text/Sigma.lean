import BankFeed.Proofs.Text.Lower
import BankFeed.Text.Search
import Mathlib.Data.List.Forall2

/-!
# Lower case of a part of a text

The lower case of a text inside another one is its own lower case, except for a sigma at one of its
ends: what stands behind the text may go on with the word that the sigma ends, and what stands
before it may begin the word that the sigma ends. A text behind another one only ever takes the
final form away, and a text before it only ever gives it.
-/

namespace BankFeed
namespace Text

variable {before after stem marks cs rest : List Char} {c : Char}

/-!
## The letter next to a sigma
-/

def AllMarks (cs : List Char) : Prop :=
  ∀ c ∈ cs, isCaseIgnorable c = true

theorem allMarks_nil : AllMarks [] := by
  intro c hc
  cases hc

theorem allMarks_cons : AllMarks (c :: cs) ↔ isCaseIgnorable c = true ∧ AllMarks cs := by
  simp [AllMarks]

theorem allMarks_reverse : AllMarks cs.reverse ↔ AllMarks cs := by
  simp [AllMarks]

theorem startsCased_append_of_allMarks (h : AllMarks cs) :
    startsCased (cs ++ after) = startsCased after := by
  induction cs with
  | nil => rfl
  | cons c rest ih =>
      rw [allMarks_cons] at h
      rw [List.cons_append, startsCased_cons, if_pos h.1, ih h.2]

theorem startsCased_append_of_not_allMarks (h : ¬ AllMarks cs) :
    startsCased (cs ++ after) = startsCased cs := by
  induction cs with
  | nil => exact absurd allMarks_nil h
  | cons c rest ih =>
      rw [allMarks_cons, not_and] at h
      rw [List.cons_append, startsCased_cons, startsCased_cons]
      split
      · next hmark => exact ih (h hmark)
      · rfl

theorem startsCased_of_allMarks (h : AllMarks cs) : startsCased cs = false := by
  rw [← List.append_nil cs, startsCased_append_of_allMarks h]
  rfl

theorem startsCased_of_append (h : startsCased (cs ++ after) = false) : startsCased cs = false := by
  by_cases hmarks : AllMarks cs
  · exact startsCased_of_allMarks hmarks
  · rwa [startsCased_append_of_not_allMarks hmarks] at h

theorem startsCased_append (h : startsCased cs = true) : startsCased (cs ++ after) = true := by
  have hmarks : ¬ AllMarks cs := by
    intro hmarks
    rw [startsCased_of_allMarks hmarks] at h
    cases h
  rwa [startsCased_append_of_not_allMarks hmarks]

theorem lowerSigma_eq_or (before after : List Char) :
    lowerSigma before after = smallSigma ∨ lowerSigma before after = finalSigma := by
  unfold lowerSigma
  split
  · exact .inr rfl
  · exact .inl rfl

theorem lowerSigma_of_not_cased_before (h : startsCased before = false) :
    lowerSigma before after = smallSigma := by
  simp [lowerSigma, h]

theorem lowerSigma_of_cased_after (h : startsCased after = true) :
    lowerSigma before after = smallSigma := by
  simp [lowerSigma, h]

theorem lowerSigma_eq_lowerSigma_iff {before' after' : List Char} :
    lowerSigma before after = lowerSigma before' after' ↔
      (startsCased before && !startsCased after) = (startsCased before' && !startsCased after') := by
  have hforms : finalSigma ≠ smallSigma := by decide
  unfold lowerSigma
  cases startsCased before && !startsCased after <;>
    cases startsCased before' && !startsCased after' <;> simp [hforms, hforms.symm]

/-- The form of a sigma changes with the texts around its own if only marks stand behind it and the
word that it ends goes on, or if only marks stand before it and it ends a word that began before
them. -/
theorem lowerSigma_append_eq_iff :
    lowerSigma (stem ++ before) (marks ++ after) = lowerSigma stem marks ↔
      ¬ (AllMarks marks ∧ startsCased stem = true ∧ startsCased after = true) ∧
      ¬ (AllMarks stem ∧ startsCased before = true ∧ startsCased (marks ++ after) = false) := by
  rw [lowerSigma_eq_lowerSigma_iff]
  by_cases hstem : AllMarks stem
  · rw [startsCased_append_of_allMarks hstem, startsCased_of_allMarks hstem]
    simp [hstem]
  · rw [startsCased_append_of_not_allMarks hstem]
    by_cases hmarks : AllMarks marks
    · rw [startsCased_append_of_allMarks hmarks, startsCased_of_allMarks hmarks]
      cases startsCased stem <;> simp [hstem, hmarks]
    · rw [startsCased_append_of_not_allMarks hmarks]
      simp [hstem, hmarks]

/-!
## Lower case between two texts
-/

/-- The lower case of a text between two others, the one before it given nearest character first. -/
def lowerWithin (before after : List Char) : List Char → List Char
  | [] => []
  | c :: rest =>
      (if c = sigma then [lowerSigma before (rest ++ after)] else lowerChar c) ++
        lowerWithin (c :: before) after rest

theorem lowerWithin_cons_sigma :
    lowerWithin before after (sigma :: rest) =
      lowerSigma before (rest ++ after) :: lowerWithin (sigma :: before) after rest := rfl

theorem lowerWithin_cons_of_ne (h : c ≠ sigma) :
    lowerWithin before after (c :: rest) = lowerChar c ++ lowerWithin (c :: before) after rest := by
  rw [lowerWithin, if_neg h]

theorem lowerAfter_append (before cs after : List Char) :
    lowerAfter before (cs ++ after) =
      lowerWithin before after cs ++ lowerAfter (cs.reverse ++ before) after := by
  induction cs generalizing before with
  | nil => rfl
  | cons c rest ih =>
      rw [List.cons_append, lowerAfter_cons, lowerWithin, ih, List.reverse_cons]
      simp only [List.append_assoc, List.cons_append, List.nil_append]

theorem lowerWithin_nil (before cs : List Char) : lowerWithin before [] cs = lowerAfter before cs := by
  have happend := lowerAfter_append before cs []
  rw [List.append_nil, lowerAfter_nil, List.append_nil] at happend
  exact happend.symm

theorem length_lowerWithin (before after before' after' : List Char) :
    (lowerWithin before after cs).length = (lowerWithin before' after' cs).length := by
  induction cs generalizing before before' with
  | nil => rfl
  | cons c rest ih =>
      rw [lowerWithin, lowerWithin, List.length_append, List.length_append,
        ih (c :: before) (c :: before')]
      split <;> rfl

theorem lowerWithin_eq_iff {before' after' : List Char} :
    lowerWithin before after cs = lowerWithin before' after' cs ↔
      ∀ stem rest, cs = stem ++ sigma :: rest →
        lowerSigma (stem.reverse ++ before) (rest ++ after) =
          lowerSigma (stem.reverse ++ before') (rest ++ after') := by
  induction cs generalizing before before' with
  | nil => simp [lowerWithin]
  | cons c tail ih =>
      -- The heads have the same length, so the tails are compared apart from them.
      have hcons : lowerWithin before after (c :: tail) = lowerWithin before' after' (c :: tail) ↔
          (c = sigma → lowerSigma before (tail ++ after) = lowerSigma before' (tail ++ after')) ∧
          lowerWithin (c :: before) after tail = lowerWithin (c :: before') after' tail := by
        by_cases hc : c = sigma
        · subst hc
          simp [lowerWithin_cons_sigma]
        · simp [lowerWithin_cons_of_ne hc, hc]
      rw [hcons, ih]
      constructor
      · rintro ⟨hhead, htail⟩ stem rest hsplit
        cases stem with
        | nil =>
            cases hsplit
            exact hhead rfl
        | cons d stem =>
            cases hsplit
            simpa using htail stem rest rfl
      · intro h
        constructor
        · rintro rfl
          exact h [] tail rfl
        · rintro stem rest rfl
          simpa using h (c :: stem) rest rfl

/-!
## Sigmas at the ends
-/

def sigmaThen (demand : List Char → Bool) : List Char → Bool
  | [] => false
  | c :: rest =>
      if isCaseIgnorable c then sigmaThen demand rest else c == sigma && demand rest

/-- Whether a text ends in a final sigma, marks aside. -/
def endsInSigma (cs : List Char) : Bool :=
  sigmaThen startsCased cs.reverse

/-- Whether a text opens with a sigma, marks aside, that no letter with case follows, be it in the
text or in what comes behind it. -/
def opensWithSigma (cs after : List Char) : Bool :=
  sigmaThen (fun rest => !startsCased (rest ++ after)) cs

theorem sigmaThen_iff {demand : List Char → Bool} :
    sigmaThen demand cs = true ↔
      ∃ marks rest, cs = marks ++ sigma :: rest ∧ AllMarks marks ∧ demand rest = true := by
  induction cs with
  | nil => simp [sigmaThen]
  | cons c tail ih =>
      have hsigma : isCaseIgnorable sigma = false := by decide +kernel
      by_cases hc : isCaseIgnorable c = true
      · rw [sigmaThen, if_pos hc, ih]
        constructor
        · rintro ⟨marks, rest, rfl, hmarks, hrest⟩
          exact ⟨c :: marks, rest, rfl, allMarks_cons.mpr ⟨hc, hmarks⟩, hrest⟩
        · rintro ⟨marks, rest, hsplit, hmarks, hrest⟩
          cases marks with
          | nil =>
              cases hsplit
              rw [hsigma] at hc
              cases hc
          | cons d marks =>
              cases hsplit
              exact ⟨marks, rest, rfl, (allMarks_cons.mp hmarks).2, hrest⟩
      · rw [sigmaThen, if_neg hc, Bool.and_eq_true, beq_iff_eq]
        constructor
        · rintro ⟨rfl, hrest⟩
          exact ⟨[], tail, rfl, allMarks_nil, hrest⟩
        · rintro ⟨marks, rest, hsplit, hmarks, hrest⟩
          cases marks with
          | nil =>
              cases hsplit
              exact ⟨rfl, hrest⟩
          | cons d marks =>
              cases hsplit
              exact absurd (allMarks_cons.mp hmarks).1 hc

theorem endsInSigma_iff :
    endsInSigma cs = true ↔
      ∃ stem marks, cs = stem ++ sigma :: marks ∧ AllMarks marks ∧
        startsCased stem.reverse = true := by
  rw [endsInSigma, sigmaThen_iff]
  constructor
  · rintro ⟨marks, stem, hsplit, hmarks, hstem⟩
    refine ⟨stem.reverse, marks.reverse, ?_, allMarks_reverse.mpr hmarks, ?_⟩
    · simpa using congrArg List.reverse hsplit
    · rwa [List.reverse_reverse]
  · rintro ⟨stem, marks, rfl, hmarks, hstem⟩
    exact ⟨marks.reverse, stem.reverse, by simp, allMarks_reverse.mpr hmarks, hstem⟩

theorem opensWithSigma_iff :
    opensWithSigma cs after = true ↔
      ∃ marks rest, cs = marks ++ sigma :: rest ∧ AllMarks marks ∧
        startsCased (rest ++ after) = false := by
  simp only [opensWithSigma, sigmaThen_iff, Bool.not_eq_true']

theorem opensWithSigma_of_append (h : opensWithSigma cs after = true) :
    opensWithSigma cs [] = true := by
  obtain ⟨marks, rest, hsplit, hmarks, hrest⟩ := opensWithSigma_iff.mp h
  refine opensWithSigma_iff.mpr ⟨marks, rest, hsplit, hmarks, ?_⟩
  rw [List.append_nil]
  exact startsCased_of_append hrest

theorem lowerWithin_eq_lower_iff :
    lowerWithin before after cs = lower cs ↔
      ¬ (endsInSigma cs = true ∧ startsCased after = true) ∧
      ¬ (startsCased before = true ∧ opensWithSigma cs after = true) := by
  rw [lower, ← lowerWithin_nil, lowerWithin_eq_iff, endsInSigma_iff, opensWithSigma_iff]
  simp only [List.append_nil, lowerSigma_append_eq_iff]
  constructor
  · intro h
    constructor
    · rintro ⟨⟨stem, marks, rfl, hmarks, hstem⟩, hafter⟩
      exact (h stem marks rfl).1 ⟨hmarks, hstem, hafter⟩
    · rintro ⟨hbefore, marks, rest, rfl, hmarks, hrest⟩
      exact (h marks rest rfl).2 ⟨allMarks_reverse.mpr hmarks, hbefore, hrest⟩
  · rintro ⟨hend, hstart⟩ stem rest rfl
    constructor
    · rintro ⟨hrest, hstem, hafter⟩
      exact hend ⟨⟨stem, rest, rfl, hrest, hstem⟩, hafter⟩
    · rintro ⟨hstem, hbefore, hrest⟩
      exact hstart ⟨hbefore, stem, rest, rfl, allMarks_reverse.mp hstem, hrest⟩

/-!
## Parts of texts

The parts are compared with the whole at their own place, and anywhere in it.
-/

theorem lower_append (cs after : List Char) :
    lower (cs ++ after) = lowerWithin [] after cs ++ lowerAfter cs.reverse after := by
  rw [lower, lowerAfter_append, List.append_nil]

theorem lower_isPrefixOf_lower_append_iff :
    (lower cs).isPrefixOf (lower (cs ++ after)) = true ↔
      ¬ (endsInSigma cs = true ∧ startsCased after = true) := by
  have hplace : lowerWithin [] after cs = lower cs ↔
      ¬ (endsInSigma cs = true ∧ startsCased after = true) := by
    rw [lowerWithin_eq_lower_iff, and_iff_left]
    rintro ⟨hnothing, -⟩
    cases hnothing
  rw [← hplace, List.isPrefixOf_iff_prefix, lower_append]
  constructor
  · rintro ⟨rest, hrest⟩
    have hlength : (lower cs).length = (lowerWithin [] after cs).length := by
      rw [lower, ← lowerWithin_nil]
      exact length_lowerWithin [] [] [] after
    exact (List.append_inj_left hrest hlength).symm
  · intro h
    exact ⟨lowerAfter cs.reverse after, by rw [h]⟩

/-- A part of a text is found in lower case in the lower case of the text if the sigmas at its ends
keep their forms. -/
theorem lower_occursIn_lower (h : ¬ (endsInSigma cs = true ∧ startsCased after = true) ∧
    ¬ (startsCased before.reverse = true ∧ opensWithSigma cs after = true)) :
    occursIn (lower cs) (lower (before ++ cs ++ after)) = true := by
  rw [occursIn_iff, List.append_assoc, lower_append, lowerAfter_append,
    lowerWithin_eq_lower_iff.mpr h, ← List.append_assoc]
  exact List.infix_append _ _ _

end Text
end BankFeed
