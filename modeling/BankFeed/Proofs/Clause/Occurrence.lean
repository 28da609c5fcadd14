import BankFeed.Clause.Operator
import BankFeed.Proofs.Text.Sigma

/-!
# Values that occur in a description

Text operators compare lower cases of whole texts, so a value that occurs in a description letter
for letter may still not be found: a sigma at one of its ends has another form in the description if
the word goes on there. These are the only values that are ever missed, and each of them is missed
in some description.
-/

namespace BankFeed
namespace Text

variable {before after stem cs ds : List Char}

/-!
## Forms lost and gained

What stands behind a text only takes the final form away from its sigmas, and what stands before it
only gives it to them. Either way there are fewer signs of one form than before.
-/

/-- The same characters one by one, except that some signs of one kind became those of another. -/
def Altered (x y : Char) : List Char → List Char → Prop :=
  List.Forall₂ fun c d => c = d ∨ c = x ∧ d = y

theorem altered_refl (x y : Char) (cs : List Char) : Altered x y cs cs :=
  List.forall₂_same.mpr fun _ _ => .inl rfl

theorem count_le_of_altered {x y : Char} (h : Altered x y cs ds) (hne : x ≠ y) :
    ds.count x ≤ cs.count x := by
  induction h with
  | nil => exact Nat.le_refl _
  | cons hhead _ ih =>
      rcases hhead with rfl | ⟨rfl, rfl⟩
      · simp only [List.count_cons]
        omega
      · rw [List.count_cons_of_ne hne.symm, List.count_cons_self]
        omega

theorem count_lt_of_altered {x y : Char} (h : Altered x y cs ds) (hne : x ≠ y)
    (hchanged : ds ≠ cs) : ds.count x < cs.count x := by
  induction h with
  | nil => exact absurd rfl hchanged
  | cons hhead htail ih =>
      rcases hhead with rfl | ⟨rfl, rfl⟩
      · have hlt := ih (by simpa using hchanged)
        simp only [List.count_cons]
        omega
      · have hle := count_le_of_altered htail hne
        rw [List.count_cons_of_ne hne.symm, List.count_cons_self]
        omega

/-- What holds of every sigma of a text between two others holds of its lower case. The stem is what
was passed of the text itself. -/
theorem altered_lowerWithin {x y : Char} (before before' : List Char) {after' : List Char}
    (h : ∀ stem rest : List Char,
      lowerSigma (stem ++ before) (rest ++ after) = lowerSigma (stem ++ before') (rest ++ after') ∨
        lowerSigma (stem ++ before) (rest ++ after) = x ∧
          lowerSigma (stem ++ before') (rest ++ after') = y) (stem cs : List Char) :
    Altered x y (lowerWithin (stem ++ before) after cs) (lowerWithin (stem ++ before') after' cs) := by
  induction cs generalizing stem with
  | nil => exact .nil
  | cons c rest ih =>
      by_cases hc : c = sigma
      · subst hc
        rw [lowerWithin_cons_sigma, lowerWithin_cons_sigma]
        exact .cons (h stem rest) (ih (sigma :: stem))
      · rw [lowerWithin_cons_of_ne hc, lowerWithin_cons_of_ne hc]
        exact List.rel_append (altered_refl x y _) (ih (c :: stem))

theorem altered_behind (cs after : List Char) :
    Altered finalSigma smallSigma (lower cs) (lowerWithin [] after cs) := by
  rw [lower, ← lowerWithin_nil]
  refine altered_lowerWithin [] [] (fun stem rest => ?_) [] cs
  simp only [List.append_nil]
  cases hafter : startsCased (rest ++ after) with
  | false =>
      left
      rw [lowerSigma_eq_lowerSigma_iff, hafter, startsCased_of_append hafter]
  | true =>
      rw [lowerSigma_of_cased_after hafter]
      exact (lowerSigma_eq_or stem rest).imp_right fun hfinal => ⟨hfinal, rfl⟩

theorem altered_before (before cs : List Char) :
    Altered smallSigma finalSigma (lower cs) (lowerWithin before [] cs) := by
  rw [lower, ← lowerWithin_nil]
  refine altered_lowerWithin [] before (fun stem rest => ?_) [] cs
  simp only [List.append_nil]
  cases hstem : startsCased stem with
  | false =>
      rw [lowerSigma_of_not_cased_before hstem]
      exact (lowerSigma_eq_or (stem ++ before) rest).imp Eq.symm fun hfinal => ⟨rfl, hfinal⟩
  | true =>
      left
      rw [lowerSigma_eq_lowerSigma_iff, hstem, startsCased_append hstem]

/-!
## Values found wherever they occur
-/

theorem not_occursIn_of_count_lt {c : Char} (h : ds.count c < cs.count c) :
    ¬ occursIn cs ds = true := by
  rw [occursIn_iff]
  intro hinfix
  have hle := hinfix.sublist.count_le c
  omega

theorem startsCased_letter : startsCased ['a'] = true := by
  decide +kernel

theorem lowerAfter_letter (before cs : List Char) :
    lowerAfter before ('a' :: cs) = 'a' :: lowerAfter ('a' :: before) cs := rfl

theorem not_occursIn_lower_append (h : endsInSigma cs = true) :
    ¬ occursIn (lower cs) (lower (cs ++ ['a'])) = true := by
  have hchanged : lowerWithin [] ['a'] cs ≠ lower cs := by
    rw [Ne, lowerWithin_eq_lower_iff]
    rintro ⟨hend, -⟩
    exact hend ⟨h, startsCased_letter⟩
  -- The longer text has fewer final forms than its part, so it has the part nowhere, not even in
  -- another place.
  have hlt := count_lt_of_altered (altered_behind cs ['a']) (by decide) hchanged
  apply not_occursIn_of_count_lt (c := finalSigma)
  rw [lower_append, lowerAfter_letter, List.count_append, List.count_cons_of_ne (by decide)]
  exact hlt

theorem not_occursIn_lower_cons (h : opensWithSigma cs [] = true) :
    ¬ occursIn (lower cs) (lower ('a' :: cs)) = true := by
  have hchanged : lowerWithin ['a'] [] cs ≠ lower cs := by
    rw [Ne, lowerWithin_eq_lower_iff]
    rintro ⟨-, hstart⟩
    exact hstart ⟨startsCased_letter, h⟩
  have hlt := count_lt_of_altered (altered_before ['a'] cs) (by decide) hchanged
  apply not_occursIn_of_count_lt (c := smallSigma)
  rw [lower, lowerAfter_letter, ← lowerWithin_nil, List.count_cons_of_ne (by decide)]
  exact hlt

/-- A text is found in lower case in all texts that it is a part of, if none of its sigmas has its
form from an end of the text. -/
theorem occursIn_everywhere_iff :
    (∀ before after, occursIn (lower cs) (lower (before ++ cs ++ after)) = true) ↔
      endsInSigma cs = false ∧ opensWithSigma cs [] = false := by
  constructor
  · intro h
    rw [Bool.eq_false_iff, Bool.eq_false_iff]
    constructor
    · intro hend
      exact not_occursIn_lower_append hend (h [] ['a'])
    · intro hopen
      exact not_occursIn_lower_cons hopen (by simpa using h ['a'] [])
  · rintro ⟨hend, hopen⟩ before after
    apply lower_occursIn_lower
    rw [hend]
    constructor
    · rintro ⟨hfalse, -⟩
      cases hfalse
    · rintro ⟨-, hafter⟩
      rw [opensWithSigma_of_append hafter] at hopen
      cases hopen

end Text

/-!
## Text operators
-/

section Operators

variable (before value after : String)

/-- Where a value occurs in a field letter for letter, it is found, unless a sigma at one of its ends
has another form there. At the start of a field this is the only way to miss it. The values that are
found wherever they occur are those whose sigmas have their forms from within. -/
theorem literal_occurrences_found :
    (TextOperator.startsWith.apply (value ++ after) value = true ↔
      ¬ (Text.endsInSigma value.toList = true ∧ Text.startsCased after.toList = true)) ∧
    (¬ (Text.endsInSigma value.toList = true ∧ Text.startsCased after.toList = true) →
      ¬ (Text.startsCased before.toList.reverse = true ∧
        Text.opensWithSigma value.toList after.toList = true) →
      TextOperator.contains.apply (before ++ value ++ after) value = true) ∧
    ((∀ before after : String,
      TextOperator.contains.apply (before ++ value ++ after) value = true) ↔
        Text.endsInSigma value.toList = false ∧ Text.opensWithSigma value.toList [] = false) := by
  simp only [TextOperator.apply, String.toList_append]
  refine ⟨Text.lower_isPrefixOf_lower_append_iff, ?_, ?_⟩
  · intro hend hstart
    exact Text.lower_occursIn_lower ⟨hend, hstart⟩
  · rw [← Text.occursIn_everywhere_iff]
    constructor
    · intro h before after
      simpa using h (String.ofList before) (String.ofList after)
    · intro h before after
      exact h before.toList after.toList

end Operators

/-!
## A name in Greek

The first three letters of the name end in a sigma, but the name goes on.
-/

namespace GreekName

/-- The start of the description is found neither at its start nor anywhere in it. -/
theorem own_start_missed :
    "ΚΩΣ" ++ "ΤΑΣ ΚΑΦΕ" = "ΚΩΣΤΑΣ ΚΑΦΕ" ∧
    TextOperator.startsWith.apply "ΚΩΣΤΑΣ ΚΑΦΕ" "ΚΩΣ" = false ∧
    TextOperator.contains.apply "ΚΩΣΤΑΣ ΚΑΦΕ" "ΚΩΣ" = false := by
  decide +kernel

theorem literal_occurrences_found_name :
    ¬ Text.startsCased " ΚΑΦΕ".toList = true ∧
    ¬ Text.opensWithSigma "ΚΩΣΤΑΣ".toList " ΚΑΦΕ".toList = true ∧
    TextOperator.contains.apply ("ΑΓΙΟΣ " ++ "ΚΩΣΤΑΣ" ++ " ΚΑΦΕ") "ΚΩΣΤΑΣ" = true := by
  have hend : ¬ Text.startsCased " ΚΑΦΕ".toList = true := by
    decide +kernel
  have hstart : ¬ Text.opensWithSigma "ΚΩΣΤΑΣ".toList " ΚΑΦΕ".toList = true := by
    decide +kernel
  exact ⟨hend, hstart, (literal_occurrences_found "ΑΓΙΟΣ " "ΚΩΣΤΑΣ" " ΚΑΦΕ").2.1
    (fun h => hend h.2) fun h => hstart h.2⟩

end GreekName
end BankFeed
