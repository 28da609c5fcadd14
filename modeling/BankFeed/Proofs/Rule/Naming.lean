import BankFeed.Proofs.Rule.Validation
import Mathlib.Data.String.Basic

/-!
# Names of rules

The length of a name is limited in bytes of its UTF-8 form, although the message speaks of
characters. For ASCII these are the same. In other scripts a name may be refused for its length
that has no more characters than are allowed; a name that has more of them is never accepted.
-/

namespace BankFeed

/-!
## Characters and bytes
-/

namespace Text

theorem length_le_utf8Len (cs : List Char) : cs.length ≤ String.utf8Len cs := by
  induction cs with
  | nil => rfl
  | cons c cs ih =>
      have hc := c.utf8Size_pos
      rw [List.length_cons, String.utf8Len_cons]
      omega

theorem utf8Len_le_length_mul (cs : List Char) : String.utf8Len cs ≤ cs.length * 4 := by
  induction cs with
  | nil => rfl
  | cons c cs ih =>
      have hc := c.utf8Size_le_four
      rw [List.length_cons, String.utf8Len_cons]
      omega

theorem utf8Len_of_ascii {cs : List Char} (h : ∀ c ∈ cs, c.toNat < 128) :
    String.utf8Len cs = cs.length := by
  induction cs with
  | nil => rfl
  | cons c cs ih =>
      rw [List.forall_mem_cons] at h
      have hc : c.utf8Size = 1 := Char.utf8Size_eq_one_iff.mpr (Nat.le_of_lt_succ h.1)
      rw [List.length_cons, String.utf8Len_cons, ih h.2, hc]

end Text

namespace Rule

variable {name : String}

/-!
## Names
-/

/-- A name as the messages ask for it: some character is no blank, and there are no more characters
than the limit. -/
structure WellNamed (name : String) : Prop where
  visible : ∃ c ∈ name.toList, Text.isBlank c = false
  short : name.length ≤ nameLimit

theorem trim_isEmpty_iff :
    (Text.trim name.toList).isEmpty = true ↔ ¬ ∃ c ∈ name.toList, Text.isBlank c = false := by
  rw [List.isEmpty_iff, Text.trim_eq_nil_iff]
  simp

theorem length_le_of_utf8ByteSize_le {limit : Nat} (h : name.utf8ByteSize ≤ limit) :
    name.length ≤ limit := by
  have hlength := Text.length_le_utf8Len name.toList
  rw [String.utf8Len_toList, String.length_toList] at hlength
  omega

theorem validateName_eq_ok_iff :
    validateName name = .ok () ↔ WellNamed name ∧ name.utf8ByteSize ≤ nameLimit := by
  unfold validateName
  by_cases hblank : (Text.trim name.toList).isEmpty = true
  · rw [if_pos hblank]
    constructor
    · intro h
      cases h
    · intro h
      exact absurd h.1.visible (trim_isEmpty_iff.mp hblank)
  · rw [if_neg hblank]
    have hvisible := not_not.mp (trim_isEmpty_iff.not.mp hblank)
    by_cases hlong : nameLimit < name.utf8ByteSize
    · rw [if_pos hlong]
      constructor
      · intro h
        cases h
      · intro h
        exact absurd h.2 (Nat.not_le_of_lt hlong)
    · rw [if_neg hlong]
      have hbytes := Nat.le_of_not_lt hlong
      constructor
      · intro _
        exact ⟨⟨hvisible, length_le_of_utf8ByteSize_le hbytes⟩, hbytes⟩
      · intro _
        rfl

theorem validateName_of_long (hvisible : ∃ c ∈ name.toList, Text.isBlank c = false)
    (hlong : nameLimit < name.utf8ByteSize) :
    validateName name = .error (.validation "Rule name cannot exceed 100 characters") := by
  unfold validateName
  rw [if_neg (trim_isEmpty_iff.not.mpr (not_not.mpr hvisible)), if_pos hlong]

theorem validateName_of_length_le (hnamed : WellNamed name)
    (hshort : name.length ≤ nameLimit / 4) : validateName name = .ok () := by
  have hbytes := Text.utf8Len_le_length_mul name.toList
  rw [String.utf8Len_toList, String.length_toList] at hbytes
  have hlimit : nameLimit / 4 * 4 = nameLimit := rfl
  exact validateName_eq_ok_iff.mpr ⟨hnamed, by omega⟩

/-- A name is accepted that is as the messages ask for and fits their limit in bytes too, as all
such names in ASCII do, and the short ones in any script. If the bytes are too many, the message
complains of the characters. A rule with clauses that all compile is accepted if its name is. -/
theorem names_limited_by_bytes (name : String) :
    (validateName name = .ok () ↔ WellNamed name ∧ name.utf8ByteSize ≤ nameLimit) ∧
    ((∀ c ∈ name.toList, c.toNat < 128) → (validateName name = .ok () ↔ WellNamed name)) ∧
    (WellNamed name → name.length ≤ nameLimit / 4 → validateName name = .ok ()) ∧
    (WellNamed name → nameLimit < name.utf8ByteSize →
      validateName name = .error (.validation "Rule name cannot exceed 100 characters")) ∧
    (∀ rule : Rule, rule.name = name → rule.clauses ≠ [] →
      (∀ c ∈ rule.clauses, ∃ p, c.compile = .ok p) →
      (rule.validate = .ok () ↔ WellNamed name ∧ name.utf8ByteSize ≤ nameLimit)) := by
  refine ⟨validateName_eq_ok_iff, ?_, validateName_of_length_le, ?_, ?_⟩
  · intro hascii
    have hbytes := Text.utf8Len_of_ascii hascii
    rw [String.utf8Len_toList, String.length_toList] at hbytes
    rw [validateName_eq_ok_iff, hbytes]
    exact and_iff_left_of_imp WellNamed.short
  · intro hnamed hlong
    exact validateName_of_long hnamed.visible hlong
  · rintro rule rfl hclauses hcompile
    have hfault : firstFault? 1 rule.clauses = none :=
      firstFault?_eq_none_iff.mpr fun c hc => Clause.compiles_iff.mpr (hcompile c hc)
    rw [validate_eq_ok_iff, validateName_eq_ok_iff]
    exact and_iff_left ⟨hclauses, hfault⟩

end Rule

/-!
## A name in Greek

Sixty-eight characters, most of them of two bytes.
-/

namespace OfficeRent

def name : String :=
  "Ενοίκιο γραφείου και κοινόχρηστα πρώτου εξαμήνου του τρέχοντος έτους"

def rule : Rule :=
  (Rule.create Clause.anyMoment "r-1" "acme" "Rent" .debit).withClauses [SmallAmounts.lunch]

theorem wellNamed_name : Rule.WellNamed name where
  visible := ⟨'Ε', by decide +kernel, by decide⟩
  short := by decide +kernel

/-- The name is refused as too long, though it is not. -/
theorem short_name_refused :
    Rule.WellNamed name ∧
      Rule.validateName name =
        .error (.validation "Rule name cannot exceed 100 characters") :=
  ⟨wellNamed_name, Rule.validateName_of_long wellNamed_name.visible (by decide +kernel)⟩

theorem names_limited_by_bytes_rent :
    rule.clauses ≠ [] ∧ (∀ c ∈ rule.clauses, ∃ p, c.compile = .ok p) ∧
      Rule.WellNamed rule.name ∧ rule.name.utf8ByteSize ≤ Rule.nameLimit ∧
      rule.validate = .ok () := by
  have hclauses : rule.clauses ≠ [] := by decide
  have hcompile : ∀ c ∈ rule.clauses, ∃ p, c.compile = .ok p := by
    intro c hc
    cases List.mem_singleton.mp hc
    exact Clause.compiles_iff.mp (by decide)
  have hnamed : Rule.WellNamed rule.name := ⟨⟨'R', by decide, by decide⟩, by decide⟩
  have hbytes : rule.name.utf8ByteSize ≤ Rule.nameLimit := by decide
  have haccepts := (Rule.names_limited_by_bytes rule.name).2.2.2.2 rule rfl hclauses hcompile
  exact ⟨hclauses, hcompile, hnamed, hbytes, haccepts.mpr ⟨hnamed, hbytes⟩⟩

end OfficeRent
end BankFeed
