import BankFeed.Text.Lower
import Mathlib.Logic.Relation

/-!
# Changes of case

Lower-casing leaves small letters alone and gives nothing but small letters: the lower case of a
capital is never a capital itself. So a text in lower case is its own lower case. Nor does it
matter for the lower case how the letters of ASCII were written: the case of such a letter changes
neither its own lower case nor the place of a sigma in its word.
-/

namespace BankFeed
namespace Text

/-!
## The case data

The capitals with a rule of their own are rows like the others. Of the lower case of U+0130 only
the first character is in its row.
-/

def asciiRow : LowerRow :=
  ⟨0x41, 0x5A, 1, 0x61⟩

def dottedRow : LowerRow :=
  ⟨0x130, 0x130, 1, 0x69⟩

def capitalRows : List LowerRow :=
  asciiRow :: dottedRow :: lowerRows

namespace LowerRow

def lastTarget (row : LowerRow) : Nat :=
  row.target + (row.last - row.first)

/-- Whether the small letters of one row are no capitals of another: they lie on one side of the
other row, or between its capitals, which are every second character. -/
def clears (row other : LowerRow) : Bool :=
  row.lastTarget.blt other.first || other.last.blt row.target ||
    (other.step == 2 && (row.step == 2 || row.first == row.last) &&
      (row.target + other.first) % 2 == 1)

def hasCharacters (row : LowerRow) : Bool :=
  row.lastTarget < 0xD800 || (0xDFFF < row.target && row.lastTarget < 0x110000)

variable {row other : LowerRow} {n : Nat}

theorem covers_iff :
    row.covers n = true ↔ row.first ≤ n ∧ n ≤ row.last ∧ (n - row.first) % row.step = 0 := by
  simp [covers, and_assoc]

theorem target_le_lastTarget (h : row.covers n = true) :
    row.target + (n - row.first) ≤ row.lastTarget := by
  rw [covers_iff] at h
  unfold lastTarget
  omega

theorem not_covers_of_clears (hclears : row.clears other = true) (hcovers : row.covers n = true) :
    other.covers (row.target + (n - row.first)) = false := by
  have hlast := target_le_lastTarget hcovers
  rw [covers_iff] at hcovers
  rw [Bool.eq_false_iff, Ne, covers_iff]
  rintro ⟨hge, hle, hother⟩
  simp only [clears, Bool.or_eq_true, Bool.and_eq_true, Nat.blt_eq, beq_iff_eq] at hclears
  rcases hclears with (hbelow | habove) | ⟨⟨htwo, hstep | hsingle⟩, hodd⟩
  · omega
  · omega
  · rw [hstep] at hcovers
    rw [htwo] at hother
    omega
  · rw [htwo] at hother
    omega

theorem toNat_target (hchars : row.hasCharacters = true) (hcovers : row.covers n = true) :
    (Char.ofNat (row.target + (n - row.first))).toNat = row.target + (n - row.first) := by
  have hlast := target_le_lastTarget hcovers
  simp only [hasCharacters, Bool.or_eq_true, Bool.and_eq_true, decide_eq_true_eq] at hchars
  have hvalid : (row.target + (n - row.first)).isValidChar := by
    unfold Nat.isValidChar
    omega
  rw [Char.ofNat, dif_pos hvalid]
  rfl

end LowerRow

/-- The small letters of all rows are characters and no capitals. -/
theorem capitalRows_clear :
    (capitalRows.all fun row => row.hasCharacters && capitalRows.all row.clears) = true := by
  decide +kernel

/-!
## Small letters
-/

def IsSmall (c : Char) : Prop :=
  lowerChar c = [c]

variable {c d : Char} {cs before : List Char}

theorem IsSmall.ne_sigma (h : IsSmall c) : c ≠ sigma := by
  rintro rfl
  unfold IsSmall at h
  exact absurd h (by decide)

theorem asciiRow_covers_iff {n : Nat} : asciiRow.covers n = true ↔ 0x41 ≤ n ∧ n ≤ 0x5A := by
  simp [LowerRow.covers_iff, asciiRow, Nat.mod_one]

theorem toLower_of_not_covered (h : ¬ asciiRow.covers c.toNat = true) : c.toLower = c := by
  rw [asciiRow_covers_iff] at h
  unfold Char.toLower
  rw [dif_neg]
  exact h

theorem toLower_of_covered (h : asciiRow.covers c.toNat = true) :
    c.toLower = Char.ofNat (asciiRow.target + (c.toNat - asciiRow.first)) := by
  have hletters : ∀ n < 0x5B, asciiRow.covers n = true →
      (Char.ofNat n).toLower = Char.ofNat (asciiRow.target + (n - asciiRow.first)) := by
    decide
  have hlast := (asciiRow_covers_iff.mp h).2
  rw [← hletters c.toNat (by omega) h, Char.ofNat_toNat]

theorem lowerChar_cases (c : Char) :
    IsSmall c ∨ c.toNat = 0x130 ∧ lowerChar c = ['i', Char.ofNat 0x307] ∨
      ∃ row ∈ capitalRows, row.covers c.toNat = true ∧
        lowerChar c = [Char.ofNat (row.target + (c.toNat - row.first))] := by
  unfold IsSmall lowerChar
  by_cases hascii : c.toNat < 0x80
  · rw [if_pos hascii]
    by_cases hcovers : asciiRow.covers c.toNat = true
    · exact .inr (.inr ⟨asciiRow, by simp [capitalRows], hcovers,
        by rw [toLower_of_covered hcovers]⟩)
    · exact .inl (by rw [toLower_of_not_covered hcovers])
  · rw [if_neg hascii]
    by_cases hdotted : c.toNat = 0x130
    · exact .inr (.inl ⟨hdotted, if_pos hdotted⟩)
    · rw [if_neg hdotted]
      cases hrow : lowerRows.find? (·.covers c.toNat) with
      | none => exact .inl rfl
      | some row =>
          have hcovers : row.covers c.toNat = true :=
            List.find?_some (p := (LowerRow.covers · c.toNat)) hrow
          exact .inr (.inr ⟨row, by simp [capitalRows, List.mem_of_find?_eq_some hrow],
            hcovers, rfl⟩)

theorem isSmall_of_not_covered (h : ∀ row ∈ capitalRows, row.covers c.toNat = false) :
    IsSmall c := by
  rcases lowerChar_cases c with hsmall | ⟨hdotted, -⟩ | ⟨row, hrow, hcovers, -⟩
  · exact hsmall
  · have hnot := h dottedRow (by simp [capitalRows])
    rw [hdotted] at hnot
    exact absurd hnot (by decide)
  · exact absurd hcovers (by simp [h row hrow])

theorem isSmall_target {row : LowerRow} {n : Nat} (hrow : row ∈ capitalRows)
    (hcovers : row.covers n = true) : IsSmall (Char.ofNat (row.target + (n - row.first))) := by
  have hclear := List.all_eq_true.mp capitalRows_clear row hrow
  rw [Bool.and_eq_true, List.all_eq_true] at hclear
  apply isSmall_of_not_covered
  intro other hother
  rw [LowerRow.toNat_target hclear.1 hcovers]
  exact LowerRow.not_covers_of_clears (hclear.2 other hother) hcovers

theorem isSmall_of_mem_lowerChar (hd : d ∈ lowerChar c) : IsSmall d := by
  rcases lowerChar_cases c with hsmall | ⟨-, hlower⟩ | ⟨row, hrow, hcovers, hlower⟩
  · rw [hsmall, List.mem_singleton] at hd
    exact hd ▸ hsmall
  · have hletters : IsSmall 'i' ∧ IsSmall (Char.ofNat 0x307) := by
      unfold IsSmall
      decide
    rw [hlower, List.mem_cons, List.mem_singleton] at hd
    rcases hd with rfl | rfl
    · exact hletters.1
    · exact hletters.2
  · rw [hlower, List.mem_singleton] at hd
    exact hd ▸ isSmall_target hrow hcovers

theorem isSmall_lowerSigma (before after : List Char) : IsSmall (lowerSigma before after) := by
  have hforms : IsSmall finalSigma ∧ IsSmall smallSigma := by
    unfold IsSmall
    decide
  unfold lowerSigma
  split
  · exact hforms.1
  · exact hforms.2

/-!
## Texts in lower case
-/

theorem isSmall_of_mem_lowerAfter (hd : d ∈ lowerAfter before cs) : IsSmall d := by
  induction cs generalizing before with
  | nil => cases hd
  | cons c rest ih =>
      rw [lowerAfter_cons, List.mem_append] at hd
      rcases hd with hd | hd
      · split at hd
        · rw [List.mem_singleton] at hd
          exact hd ▸ isSmall_lowerSigma before rest
        · exact isSmall_of_mem_lowerChar hd
      · exact ih hd

theorem lowerAfter_of_small (h : ∀ c ∈ cs, IsSmall c) : lowerAfter before cs = cs := by
  induction cs generalizing before with
  | nil => rfl
  | cons c rest ih =>
      have hc : IsSmall c := h c List.mem_cons_self
      rw [lowerAfter_cons, if_neg hc.ne_sigma, hc, ih fun d hd => h d (List.mem_cons_of_mem _ hd)]
      rfl

theorem lower_lower (cs : List Char) : lower (lower cs) = lower cs :=
  lowerAfter_of_small fun _ hd => isSmall_of_mem_lowerAfter hd

/-!
## Letters of ASCII
-/

theorem caseIgnorableRanges_not_letters :
    (caseIgnorableRanges.all fun r =>
      r.2 < 0x41 || (0x5A < r.1 && r.2 < 0x61) || 0x7A < r.1) = true := by
  decide +kernel

theorem not_isCaseIgnorable_of_letter
    (h : 0x41 ≤ c.toNat ∧ c.toNat ≤ 0x5A ∨ 0x61 ≤ c.toNat ∧ c.toNat ≤ 0x7A) :
    isCaseIgnorable c = false := by
  rw [isCaseIgnorable, Bool.eq_false_iff, Ne, inRanges_iff]
  rintro ⟨r, hr, hge, hle⟩
  have hapart := List.all_eq_true.mp caseIgnorableRanges_not_letters r hr
  simp only [Bool.or_eq_true, Bool.and_eq_true, decide_eq_true_eq] at hapart
  omega

theorem toLower_alike (c : Char) :
    (c.toLower = sigma ↔ c = sigma) ∧ lowerChar c.toLower = lowerChar c ∧
      isCased c.toLower = isCased c ∧ isCaseIgnorable c.toLower = isCaseIgnorable c := by
  by_cases hcovers : asciiRow.covers c.toNat = true
  · have hletters : ∀ n < 0x5B, asciiRow.covers n = true →
        (0x61 ≤ (Char.ofNat n).toLower.toNat ∧ (Char.ofNat n).toLower.toNat ≤ 0x7A) ∧
        ((Char.ofNat n).toLower = sigma ↔ Char.ofNat n = sigma) ∧
        lowerChar (Char.ofNat n).toLower = lowerChar (Char.ofNat n) ∧
        isCased (Char.ofNat n).toLower = isCased (Char.ofNat n) := by
      decide
    have hupper := asciiRow_covers_iff.mp hcovers
    have hc := hletters c.toNat (by omega) hcovers
    rw [Char.ofNat_toNat] at hc
    obtain ⟨hsmall, hsigma, hlower, hcased⟩ := hc
    exact ⟨hsigma, hlower, hcased, by
      rw [not_isCaseIgnorable_of_letter (.inr hsmall), not_isCaseIgnorable_of_letter (.inl hupper)]⟩
  · rw [toLower_of_not_covered hcovers]
    exact ⟨.rfl, rfl, rfl, rfl⟩

theorem startsCased_cons (c : Char) (cs : List Char) :
    startsCased (c :: cs) = if isCaseIgnorable c then startsCased cs else isCased c := by
  unfold startsCased
  by_cases h : isCaseIgnorable c = true
  · rw [List.dropWhile_cons_of_pos h, if_pos h]
  · rw [List.dropWhile_cons_of_neg h, if_neg h]

theorem startsCased_map_toLower (cs : List Char) :
    startsCased (cs.map Char.toLower) = startsCased cs := by
  induction cs with
  | nil => rfl
  | cons c rest ih =>
      obtain ⟨-, -, hcased, hignorable⟩ := toLower_alike c
      rw [List.map_cons, startsCased_cons, startsCased_cons, ih, hcased, hignorable]

theorem lowerAfter_map_toLower (before cs : List Char) :
    lowerAfter (before.map Char.toLower) (cs.map Char.toLower) = lowerAfter before cs := by
  induction cs generalizing before with
  | nil => rfl
  | cons c rest ih =>
      obtain ⟨hsigma, hlower, -, -⟩ := toLower_alike c
      -- The characters passed are in lower case too: a sigma further on looks back at them.
      have hrest := ih (c :: before)
      rw [List.map_cons] at hrest
      rw [List.map_cons, lowerAfter_cons, lowerAfter_cons, hrest, hlower]
      simp only [hsigma, lowerSigma, startsCased_map_toLower]

theorem lower_lowerAscii (cs : List Char) : lower (lowerAscii cs) = lower cs :=
  lowerAfter_map_toLower [] cs

/-!
## Recased texts
-/

/-- A change of case: of some letters of ASCII, or of the whole text to lower case. -/
inductive Recasing : List Char → List Char → Prop where
  | letters {cs ds : List Char} (h : lowerAscii ds = lowerAscii cs) : Recasing cs ds
  | whole (cs : List Char) : Recasing cs (lower cs)

def Recased : List Char → List Char → Prop :=
  Relation.ReflTransGen Recasing

theorem lower_eq_of_recasing {ds : List Char} (h : Recasing cs ds) : lower ds = lower cs := by
  cases h with
  | letters h => rw [← lower_lowerAscii, h, lower_lowerAscii]
  | whole => exact lower_lower cs

/-- Changes of case do not change the lower case. -/
theorem lower_eq_of_recased {ds : List Char} (h : Recased cs ds) : lower ds = lower cs := by
  induction h with
  | refl => rfl
  | tail _ hstep ih => rw [lower_eq_of_recasing hstep, ih]

end Text
end BankFeed
