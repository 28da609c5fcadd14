import BankFeed.Text.Range

/-!
# Blanks around a text

A blank is a character with the Unicode property White_Space. Zero-width characters and
the separators U+001C to U+001F are not blanks.
-/

namespace BankFeed
namespace Text

def blankRanges : List (Nat × Nat) :=
  [(0x09, 0x0D), (0x20, 0x20), (0x85, 0x85), (0xA0, 0xA0), (0x1680, 0x1680),
    (0x2000, 0x200A), (0x2028, 0x2029), (0x202F, 0x202F), (0x205F, 0x205F), (0x3000, 0x3000)]

def isBlank (c : Char) : Bool :=
  inRanges blankRanges c

def trimStart (cs : List Char) : List Char :=
  cs.dropWhile isBlank

def trim (cs : List Char) : List Char :=
  (trimStart (trimStart cs).reverse).reverse

theorem trimStart_nil : trimStart [] = [] := rfl

theorem trimStart_cons (c : Char) (cs : List Char) :
    trimStart (c :: cs) = if isBlank c then trimStart cs else c :: cs := by
  by_cases h : isBlank c <;> simp [trimStart, h]

theorem trimStart_eq_nil_iff {cs : List Char} :
    trimStart cs = [] ↔ ∀ c ∈ cs, isBlank c = true := by
  induction cs with
  | nil => simp [trimStart]
  | cons c cs ih =>
      by_cases h : isBlank c <;> simp [trimStart_cons, h, ih]

theorem trimStart_eq_cons {cs rest : List Char} {c : Char} (h : trimStart cs = c :: rest) :
    isBlank c = false := by
  induction cs with
  | nil => simp [trimStart] at h
  | cons d cs ih =>
      rw [trimStart_cons] at h
      split at h
      · exact ih h
      · injection h with hd
        subst hd
        simpa using ‹¬isBlank d = true›

theorem trim_eq_nil_iff {cs : List Char} :
    trim cs = [] ↔ ∀ c ∈ cs, isBlank c = true := by
  rw [← trimStart_eq_nil_iff]
  constructor
  · intro h
    have hback : ∀ c ∈ (trimStart cs).reverse, isBlank c = true :=
      trimStart_eq_nil_iff.mp (by simpa [trim] using h)
    cases hstart : trimStart cs with
    | nil => rfl
    | cons c rest =>
        have hc := hback c (by simp [hstart])
        simp [trimStart_eq_cons hstart] at hc
  · intro h
    simp [trim, h, trimStart_nil]

end Text
end BankFeed
