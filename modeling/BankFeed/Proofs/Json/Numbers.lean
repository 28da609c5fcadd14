import BankFeed.Proofs.Decimal.Value
import BankFeed.Proofs.Json.Reading

/-!
# Number literals

The grammar of numbers in documents, and the number that a literal stands for. A literal with a
fraction or an exponent is read as the double nearest to its significant digits.
-/

namespace BankFeed
namespace Json

open Text (IsDigits EndsDigits)

/-!
## The grammar
-/

inductive ExponentSign where
  | unsigned
  | plus
  | minus

def ExponentSign.text : ExponentSign → List Char
  | .unsigned => []
  | .plus => ['+']
  | .minus => ['-']

structure ExponentLiteral where
  capital : Bool
  sign : ExponentSign
  digits : List Char
  isDigits : IsDigits digits
  ne_nil : digits ≠ []

/-- A number in a document. Digits stand before the point, and no zero in front of them; without a
point there are no places. -/
structure NumberLiteral where
  negative : Bool
  whole : List Char
  places : List Char
  exponent : Option ExponentLiteral
  isDigits_whole : IsDigits whole
  isDigits_places : IsDigits places
  whole_ne_nil : whole ≠ []
  leading : whole.head? = some '0' → whole.length = 1

namespace ExponentLiteral

variable (e : ExponentLiteral)

def mark : Char :=
  if e.capital then 'E' else 'e'

def text : List Char :=
  e.mark :: (e.sign.text ++ e.digits)

def value : Int :=
  match e.sign with
  | .minus => -(Nat.ofDigitChars 10 e.digits 0)
  | _ => Nat.ofDigitChars 10 e.digits 0

end ExponentLiteral

namespace NumberLiteral

variable (l : NumberLiteral)

def pointText : List Char :=
  if l.places = [] then [] else '.' :: l.places

def exponentText : List Char :=
  (l.exponent.map ExponentLiteral.text).getD []

def magnitudeText : List Char :=
  l.whole ++ (l.pointText ++ l.exponentText)

def text : List Char :=
  if l.negative then '-' :: l.magnitudeText else l.magnitudeText

def IsFloat : Prop :=
  l.places ≠ [] ∨ l.exponent.isSome

def digits : List Char :=
  Text.dropEndZeros ((l.whole ++ l.places).dropWhile (· = '0'))

def power : Int :=
  (l.exponent.map ExponentLiteral.value).getD 0 - l.places.length

def magnitude : ℚ :=
  Nat.ofDigitChars 10 (l.whole ++ l.places) 0 * 10 ^ l.power

def value : ℚ :=
  if l.negative then -l.magnitude else l.magnitude

theorem abs_value : |l.value| = l.magnitude := by
  have hnonneg : 0 ≤ l.magnitude := by
    unfold magnitude
    positivity
  unfold value
  split
  · rw [abs_neg, abs_of_nonneg hnonneg]
  · rw [abs_of_nonneg hnonneg]

end NumberLiteral

/-!
## Scanning
-/

theorem takeDigits_digits {ds rest : List Char} (hds : IsDigits ds) (hrest : EndsDigits rest) :
    takeDigits (ds ++ rest) = (ds, rest) := by
  rw [takeDigits, Text.takeWhile_digits hds hrest, Text.dropWhile_digits hds hrest]

theorem scanExponentDigits_digits {ds : List Char} (negative : Bool) (hds : IsDigits ds)
    (hne : ds ≠ []) :
    scanExponentDigits negative ds =
      some (some (if negative then -(Nat.ofDigitChars 10 ds 0 : Int)
        else Nat.ofDigitChars 10 ds 0), []) := by
  have htake := takeDigits_digits hds Text.endsDigits_nil
  rw [List.append_nil] at htake
  rw [scanExponentDigits, htake]
  simp [hne]

namespace ExponentLiteral

variable (e : ExponentLiteral)

theorem isMark : e.mark = 'e' ∨ e.mark = 'E' := by
  unfold mark
  split
  · exact .inr rfl
  · exact .inl rfl

theorem scanExponent_text : scanExponent e.text = some (some e.value, []) := by
  have hdigits := fun negative => scanExponentDigits_digits negative e.isDigits e.ne_nil
  rw [text, value]
  cases e.sign with
  | unsigned =>
      rcases List.exists_cons_of_ne_nil e.ne_nil with ⟨d, ds, hd⟩
      have hdigit := (Text.isDigits_cons.mp (hd ▸ e.isDigits)).1
      refine Eq.trans ?_ (hdigits false)
      rw [hd]
      exact scanExponent_unsigned e.isMark (Text.ne_of_isDigit hdigit (by decide))
        (Text.ne_of_isDigit hdigit (by decide))
  | plus => exact (scanExponent_plus e.isMark).trans (hdigits false)
  | minus => exact (scanExponent_minus e.isMark).trans (hdigits true)

end ExponentLiteral

namespace NumberLiteral

variable (l : NumberLiteral)

def scanned : NumberText where
  whole := l.whole
  places := if l.places = [] then none else some l.places
  exponent := l.exponent.map ExponentLiteral.value

theorem scanExponent_exponentText :
    scanExponent l.exponentText = some (l.scanned.exponent, []) := by
  unfold exponentText scanned
  cases l.exponent with
  | none => rfl
  | some e => exact e.scanExponent_text

theorem head?_exponentText {c : Char} (hc : c ∈ l.exponentText.head?) : c = 'e' ∨ c = 'E' := by
  unfold exponentText at hc
  cases hexponent : l.exponent with
  | none =>
      rw [hexponent] at hc
      cases hc
  | some e =>
      rw [hexponent] at hc
      cases hc
      exact e.isMark

theorem endsDigits_exponentText : EndsDigits l.exponentText := by
  intro c hc
  rcases l.head?_exponentText hc with rfl | rfl <;> rfl

theorem endsDigits_pointText : EndsDigits (l.pointText ++ l.exponentText) := by
  unfold pointText
  split
  · exact l.endsDigits_exponentText
  · exact Text.endsDigits_cons rfl

theorem scanPlaces_pointText :
    scanPlaces (l.pointText ++ l.exponentText) = some (l.scanned.places, l.exponentText) := by
  unfold pointText scanned
  split
  · refine scanPlaces_of_head?_ne ?_
    intro hpoint
    rcases l.head?_exponentText hpoint with hno | hno <;> exact absurd hno (by decide)
  · next hplaces =>
      rw [List.cons_append, scanPlaces,
        takeDigits_digits l.isDigits_places l.endsDigits_exponentText]
      simp [hplaces]

theorem scanNumber_magnitudeText : scanNumber l.magnitudeText = some (l.scanned, []) := by
  have hwhole : ¬ (l.whole.isEmpty = true ∨ (l.whole.head? = some '0' ∧ l.whole.length ≠ 1)) := by
    rintro (hempty | ⟨hzero, hlength⟩)
    · exact l.whole_ne_nil (List.isEmpty_iff.mp hempty)
    · exact hlength (l.leading hzero)
  rw [scanNumber, magnitudeText, takeDigits_digits l.isDigits_whole l.endsDigits_pointText]
  simp only [if_neg hwhole, scanPlaces_pointText, Option.bind_eq_bind, Option.bind_some,
    scanExponent_exponentText]
  rfl

theorem readValue_text (fuel : Nat) :
    readValue (fuel + 1) l.text = (l.scanned.toJson l.negative, some []) := by
  have hnumber : readNumber l.negative l.magnitudeText =
      (l.scanned.toJson l.negative, some []) := by
    rw [readNumber, scanNumber_magnitudeText]
  unfold text
  split
  · next hnegative =>
      rw [hnegative] at hnumber ⊢
      exact hnumber
  · next hpositive =>
      rw [Bool.not_eq_true] at hpositive
      rw [hpositive] at hnumber ⊢
      rw [← hnumber]
      rcases List.exists_cons_of_ne_nil l.whole_ne_nil with ⟨d, ds, hd⟩
      have hdigit := (Text.isDigits_cons.mp (hd ▸ l.isDigits_whole)).1
      rw [magnitudeText, hd]
      exact readValue_of_isDigit hdigit fuel _

theorem read_text (hfloat : l.IsFloat) :
    read l.text = (l.scanned.toDouble l.negative, some []) := by
  have hform : ¬ (l.scanned.places = none ∧ l.scanned.exponent = none) := by
    rintro ⟨hplaces, hexponent⟩
    rcases hfloat with hfraction | hmark
    · simp [scanned, hfraction] at hplaces
    · rw [scanned, Option.map_eq_none_iff] at hexponent
      simp [hexponent] at hmark
  rw [read, readValue_text, NumberText.toJson, if_neg hform]
  simp only [NumberText.toDouble]
  split <;> rfl

end NumberLiteral

/-!
## Significant digits
-/

def nearest (negative : Bool) (row : List Char × Int) : Json :=
  match Binary64.ofScientific? negative (Nat.ofDigitChars 10 row.1 0) row.2 with
  | some x => .double x
  | none => .unreadable

theorem NumberText.toDouble_eq (n : NumberText) (negative : Bool) :
    n.toDouble negative = nearest negative (condense n.significant.1 n.significant.2) := rfl

theorem NumberText.toDouble_eq_nearest {n : NumberText} (h : n.significant.1.length ≤ digitLimit)
    (negative : Bool) : n.toDouble negative = nearest negative n.significant := by
  rw [toDouble_eq, condense_of_length_le h]

namespace NumberLiteral

variable (l : NumberLiteral)

theorem magnitude_eq_significant :
    l.magnitude =
      Nat.ofDigitChars 10 l.scanned.significant.1 0 * 10 ^ l.scanned.significant.2 := by
  have hplaces : l.scanned.places.getD [] = l.places := by
    unfold scanned
    split
    · next hnone => exact hnone.symm
    · rfl
  rcases Text.exists_end_zeros l.places with ⟨k, hk⟩
  rw [NumberText.significant, hplaces, Text.ofDigitChars_dropWhile_zero, magnitude, power]
  change _ = (Nat.ofDigitChars 10 (l.whole ++ Text.dropEndZeros l.places) 0 : ℚ) *
    10 ^ ((l.exponent.map ExponentLiteral.value).getD 0 - (Text.dropEndZeros l.places).length)
  generalize Text.dropEndZeros l.places = ds at hk
  rw [hk, ← List.append_assoc, Nat.ofDigitChars_append, Nat.ofDigitChars_replicate_zero,
    List.length_append, List.length_replicate]
  push_cast
  rw [← sub_sub, zpow_sub₀ (by norm_num : (10 : ℚ) ≠ 0) _ (k : Int), zpow_natCast]
  field_simp

theorem exists_magnitude_eq :
    ∃ power : Int, l.magnitude = Nat.ofDigitChars 10 l.digits 0 * 10 ^ power := by
  rcases Text.exists_end_zeros ((l.whole ++ l.places).dropWhile (· = '0')) with ⟨k, hk⟩
  refine ⟨k + l.power, ?_⟩
  rw [magnitude, ← Text.ofDigitChars_dropWhile_zero, hk, Nat.ofDigitChars_append,
    Nat.ofDigitChars_replicate_zero, zpow_add₀ (by norm_num : (10 : ℚ) ≠ 0), zpow_natCast]
  push_cast
  change (10 : ℚ) ^ k * Nat.ofDigitChars 10 l.digits 0 * _ = _
  ring

theorem isDigits_digits : IsDigits l.digits := by
  intro c hc
  rw [digits, Text.dropEndZeros, List.mem_reverse] at hc
  have hinner := List.mem_reverse.mp ((List.dropWhile_suffix _).subset hc)
  exact Text.isDigits_append.mpr ⟨l.isDigits_whole, l.isDigits_places⟩ c
    ((List.dropWhile_suffix _).subset hinner)

end NumberLiteral

end Json
end BankFeed
