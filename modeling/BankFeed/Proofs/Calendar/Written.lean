import BankFeed.Calendar.Printer
import BankFeed.Calendar.Reader
import BankFeed.Proofs.Text.Digits
import Mathlib.Data.List.TakeWhile
import Mathlib.Data.Nat.Digits.Defs
import Mathlib.Tactic.SplitIfs

/-!
# Dates and timestamps as they are written

Every date and every timestamp of the range is read back from its text: years of any sign and
length, fractions of a second with three, six or nine digits, and the leap seconds that end a
minute. Only the leap seconds within a minute are lost: they have the text of the next second.
-/

namespace BankFeed
namespace Calendar

open Text (IsDigits EndsDigits)

variable {width n : Nat} {cs rest : List Char}

/-!
## Padded numbers
-/

theorem isDigits_padded (width n : Nat) : IsDigits (padded width n) :=
  Text.isDigits_append.mpr ⟨Text.isDigits_replicate_zero _, Text.isDigits_toDigits n⟩

theorem ofDigitChars_padded (width n : Nat) : Nat.ofDigitChars 10 (padded width n) 0 = n := by
  simp [padded, Nat.ofDigitChars_append, Nat.ofDigitChars_replicate_zero,
    Nat.ofDigitChars_ten_toDigits]

theorem padded_ne_nil (width n : Nat) : padded width n ≠ [] := by
  simp [padded, Nat.toDigits_ne_nil]

theorem length_padded (hwidth : 0 < width) (h : n < 10 ^ width) :
    (padded width n).length = width := by
  have hle := Nat.toDigits_length 10 n width hwidth h
  simp only [padded, List.length_append, List.length_replicate]
  omega

theorem trimStart_padded (width n : Nat) (rest : List Char) :
    Text.trimStart (padded width n ++ rest) = padded width n ++ rest := by
  have hdigits := isDigits_padded width n
  obtain ⟨d, ds, hpadded⟩ := List.exists_cons_of_ne_nil (padded_ne_nil width n)
  rw [hpadded] at hdigits ⊢
  exact Text.trimStart_of_not_blank
    (Text.isBlank_of_isDigit (Text.isDigits_cons.mp hdigits).1)

/-!
## Numbers
-/

theorem number_eq {ds : List Char} (hds : IsDigits ds) (hne : ds ≠ []) (hwidth : ds.length ≤ width)
    (hends : ds.length = width ∨ EndsDigits rest)
    (hfits : Nat.ofDigitChars 10 ds 0 ≤ 9223372036854775807) :
    number width (ds ++ rest) = .ok (Nat.ofDigitChars 10 ds 0, rest) := by
  have htake : ((ds ++ rest).take width).takeWhile Char.isDigit = ds := by
    rcases hends with hfull | hends
    · rw [← hfull, List.take_left]
      rw [List.takeWhile_eq_self_iff]
      exact hds
    · rw [List.take_append, List.take_of_length_le hwidth]
      refine Text.takeWhile_digits hds ?_
      intro c hc
      apply hends c
      cases rest with
      | nil => simp at hc
      | cons r rest =>
          cases hleft : width - ds.length with
          | zero => simp [hleft] at hc
          | succ k => simpa [hleft] using hc
  have hfirst : (ds ++ rest).drop ds.length = rest := List.drop_left
  obtain ⟨d, ds, rfl⟩ := List.exists_cons_of_ne_nil hne
  rw [List.cons_append] at htake hfirst ⊢
  simp only [number, if_pos (Text.isDigits_cons.mp hds).1, htake, if_pos hfits, hfirst]

theorem number_padded (h : n < 10 ^ width) (hwidth : 0 < width) (hsmall : width ≤ 18) :
    number width (padded width n ++ rest) = .ok (n, rest) := by
  have hlength := length_padded hwidth h
  have hfits : n ≤ 9223372036854775807 := by
    have hpow : 10 ^ width ≤ 10 ^ 18 := Nat.pow_le_pow_right (by decide) hsmall
    omega
  rw [number_eq (isDigits_padded width n) (padded_ne_nil width n) (Nat.le_of_eq hlength)
    (.inl hlength) (by rw [ofDigitChars_padded]; exact hfits), ofDigitChars_padded]

theorem part_padded {least greatest : Nat} (hleast : least ≤ n) (hgreatest : n ≤ greatest)
    (hsmall : greatest < 100) :
    part least greatest (padded 2 n ++ rest) = .ok (n, rest) := by
  rw [part, trimStart_padded, number_padded (by omega) (by decide) (by decide)]
  show (if least ≤ n ∧ n ≤ greatest then _ else _) = _
  rw [if_pos ⟨hleast, hgreatest⟩]

theorem separator_cons (mark : Char) (h : Text.isBlank mark = false) :
    separator mark (mark :: rest) = .ok rest := by
  rw [separator, Text.trimStart_of_not_blank h]
  simp

/-!
## Years
-/

theorem year_of_minus (h : number cs.length cs = .ok (n, rest)) (hfits : n ≤ 262143) :
    year ('-' :: cs) = .ok (-(n : Int), rest) := by
  unfold year
  rw [Text.trimStart_of_not_blank (by decide)]
  simp only [h]
  show (if -2147483648 ≤ -(n : Int) ∧ -(n : Int) ≤ 2147483647 then _ else _) = _
  rw [if_pos (by omega)]

theorem year_of_plus (h : number cs.length cs = .ok (n, rest)) (hfits : n ≤ 262143) :
    year ('+' :: cs) = .ok ((n : Int), rest) := by
  unfold year
  rw [Text.trimStart_of_not_blank (by decide)]
  simp only [h]
  show (if -2147483648 ≤ (n : Int) ∧ (n : Int) ≤ 2147483647 then _ else _) = _
  rw [if_pos (by omega)]

theorem year_of_digit {d : Char} (hd : d.isDigit = true) (h : number 4 (d :: cs) = .ok (n, rest))
    (hfits : n ≤ 262143) : year (d :: cs) = .ok ((n : Int), rest) := by
  have hminus : d ≠ '-' := Text.ne_of_isDigit hd (by decide)
  have hplus : d ≠ '+' := Text.ne_of_isDigit hd (by decide)
  unfold year
  rw [Text.trimStart_of_not_blank (Text.isBlank_of_isDigit hd)]
  split
  · simp_all
  · simp_all
  · simp only [h]
    show (if -2147483648 ≤ (n : Int) ∧ (n : Int) ≤ 2147483647 then _ else _) = _
    rw [if_pos (by omega)]

theorem number_padded_signed (hn : n ≤ 262143) (hrest : EndsDigits rest) :
    number (padded 4 n ++ rest).length (padded 4 n ++ rest) = .ok (n, rest) := by
  have hread := number_eq (isDigits_padded 4 n) (padded_ne_nil 4 n)
    (by rw [List.length_append]; omega : _ ≤ (padded 4 n ++ rest).length) (.inr hrest)
    (by rw [ofDigitChars_padded]; omega)
  rwa [ofDigitChars_padded] at hread

theorem year_yearText {y : Int} (hleast : -262143 ≤ y) (hgreatest : y ≤ 262142)
    (hrest : EndsDigits rest) : year (yearText y ++ rest) = .ok (y, rest) := by
  unfold yearText
  by_cases hplain : 0 ≤ y ∧ y ≤ 9999
  · have hnumber : number 4 (padded 4 y.toNat ++ rest) = .ok (y.toNat, rest) :=
      number_padded (by omega) (by decide) (by decide)
    have hdigits := isDigits_padded 4 y.toNat
    have hcast : (y.toNat : Int) = y := by omega
    obtain ⟨d, ds, hpadded⟩ := List.exists_cons_of_ne_nil (padded_ne_nil 4 y.toNat)
    rw [hpadded] at hdigits hnumber
    rw [if_pos hplain, hpadded, ← hcast]
    exact year_of_digit (Text.isDigits_cons.mp hdigits).1 hnumber (by omega)
  · have hnumber := number_padded_signed (by omega : y.natAbs ≤ 262143) hrest
    rw [if_neg hplain]
    by_cases hneg : y < 0
    · have hcast : -(y.natAbs : Int) = y := by omega
      rw [if_pos hneg, List.cons_append, year_of_minus hnumber (by omega), hcast]
    · have hcast : (y.natAbs : Int) = y := by omega
      rw [if_neg hneg, List.cons_append, year_of_plus hnumber (by omega), hcast]

/-!
## Fractions
-/

theorem fraction_point (hwidth : 0 < width) (hwide : width ≤ 9) (h : n < 10 ^ width) :
    fraction ('.' :: padded width n) = .ok (n * 10 ^ (9 - width), []) := by
  have hlength := length_padded hwidth h
  have hfits : n ≤ 9223372036854775807 := by
    have hpow : 10 ^ width ≤ 10 ^ 9 := Nat.pow_le_pow_right (by decide) hwide
    omega
  have hnumber : number 9 (padded width n ++ []) = _ :=
    number_eq (isDigits_padded width n) (padded_ne_nil width n) (by omega)
      (.inr Text.endsDigits_nil) (by rw [ofDigitChars_padded]; exact hfits)
  rw [List.append_nil, ofDigitChars_padded] at hnumber
  rw [fraction, hnumber]
  show Except.ok (n * 10 ^ (9 - ((padded width n).length - 0)), []) = _
  rw [hlength, Nat.sub_zero]

theorem fraction_fractionText (h : n < 1000000000) : fraction (fractionText n) = .ok (n, []) := by
  unfold fractionText
  by_cases hzero : n = 0
  · rw [if_pos hzero, hzero]
    rfl
  · rw [if_neg hzero]
    by_cases hmilli : n % 1000000 = 0
    · rw [if_pos hmilli, fraction_point (by decide) (by decide) (by omega)]
      congr 2
      omega
    · rw [if_neg hmilli]
      by_cases hmicro : n % 1000 = 0
      · rw [if_pos hmicro, fraction_point (by decide) (by decide) (by omega)]
        congr 2
        omega
      · rw [if_neg hmicro, fraction_point (by decide) (by decide) (by omega)]
        simp

theorem daysInMonth_le (y : Int) (m : Nat) : daysInMonth y m ≤ 31 := by
  unfold daysInMonth
  split_ifs <;> omega

theorem yearMonthDay_text (d : Date) (rest : List Char) :
    yearMonthDay (d.text ++ rest) = .ok ((d.year, d.month, d.day), rest) := by
  obtain ⟨hleast, hgreatest, hmonth, hmonths, hday, hdays⟩ := d.isDay
  have hlast : d.day ≤ 31 := Nat.le_trans hdays (daysInMonth_le d.year d.month)
  have htext : d.text ++ rest =
      yearText d.year ++ '-' :: (padded 2 d.month ++ '-' :: (padded 2 d.day ++ rest)) := by
    simp [Date.text]
  have hdash : ∀ cs, EndsDigits ('-' :: cs) := fun cs => Text.endsDigits_cons (by decide)
  rw [htext]
  simp only [yearMonthDay, bind, Except.bind, year_yearText hleast hgreatest (hdash _),
    separator_cons '-' (by decide), part_padded hmonth hmonths (by decide),
    part_padded hday hlast (by decide)]

end Calendar

/-!
## Dates and timestamps
-/

theorem Date.read_text (d : Date) : Date.read d.text = .ok d := by
  have hparts := Calendar.yearMonthDay_text d []
  rw [List.append_nil] at hparts
  simp only [Date.read, bind, Except.bind, hparts, Calendar.orOutOfRange, Date.ofParts?_self]
  rfl

namespace Timestamp

variable {t : Timestamp}

/-- A leap second that does not end its minute. -/
def Stray (t : Timestamp) : Prop :=
  1000000000 ≤ t.nanosecond ∧ t.second ≠ 59

instance : Decidable t.Stray := inferInstanceAs (Decidable (_ ∧ _))

def asWritten (t : Timestamp) : Timestamp :=
  if h : t.Stray then
    { t with
      second := t.second + 1
      nanosecond := t.nanosecond - 1000000000
      second_lt := by
        have hlt := t.second_lt
        have hne := h.2
        omega
      nanosecond_lt := by
        have hlt := t.nanosecond_lt
        omega }
  else t

theorem asWritten_of_not_stray (h : ¬ t.Stray) : t.asWritten = t :=
  dif_neg h

theorem second_asWritten (h : t.Stray) : t.asWritten.second = t.second + 1 := by
  rw [asWritten, dif_pos h]

theorem asWritten_eq_self_iff : t.asWritten = t ↔ ¬ t.Stray := by
  refine ⟨?_, asWritten_of_not_stray⟩
  intro heq hstray
  have hsecond := second_asWritten hstray
  rw [heq] at hsecond
  omega

theorem text_asWritten (t : Timestamp) : t.asWritten.text = t.text := by
  by_cases h : t.Stray
  · have hleast := h.1
    have hlt := t.nanosecond_lt
    have hsecond : t.second + 1 + (t.nanosecond - 1000000000) / 1000000000 =
        t.second + t.nanosecond / 1000000000 := by omega
    have hfraction : (t.nanosecond - 1000000000) % 1000000000 = t.nanosecond % 1000000000 := by
      omega
    rw [asWritten, dif_pos h]
    simp only [text, hsecond, hfraction]
  · rw [asWritten_of_not_stray h]

theorem ofClock?_shown (t : Timestamp) :
    ofClock? t.date t.hour t.minute (t.second + t.nanosecond / 1000000000)
      (t.nanosecond % 1000000000) = some t.asWritten := by
  have hsecond := t.second_lt
  have hnanosecond := t.nanosecond_lt
  by_cases h : t.Stray
  · have hleast := h.1
    have hne := h.2
    rw [ofClock?, if_neg (by omega), ofParts?_eq_some, asWritten, dif_pos h]
    exact ⟨rfl, rfl, rfl, by simp only; omega, by simp only; omega⟩
  · rw [asWritten_of_not_stray h]
    unfold Stray at h
    by_cases hlast : t.second + t.nanosecond / 1000000000 = 60
    · rw [ofClock?, if_pos hlast, ofParts?_eq_some]
      exact ⟨rfl, rfl, rfl, by omega, by omega⟩
    · rw [ofClock?, if_neg hlast, ofParts?_eq_some]
      exact ⟨rfl, rfl, rfl, by omega, by omega⟩

theorem read_text (t : Timestamp) : read t.text = .ok t.asWritten := by
  have hhour : t.hour ≤ 23 := Nat.le_of_lt_succ t.hour_lt
  have hminute : t.minute ≤ 59 := Nat.le_of_lt_succ t.minute_lt
  have hsecond : t.second + t.nanosecond / 1000000000 ≤ 60 := by
    have hlt := t.second_lt
    have hless := t.nanosecond_lt
    omega
  have hfraction : t.nanosecond % 1000000000 < 1000000000 := Nat.mod_lt _ (by decide)
  simp only [read, text, bind, Except.bind, Calendar.yearMonthDay_text,
    Calendar.separator_cons 'T' (by decide),
    Calendar.separator_cons ':' (by decide),
    Calendar.part_padded (Nat.zero_le _) hhour (by decide),
    Calendar.part_padded (Nat.zero_le _) hminute (by decide),
    Calendar.part_padded (Nat.zero_le _) hsecond (by decide),
    Calendar.fraction_fractionText hfraction, Calendar.orOutOfRange,
    Date.ofParts?_self, ofClock?_shown]
  rfl

end Timestamp
end BankFeed
