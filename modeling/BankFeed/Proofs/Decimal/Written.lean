import BankFeed.Decimal.Printer
import BankFeed.Decimal.Reader
import BankFeed.Proofs.Decimal.Value
import BankFeed.Proofs.Text.Digits
import Mathlib.Data.List.TakeWhile

/-!
# Decimals as they are written

A decimal that was written can be read back. Its value is kept, but not always its scale: where
zeros were written in place of a negative scale the decimal comes back as an integer.
-/

namespace BankFeed
namespace Decimal

open Text (IsDigits)

def asWritten (d : Decimal) : Decimal :=
  if d.coefficient = 0 then zero
  else if 0 < d.scale ∨ trailingZeroLimit < -d.scale then d
  else ofInt (d.coefficient * 10 ^ (-d.scale).toNat)

theorem asWritten_of_zero {d : Decimal} (h : d.coefficient = 0) : d.asWritten = zero := by
  rw [asWritten, if_pos h]

theorem asWritten_of_kept {d : Decimal} (hne : d.coefficient ≠ 0)
    (h : 0 < d.scale ∨ trailingZeroLimit < -d.scale) : d.asWritten = d := by
  rw [asWritten, if_neg hne, if_pos h]

theorem asWritten_of_zeros {d : Decimal} (hne : d.coefficient ≠ 0)
    (h : ¬ (0 < d.scale ∨ trailingZeroLimit < -d.scale)) :
    d.asWritten = ofInt (d.coefficient * 10 ^ (-d.scale).toNat) := by
  rw [asWritten, if_neg hne, if_neg h]

theorem asWritten_of_integer {d : Decimal} (hne : d.coefficient ≠ 0) (h : d.scale = 0) :
    d.asWritten = d := by
  obtain ⟨coefficient, scale, _, _⟩ := d
  subst h
  rw [asWritten_of_zeros hne (by simp [trailingZeroLimit])]
  simp [ofInt]

/-!
## Cutting
-/

theorem cutAt_of_forall {p : Char → Bool} {cs : List Char} (h : ∀ c ∈ cs, p c = false) :
    cutAt p cs = (cs, none) := by
  have hkeep : ∀ c ∈ cs, (!p c) = true := by
    intro c hc
    simp [h c hc]
  have hdrop : cs.dropWhile (fun c => !p c) = [] := by
    rw [List.dropWhile_eq_nil_iff]
    exact hkeep
  simp [cutAt, hdrop]

theorem cutAt_append {p : Char → Bool} {front back : List Char} {mark : Char}
    (hfront : ∀ c ∈ front, p c = false) (hmark : p mark = true) :
    cutAt p (front ++ mark :: back) = (front, some back) := by
  have hkeep : ∀ c ∈ front, (!p c) = true := by
    intro c hc
    simp [hfront c hc]
  have hdrop : (front ++ mark :: back).dropWhile (fun c => !p c) = mark :: back := by
    rw [List.dropWhile_append_of_pos hkeep, List.dropWhile_cons_of_neg (by simp [hmark])]
  have htake : (front ++ mark :: back).takeWhile (fun c => !p c) = front := by
    rw [List.takeWhile_append_of_pos hkeep, List.takeWhile_cons_of_neg (by simp [hmark]),
      List.append_nil]
  simp [cutAt, hdrop, htake]

/-!
## Coefficients
-/

def signed (negative : Bool) (n : Nat) : Int :=
  if negative then -(n : Int) else n

def signedText (negative : Bool) (ds : List Char) : List Char :=
  if negative then '-' :: ds else ds

theorem natAbs_signed (negative : Bool) (n : Nat) : (signed negative n).natAbs = n := by
  cases negative <;> simp [signed]

theorem value_of_signed {d : Decimal} {negative : Bool} {n : Nat}
    (h : d.coefficient = signed negative n) :
    d.value = if negative then -(n * 10 ^ (-d.scale) : ℚ) else n * 10 ^ (-d.scale) := by
  rw [value, h]
  cases negative <;> simp [signed]

theorem readDigits_of_isDigits {ds : List Char} (h : IsDigits ds) (sofar : Nat) :
    readDigits sofar ds = .ok (Nat.ofDigitChars 10 ds sofar) := by
  induction ds generalizing sofar with
  | nil => rfl
  | cons d ds ih =>
      have hrest := Text.isDigits_cons.mp h
      have hline : d ≠ '_' := Text.ne_of_isDigit hrest.1 (by decide)
      rw [readDigits, if_neg hline, if_pos hrest.1, ih hrest.2, Nat.ofDigitChars_cons]
      rfl

theorem readNatural_of_isDigits {ds : List Char} (hne : ds ≠ []) (h : IsDigits ds) :
    readNatural ds = .ok (Nat.ofDigitChars 10 ds 0) := by
  obtain ⟨d, ds, rfl⟩ := List.exists_cons_of_ne_nil hne
  have hline : d ≠ '_' := Text.ne_of_isDigit (Text.isDigits_cons.mp h).1 (by decide)
  unfold readNatural
  split
  · contradiction
  · simp_all
  · exact readDigits_of_isDigits h 0

theorem readCoefficient_signedText {ds : List Char} (hne : ds ≠ []) (h : IsDigits ds)
    (negative : Bool) :
    readCoefficient (signedText negative ds) =
      .ok (signed negative (Nat.ofDigitChars 10 ds 0)) := by
  have hnatural := readNatural_of_isDigits hne h
  obtain ⟨d, ds, rfl⟩ := List.exists_cons_of_ne_nil hne
  have hd := (Text.isDigits_cons.mp h).1
  have hplus : d ≠ '+' := Text.ne_of_isDigit hd (by decide)
  have hminus : d ≠ '-' := Text.ne_of_isDigit hd (by decide)
  cases negative with
  | true =>
      simp only [signedText, signed, if_true]
      unfold readCoefficient
      split
      · simp_all
      · next heq =>
          injection heq with _ hds
          rw [← hds, hnatural]
          rfl
      · simp_all
  | false =>
      simp only [signedText, signed, Bool.false_eq_true, if_false]
      unfold readCoefficient
      split
      · simp_all
      · simp_all
      · unfold readUnsigned
        split
        · simp_all
        · simp_all
        · rw [hnatural]
          rfl

/-!
## Texts made of digits, a point and an exponent
-/

def mantissaText (negative : Bool) (whole : List Char) (places? : Option (List Char)) :
    List Char :=
  signedText negative (whole ++ (places?.map ('.' :: ·)).getD [])

section Parts

variable {negative : Bool} {whole : List Char} {places? : Option (List Char)} {d : Decimal}

theorem signedText_append (cs ds : List Char) :
    signedText negative (cs ++ ds) = signedText negative cs ++ ds := by
  cases negative <;> rfl

theorem mem_signedText {c : Char} {cs : List Char} (h : c ∈ signedText negative cs) :
    c = '-' ∨ c ∈ cs := by
  cases negative with
  | true => simpa [signedText] using h
  | false => exact .inr (by simpa [signedText] using h)

theorem mem_mantissaText {c : Char} (h : c ∈ mantissaText negative whole places?) :
    c = '-' ∨ c = '.' ∨ c ∈ whole ∨ c ∈ places?.getD [] := by
  rcases mem_signedText h with hminus | hmem
  · exact .inl hminus
  · cases places? with
    | none => exact .inr (.inr (.inl (by simpa using hmem)))
    | some places =>
        have hparts : c ∈ whole ∨ c = '.' ∨ c ∈ places := by simpa using hmem
        rcases hparts with hwhole | hpoint | hplaces
        · exact .inr (.inr (.inl hwhole))
        · exact .inr (.inl hpoint)
        · exact .inr (.inr (.inr hplaces))

theorem cutAt_point_mantissaText (hwhole : IsDigits whole) :
    cutAt (· = '.') (mantissaText negative whole places?) =
      (signedText negative whole, places?) := by
  have hfront : ∀ c ∈ signedText negative whole, decide (c = '.') = false := by
    intro c hc
    rcases mem_signedText hc with rfl | hmem
    · rfl
    · exact decide_eq_false (Text.ne_of_isDigit (hwhole c hmem) (by decide))
  cases places? with
  | none =>
      simp only [mantissaText, Option.map_none, Option.getD_none, List.append_nil]
      exact cutAt_of_forall hfront
  | some places =>
      simp only [mantissaText, Option.map_some, Option.getD_some, signedText_append]
      exact cutAt_append hfront (by simp)

variable (places?) in
theorem isExponentMark_of_mem_mantissaText {c : Char} (hwhole : IsDigits whole)
    (hplaces : IsDigits (places?.getD [])) (h : c ∈ mantissaText negative whole places?) :
    isExponentMark c = false := by
  have hdigit : ∀ d : Char, d.isDigit = true → isExponentMark d = false := by
    intro d hd
    simp [isExponentMark, Text.ne_of_isDigit hd (d := 'e') (by decide),
      Text.ne_of_isDigit hd (d := 'E') (by decide)]
  rcases mem_mantissaText h with rfl | rfl | hmem | hmem
  · rfl
  · rfl
  · exact hdigit c (hwhole c hmem)
  · exact hdigit c (hplaces c hmem)

theorem placeCount_of_isDigits {places : List Char} (h : IsDigits places) :
    placeCount places = places.length := by
  have hkeep : places.filter (· ≠ '_') = places := by
    rw [List.filter_eq_self]
    intro c hc
    exact decide_eq_true (Text.ne_of_isDigit (h c hc) (by decide))
  unfold placeCount
  rw [hkeep]

theorem read_eq_of_cut {cs mantissa : List Char} {exponentText? : Option (List Char)}
    {exponent : Int} (hcut : cutAt isExponentMark cs = (mantissa, exponentText?))
    (hexponent : exponentText?.elim (.ok 0) readExponent = .ok exponent)
    (hmantissa : mantissa.isEmpty = false) :
    read cs =
      let (whole, places?) := cutAt (· = '.') mantissa
      let places := places?.getD []
      if h : -9223372036854775808 ≤ placeCount places - exponent ∧
          placeCount places - exponent ≤ 9223372036854775807 then
        (readCoefficient (whole ++ places)).mapError .integer >>= fun coefficient =>
          pure ⟨coefficient, placeCount places - exponent, h.1, h.2⟩
      else .error (.scaleOutOfRange (String.ofList cs)) := by
  unfold read
  rw [hcut]
  cases exponentText? with
  | none =>
      cases hexponent
      simp only [hmantissa]
      rfl
  | some text =>
      simp only [hmantissa]
      rw [show readExponent text = .ok exponent from hexponent]
      rfl

theorem read_of_cut {cs : List Char} {exponentText? : Option (List Char)} {exponent : Int}
    (hcut : cutAt isExponentMark cs = (mantissaText negative whole places?, exponentText?))
    (hexponent : exponentText?.elim (.ok 0) readExponent = .ok exponent)
    (hne : whole ≠ []) (hwhole : IsDigits whole) (hplaces : IsDigits (places?.getD []))
    (hcoefficient : d.coefficient =
      signed negative (Nat.ofDigitChars 10 (whole ++ places?.getD []) 0))
    (hscale : d.scale = (places?.getD []).length - exponent) : read cs = .ok d := by
  have hmantissa : (mantissaText negative whole places?).isEmpty = false := by
    obtain ⟨w, ws, rfl⟩ := List.exists_cons_of_ne_nil hne
    cases negative <;> rfl
  have hread : readCoefficient (signedText negative whole ++ places?.getD []) =
      .ok d.coefficient := by
    rw [← signedText_append, hcoefficient]
    exact readCoefficient_signedText (by simp [hne])
      (Text.isDigits_append.mpr ⟨hwhole, hplaces⟩) negative
  have hcount : (placeCount (places?.getD []) : Int) - exponent = d.scale := by
    rw [placeCount_of_isDigits hplaces, hscale]
  rw [read_eq_of_cut hcut hexponent hmantissa, cutAt_point_mantissaText hwhole]
  simp only [hread, hcount]
  rw [dif_pos ⟨d.scale_ge, d.scale_le⟩]
  rfl

end Parts

/-!
## The forms of a written decimal
-/

theorem exists_pointText {digits : List Char} (hne : digits ≠ []) (hdigits : IsDigits digits)
    (count : Nat) :
    ∃ whole places, pointText digits count = whole ++ '.' :: places ∧
      whole ≠ [] ∧ IsDigits whole ∧ IsDigits places ∧ places.length = count ∧
        Nat.ofDigitChars 10 (whole ++ places) 0 = Nat.ofDigitChars 10 digits 0 := by
  unfold pointText
  by_cases hcount : count < digits.length
  · rw [if_pos hcount]
    refine ⟨_, _, rfl, ?_, hdigits.take _, hdigits.drop _, ?_, ?_⟩
    · rw [ne_eq, List.take_eq_nil_iff]
      simp only [hne, or_false]
      omega
    · rw [List.length_drop]
      omega
    · rw [List.take_append_drop]
  · rw [if_neg hcount]
    refine ⟨['0'], _, rfl, by simp, Text.isDigits_replicate_zero 1,
      Text.isDigits_append.mpr ⟨Text.isDigits_replicate_zero _, hdigits⟩, ?_, ?_⟩
    · rw [List.length_append, List.length_replicate]
      omega
    · show Nat.ofDigitChars 10 (List.replicate (count - digits.length + 1) '0' ++ digits) 0 = _
      rw [Nat.ofDigitChars_append, Nat.ofDigitChars_replicate_zero, Nat.mul_zero]

theorem exists_scientificText {digits : List Char} (hne : digits ≠ []) (exponent : Int) :
    ∃ (first : Char) (places? : Option (List Char)),
      scientificText digits exponent =
        [first] ++ (places?.map ('.' :: ·)).getD [] ++ 'E' :: integerText exponent ∧
      [first] ++ places?.getD [] = digits := by
  match digits with
  | [d] => exact ⟨d, none, rfl, rfl⟩
  | d :: e :: ds => exact ⟨d, some (e :: ds), by simp [scientificText], rfl⟩

theorem readExponent_integerText {n : Int} (hleast : -9223372036854775808 ≤ n) (hneg : n < 0) :
    readExponent (integerText n) = .ok n := by
  have hread := Integer.read_minus (-170141183460469231731687303715884105728)
    170141183460469231731687303715884105727 Nat.toDigits_ne_nil
    (Text.isDigits_toDigits n.natAbs) (by rw [Nat.ofDigitChars_ten_toDigits]; omega)
  rw [Nat.ofDigitChars_ten_toDigits] at hread
  rw [integerText, if_pos hneg, readExponent, hread]
  congr 1
  omega

theorem readExponent_plus_integerText {n : Int} (hgreatest : n ≤ 9223372036854775808)
    (hpos : 0 ≤ n) : readExponent ('+' :: integerText n) = .ok n := by
  have hread := Integer.read_plus (-170141183460469231731687303715884105728)
    170141183460469231731687303715884105727 Nat.toDigits_ne_nil
    (Text.isDigits_toDigits n.natAbs) (by rw [Nat.ofDigitChars_ten_toDigits]; omega)
  rw [Nat.ofDigitChars_ten_toDigits] at hread
  rw [integerText, if_neg (by omega), readExponent, hread]
  congr 1
  omega

section Forms

variable {d : Decimal} {negative : Bool} {n : Nat}

theorem read_scientificText {exponent : Int} (hcoefficient : d.coefficient = signed negative n)
    (hexponent : exponent = (Nat.toDigits 10 n).length - d.scale - 1) (hneg : exponent < 0) :
    read (signedText negative (scientificText (Nat.toDigits 10 n) exponent)) = .ok d := by
  have hdigits := Text.isDigits_toDigits n
  obtain ⟨first, places?, htext, hparts⟩ :=
    exists_scientificText (Nat.toDigits_ne_nil (b := 10) (n := n)) exponent
  have hlength := congrArg List.length hparts
  rw [List.length_append, List.length_singleton] at hlength
  rw [← hparts, Text.isDigits_append] at hdigits
  have hle := d.scale_le
  have hcut : cutAt isExponentMark
      (signedText negative (scientificText (Nat.toDigits 10 n) exponent)) =
        (mantissaText negative [first] places?, some (integerText exponent)) := by
    rw [htext, signedText_append]
    exact cutAt_append
      (fun c hc => isExponentMark_of_mem_mantissaText places? hdigits.1 hdigits.2 hc) rfl
  refine read_of_cut hcut (readExponent_integerText (by omega) hneg) (by simp) hdigits.1
    hdigits.2 ?_ (by omega)
  rw [hparts, Nat.ofDigitChars_ten_toDigits, hcoefficient]

theorem read_pointText (hcoefficient : d.coefficient = signed negative n) (hscale : 0 ≤ d.scale) :
    read (signedText negative (pointText (Nat.toDigits 10 n) d.scale.toNat)) = .ok d := by
  obtain ⟨whole, places, htext, hne, hwhole, hplaces, hcount, hvalue⟩ :=
    exists_pointText (Nat.toDigits_ne_nil (b := 10) (n := n)) (Text.isDigits_toDigits n)
      d.scale.toNat
  have hcut : cutAt isExponentMark
      (signedText negative (pointText (Nat.toDigits 10 n) d.scale.toNat)) =
        (mantissaText negative whole (some places), none) := by
    rw [htext]
    exact cutAt_of_forall
      (fun c hc => isExponentMark_of_mem_mantissaText (some places) hwhole hplaces hc)
  refine read_of_cut hcut rfl hne hwhole hplaces ?_ ?_
  · rw [Option.getD_some, hvalue, Nat.ofDigitChars_ten_toDigits, hcoefficient]
  · rw [Option.getD_some, hcount]
    omega

theorem read_digits {ds : List Char} (hne : ds ≠ []) (hds : IsDigits ds) :
    read (signedText negative ds) = .ok (ofInt (signed negative (Nat.ofDigitChars 10 ds 0))) := by
  have hcut : cutAt isExponentMark (signedText negative ds) =
      (mantissaText negative ds none, none) := by
    have hmantissa : signedText negative ds = mantissaText negative ds none := by
      simp [mantissaText]
    rw [hmantissa]
    exact cutAt_of_forall
      (fun c hc => isExponentMark_of_mem_mantissaText none hds Text.isDigits_nil hc)
  refine read_of_cut hcut rfl hne hds Text.isDigits_nil ?_ rfl
  rw [Option.getD_none, List.append_nil]
  rfl

theorem read_trailingText (hcoefficient : d.coefficient = signed negative n)
    (hscale : d.scale ≤ 0) :
    read (signedText negative (Nat.toDigits 10 n ++ 'e' :: '+' :: integerText (-d.scale))) =
      .ok d := by
  have hdigits := Text.isDigits_toDigits n
  have hge := d.scale_ge
  have hcut : cutAt isExponentMark
      (signedText negative (Nat.toDigits 10 n ++ 'e' :: '+' :: integerText (-d.scale))) =
        (mantissaText negative (Nat.toDigits 10 n) none, some ('+' :: integerText (-d.scale))) := by
    have hmantissa : signedText negative (Nat.toDigits 10 n) =
        mantissaText negative (Nat.toDigits 10 n) none := by
      simp [mantissaText]
    rw [signedText_append, hmantissa]
    exact cutAt_append
      (fun c hc => isExponentMark_of_mem_mantissaText none hdigits
        Text.isDigits_nil hc) rfl
  refine read_of_cut hcut (readExponent_plus_integerText (by omega) (by omega))
    Nat.toDigits_ne_nil hdigits Text.isDigits_nil ?_ ?_
  · rw [Option.getD_none, List.append_nil, Nat.ofDigitChars_ten_toDigits, hcoefficient]
  · simp

end Forms

theorem text_of_ne_zero {d : Decimal} (h : d.coefficient ≠ 0) :
    d.text = signedText (decide (d.coefficient < 0))
      (magnitudeText (Nat.toDigits 10 d.coefficient.natAbs) d.scale) := by
  unfold text
  rw [if_neg h]
  by_cases hneg : d.coefficient < 0
  · simp [hneg, signedText]
  · simp [hneg, signedText]

theorem coefficient_eq_signed (n : Int) : n = signed (decide (n < 0)) n.natAbs := by
  by_cases hneg : n < 0
  · simp only [hneg, decide_true, signed, if_true]
    omega
  · simp only [hneg, decide_false, signed, Bool.false_eq_true, if_false]
    omega

theorem magnitudeText_of_zeros {digits : List Char} {scale : Int}
    (h : ¬ (0 < scale ∨ trailingZeroLimit < -scale)) :
    magnitudeText digits scale = digits ++ List.replicate (-scale).toNat '0' := by
  rw [magnitudeText, if_neg (fun hpos => h (.inl hpos)), if_neg (fun hlarge => h (.inr hlarge))]

theorem signed_mul (negative : Bool) (n m : Nat) :
    signed negative (n * m) = signed negative n * m := by
  cases negative with
  | true => simp [signed]
  | false => simp [signed]

theorem read_text_of_kept {d : Decimal} (hne : d.coefficient ≠ 0)
    (h : 0 < d.scale ∨ trailingZeroLimit < -d.scale) : read d.text = .ok d := by
  have hcoefficient := coefficient_eq_signed d.coefficient
  rw [text_of_ne_zero hne, magnitudeText]
  by_cases hpos : 0 < d.scale
  · rw [if_pos hpos]
    by_cases hsmall : leadingZeroLimit < d.scale - (Nat.toDigits 10 d.coefficient.natAbs).length
    · rw [if_pos hsmall]
      unfold leadingZeroLimit at hsmall
      exact read_scientificText hcoefficient rfl (by omega)
    · rw [if_neg hsmall]
      exact read_pointText hcoefficient hpos.le
  · rw [if_neg hpos, if_pos (h.resolve_left hpos)]
    exact read_trailingText hcoefficient (by omega)

theorem read_text_of_zeros {d : Decimal} (hne : d.coefficient ≠ 0)
    (h : ¬ (0 < d.scale ∨ trailingZeroLimit < -d.scale)) :
    read d.text = .ok (ofInt (d.coefficient * 10 ^ (-d.scale).toNat)) := by
  rw [text_of_ne_zero hne, magnitudeText_of_zeros h, read_digits (by simp [Nat.toDigits_ne_nil])
    (Text.isDigits_append.mpr ⟨Text.isDigits_toDigits _, Text.isDigits_replicate_zero _⟩),
    Nat.ofDigitChars_append, Nat.ofDigitChars_ten_toDigits, Nat.ofDigitChars_replicate_zero,
    Nat.mul_comm, signed_mul, ← coefficient_eq_signed]
  norm_cast

/-- A decimal is read back from its text. -/
theorem read_text (d : Decimal) : read d.text = .ok d.asWritten := by
  by_cases hzero : d.coefficient = 0
  · rw [asWritten_of_zero hzero, text, if_pos hzero]
    rfl
  · by_cases hkept : 0 < d.scale ∨ trailingZeroLimit < -d.scale
    · rw [asWritten_of_kept hzero hkept]
      exact read_text_of_kept hzero hkept
    · rw [asWritten_of_zeros hzero hkept]
      exact read_text_of_zeros hzero hkept

/-!
## What is kept
-/

theorem value_ofInt (n : Int) : (ofInt n).value = n := by
  simp [value, ofInt]

theorem value_asWritten (d : Decimal) : d.asWritten.value = d.value := by
  by_cases hzero : d.coefficient = 0
  · rw [asWritten_of_zero hzero, value_eq_zero_iff.mpr hzero]
    exact value_eq_zero_iff.mpr rfl
  · by_cases hkept : 0 < d.scale ∨ trailingZeroLimit < -d.scale
    · rw [asWritten_of_kept hzero hkept]
    · have hscale : ((-d.scale).toNat : Int) = -d.scale := by omega
      rw [asWritten_of_zeros hzero hkept, value_ofInt, value, ← hscale, zpow_natCast]
      norm_cast

theorem text_asWritten (d : Decimal) : d.asWritten.text = d.text := by
  by_cases hzero : d.coefficient = 0
  · rw [asWritten_of_zero hzero, text, text, if_pos hzero]
    rfl
  · by_cases hkept : 0 < d.scale ∨ trailingZeroLimit < -d.scale
    · rw [asWritten_of_kept hzero hkept]
    · have hpow : (0 : Int) < 10 ^ (-d.scale).toNat := by positivity
      have hne : (ofInt (d.coefficient * 10 ^ (-d.scale).toNat)).coefficient ≠ 0 :=
        mul_ne_zero hzero hpow.ne'
      have hneg : d.coefficient * 10 ^ (-d.scale).toNat < 0 ↔ d.coefficient < 0 := by
        rw [mul_neg_iff]
        omega
      have habs : (d.coefficient * 10 ^ (-d.scale).toNat).natAbs =
          d.coefficient.natAbs * 10 ^ (-d.scale).toNat := by
        rw [Int.natAbs_mul, Int.natAbs_pow]
        rfl
      have hscale : ¬ (0 < (ofInt (d.coefficient * 10 ^ (-d.scale).toNat)).scale ∨
          trailingZeroLimit < -(ofInt (d.coefficient * 10 ^ (-d.scale).toNat)).scale) := by
        simp [ofInt, trailingZeroLimit]
      rw [asWritten_of_zeros hzero hkept, text_of_ne_zero hne, text_of_ne_zero hzero,
        magnitudeText_of_zeros hkept,
        magnitudeText_of_zeros hscale]
      simp only [ofInt, hneg, habs, Text.toDigits_mul_pow (Int.natAbs_pos.mpr hzero)]
      simp

def IsWrittenChar (c : Char) : Prop :=
  c.isDigit = true ∨ c = '-' ∨ c = '+' ∨ c = '.' ∨ c = 'e' ∨ c = 'E'

theorem isWrittenChar_of_mem_integerText {n : Int} {c : Char} (h : c ∈ integerText n) :
    IsWrittenChar c := by
  unfold integerText at h
  split at h
  · rcases List.mem_cons.mp h with hminus | hdigit
    · exact .inr (.inl hminus)
    · exact .inl (Text.isDigits_toDigits _ c hdigit)
  · exact .inl (Text.isDigits_toDigits _ c h)

theorem isWrittenChar_of_mem_magnitudeText {digits : List Char} {scale : Int} {c : Char}
    (hne : digits ≠ []) (hdigits : IsDigits digits) (h : c ∈ magnitudeText digits scale) :
    IsWrittenChar c := by
  unfold magnitudeText at h
  split at h
  · split at h
    · obtain ⟨first, places?, htext, hparts⟩ :=
        exists_scientificText hne (digits.length - scale - 1)
      rw [← hparts, Text.isDigits_append] at hdigits
      rw [htext, List.mem_append, List.mem_cons] at h
      rcases h with hmantissa | hmark | hexponent
      · have hmantissa : c ∈ mantissaText false [first] places? := hmantissa
        rcases mem_mantissaText hmantissa with h | h | h | h
        · exact .inr (.inl h)
        · exact .inr (.inr (.inr (.inl h)))
        · exact .inl (hdigits.1 c h)
        · exact .inl (hdigits.2 c h)
      · exact .inr (.inr (.inr (.inr (.inr hmark))))
      · exact isWrittenChar_of_mem_integerText hexponent
    · obtain ⟨whole, places, htext, _, hwhole, hplaces, _, _⟩ :=
        exists_pointText hne hdigits scale.toNat
      rw [htext, List.mem_append, List.mem_cons] at h
      rcases h with h | h | h
      · exact .inl (hwhole c h)
      · exact .inr (.inr (.inr (.inl h)))
      · exact .inl (hplaces c h)
  · split at h
    · simp only [List.mem_append, List.mem_cons] at h
      rcases h with h | h | h | h
      · exact .inl (hdigits c h)
      · exact .inr (.inr (.inr (.inr (.inl h))))
      · exact .inr (.inr (.inl h))
      · exact isWrittenChar_of_mem_integerText h
    · rcases List.mem_append.mp h with h | h
      · exact .inl (hdigits c h)
      · exact .inl (Text.isDigits_replicate_zero _ c h)

theorem isWrittenChar_of_mem_text {d : Decimal} {c : Char} (h : c ∈ d.text) : IsWrittenChar c := by
  by_cases hzero : d.coefficient = 0
  · rw [text, if_pos hzero, List.mem_singleton] at h
    rw [h]
    exact .inl rfl
  · rw [text_of_ne_zero hzero] at h
    rcases mem_signedText h with hminus | hmagnitude
    · exact .inr (.inl hminus)
    · exact isWrittenChar_of_mem_magnitudeText Nat.toDigits_ne_nil (Text.isDigits_toDigits _)
        hmagnitude

theorem trim_text (d : Decimal) : Text.trim d.text = d.text := by
  apply Text.trim_of_not_blank
  intro c hc
  rcases isWrittenChar_of_mem_text hc with hdigit | rfl | rfl | rfl | rfl | rfl
  · exact Text.isBlank_of_isDigit hdigit
  all_goals decide

end Decimal
end BankFeed
