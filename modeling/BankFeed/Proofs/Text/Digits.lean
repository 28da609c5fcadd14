import BankFeed.Integer
import BankFeed.Text.Blank
import Mathlib.Algebra.Group.Nat.Defs

/-!
# Rows of digits

Readers of numbers take the digits at the start of a text. What they take is known once a row of
digits is followed by something that is no digit. Digits are no blanks, so nothing is trimmed
off before them.
-/

namespace BankFeed
namespace Text

def IsDigits (cs : List Char) : Prop :=
  ∀ c ∈ cs, c.isDigit = true

def EndsDigits (cs : List Char) : Prop :=
  ∀ c ∈ cs.head?, c.isDigit = false

variable {c d : Char} {cs ds rest : List Char}

theorem isDigits_nil : IsDigits [] := by
  intro c hc
  cases hc

theorem isDigits_cons : IsDigits (c :: cs) ↔ c.isDigit = true ∧ IsDigits cs := by
  simp [IsDigits]

theorem isDigits_append : IsDigits (cs ++ ds) ↔ IsDigits cs ∧ IsDigits ds := by
  simp [IsDigits, or_imp, forall_and]

theorem isDigits_replicate_zero (n : Nat) : IsDigits (List.replicate n '0') := by
  intro c hc
  rw [(List.mem_replicate.mp hc).2]
  rfl

theorem isDigits_toDigits (n : Nat) : IsDigits (Nat.toDigits 10 n) :=
  fun _ hc => Nat.isDigit_of_mem_toDigits (by decide) (by decide) hc

theorem IsDigits.take (h : IsDigits cs) (n : Nat) : IsDigits (cs.take n) :=
  fun c hc => h c (List.mem_of_mem_take hc)

theorem IsDigits.drop (h : IsDigits cs) (n : Nat) : IsDigits (cs.drop n) :=
  fun c hc => h c (List.mem_of_mem_drop hc)

theorem endsDigits_nil : EndsDigits [] := by
  intro c hc
  cases hc

theorem endsDigits_cons (h : c.isDigit = false) : EndsDigits (c :: cs) := by
  intro d hd
  cases hd
  exact h

theorem ne_of_isDigit (hc : c.isDigit = true) (hd : d.isDigit = false) : c ≠ d := by
  rintro rfl
  rw [hc] at hd
  cases hd

theorem takeWhile_digits (hds : IsDigits ds) (hrest : EndsDigits rest) :
    (ds ++ rest).takeWhile Char.isDigit = ds := by
  rw [List.takeWhile_append_of_pos hds]
  cases rest with
  | nil => simp
  | cons c rest =>
      rw [List.takeWhile_cons_of_neg (by simp [hrest c rfl]), List.append_nil]

theorem dropWhile_digits (hds : IsDigits ds) (hrest : EndsDigits rest) :
    (ds ++ rest).dropWhile Char.isDigit = rest := by
  rw [List.dropWhile_append_of_pos hds]
  cases rest with
  | nil => rfl
  | cons c rest => rw [List.dropWhile_cons_of_neg (by simp [hrest c rfl])]

theorem isBlank_of_isDigit (h : c.isDigit = true) : isBlank c = false := by
  have hrange : 48 ≤ c.toNat ∧ c.toNat ≤ 57 := Char.isDigit_iff_toNat.mp h
  rw [Bool.eq_false_iff]
  intro hblank
  obtain ⟨r, hr, hlow, hhigh⟩ := inRanges_iff.mp hblank
  have hapart : ∀ r ∈ blankRanges, r.2 < 48 ∨ 57 < r.1 := by decide
  rcases hapart r hr with hbelow | habove
  · omega
  · omega

theorem trimStart_of_not_blank (h : isBlank c = false) : trimStart (c :: cs) = c :: cs := by
  rw [trimStart_cons, h]
  rfl

theorem trim_of_not_blank (h : ∀ c ∈ cs, isBlank c = false) : trim cs = cs := by
  have hstart : ∀ ds : List Char, (∀ d ∈ ds, isBlank d = false) → trimStart ds = ds := by
    intro ds hds
    cases ds with
    | nil => rfl
    | cons d ds => exact trimStart_of_not_blank (hds d List.mem_cons_self)
  unfold trim
  rw [hstart cs h, hstart cs.reverse (fun c hc => h c (List.mem_reverse.mp hc)),
    List.reverse_reverse]

theorem head?_toDigits_ne_zero {n : Nat} (hn : 0 < n) : (Nat.toDigits 10 n).head? ≠ some '0' := by
  induction n using Nat.strongRecOn with
  | ind n ih =>
      by_cases hsmall : n < 10
      · have hdigit : ∀ n < 10, 0 < n → Nat.digitChar n ≠ '0' := by decide
        rw [Nat.toDigits_of_lt_base hsmall]
        intro hzero
        exact hdigit n hsmall hn (Option.some.inj hzero)
      · have hhead := ih (n / 10) (by omega) (by omega)
        obtain ⟨d, ds, hfront⟩ :=
          List.exists_cons_of_ne_nil (Nat.toDigits_ne_nil (b := 10) (n := n / 10))
        rw [hfront] at hhead
        rw [Nat.toDigits_of_base_le (by decide) (by omega), hfront]
        exact hhead

theorem toDigits_mul_pow {n : Nat} (hn : 0 < n) (k : Nat) :
    Nat.toDigits 10 (n * 10 ^ k) = Nat.toDigits 10 n ++ List.replicate k '0' := by
  induction k with
  | zero => simp
  | succ k ih =>
      have hpos : 0 < n * 10 ^ k := Nat.mul_pos hn (Nat.pow_pos (by decide))
      have hsplit : n * 10 ^ (k + 1) = 10 * (n * 10 ^ k) + 0 := by
        rw [Nat.pow_succ, Nat.add_zero, ← Nat.mul_assoc, Nat.mul_comm]
      rw [hsplit, ← Nat.toDigits_append_toDigits (by decide) hpos (by decide), ih,
        List.replicate_succ', List.append_assoc]
      rfl

theorem ofDigitChars_lt (hcs : IsDigits cs) : Nat.ofDigitChars 10 cs 0 < 10 ^ cs.length := by
  induction cs with
  | nil => decide
  | cons c cs ih =>
      rcases isDigits_cons.mp hcs with ⟨hc, hrest⟩
      have hrange : 48 ≤ c.toNat ∧ c.toNat ≤ 57 := Char.isDigit_iff_toNat.mp hc
      have hdigit : 10 * 0 + (c.toNat - '0'.toNat) ≤ 9 := by
        have hzero : '0'.toNat = 48 := rfl
        omega
      have hleading : 10 ^ cs.length * (10 * 0 + (c.toNat - '0'.toNat)) ≤ 10 ^ cs.length * 9 :=
        Nat.mul_le_mul_left _ hdigit
      have hsmall := ih hrest
      rw [Nat.ofDigitChars_cons, Nat.ofDigitChars_eq_ofDigitChars_zero, List.length_cons,
        Nat.pow_succ]
      omega

theorem pow_le_ofDigitChars (hcs : IsDigits cs) (hne : cs ≠ []) (hfirst : cs.head? ≠ some '0') :
    10 ^ cs.length ≤ 10 * Nat.ofDigitChars 10 cs 0 := by
  cases cs with
  | nil => exact absurd rfl hne
  | cons c cs =>
      have hrange : 48 ≤ c.toNat ∧ c.toNat ≤ 57 :=
        Char.isDigit_iff_toNat.mp (isDigits_cons.mp hcs).1
      have hc : c.toNat ≠ 48 := fun h => hfirst (congrArg some (Char.toNat_inj.mp h))
      have hdigit : 1 ≤ 10 * 0 + (c.toNat - '0'.toNat) := by
        have hzero : '0'.toNat = 48 := rfl
        omega
      have hleading := Nat.mul_le_mul_left (10 ^ cs.length) hdigit
      rw [Nat.ofDigitChars_cons, Nat.ofDigitChars_eq_ofDigitChars_zero, List.length_cons,
        Nat.pow_succ]
      omega

/-!
## Zeros
-/

theorem ofDigitChars_dropWhile_zero (cs : List Char) :
    Nat.ofDigitChars 10 (cs.dropWhile (· = '0')) 0 = Nat.ofDigitChars 10 cs 0 := by
  induction cs with
  | nil => rfl
  | cons c cs ih =>
      by_cases hc : c = '0'
      · rw [List.dropWhile_cons_of_pos (by simpa using hc), ih, hc]
        rfl
      · rw [List.dropWhile_cons_of_neg (by simpa using hc)]

def dropEndZeros (cs : List Char) : List Char :=
  (cs.reverse.dropWhile (· = '0')).reverse

theorem exists_end_zeros (cs : List Char) :
    ∃ k, cs = dropEndZeros cs ++ List.replicate k '0' := by
  have hzeros : cs.reverse.takeWhile (· = '0') =
      List.replicate (cs.reverse.takeWhile (· = '0')).length '0' := by
    refine List.eq_replicate_iff.mpr ⟨rfl, ?_⟩
    intro c hc
    simpa using List.all_eq_true.mp List.all_takeWhile c hc
  refine ⟨(cs.reverse.takeWhile (· = '0')).length, ?_⟩
  rw [dropEndZeros, ← List.reverse_replicate, ← hzeros, ← List.reverse_append,
    List.takeWhile_append_dropWhile, List.reverse_reverse]

end Text

namespace Integer

theorem readDigits_of_le {limit : Nat} (excess : IntegerError) {cs : List Char}
    (hcs : Text.IsDigits cs) {sofar : Nat} (h : Nat.ofDigitChars 10 cs sofar ≤ limit) :
    readDigits limit excess sofar cs = .ok (Nat.ofDigitChars 10 cs sofar) := by
  induction cs generalizing sofar with
  | nil => rfl
  | cons c cs ih =>
      rw [Nat.ofDigitChars_cons] at h ⊢
      have hrest := (Text.isDigits_cons.mp hcs)
      have hle : 10 * sofar + digitValue c ≤ limit := by
        refine Nat.le_trans ?_ h
        rw [Nat.ofDigitChars_eq_ofDigitChars_zero]
        have hpow : 1 ≤ 10 ^ cs.length := Nat.one_le_pow _ _ (by decide)
        exact Nat.le_trans (Nat.le_mul_of_pos_left _ hpow) (Nat.le_add_right _ _)
      rw [readDigits, if_pos hrest.1, if_pos hle]
      exact ih hrest.2 h

variable (least greatest : Int) {ds : List Char}

theorem read_minus (hne : ds ≠ []) (hds : Text.IsDigits ds)
    (h : least ≤ -(Nat.ofDigitChars 10 ds 0 : Int)) :
    read least greatest ('-' :: ds) = .ok (-(Nat.ofDigitChars 10 ds 0 : Int)) := by
  obtain ⟨d, ds, rfl⟩ := List.exists_cons_of_ne_nil hne
  have hle : Nat.ofDigitChars 10 (d :: ds) 0 ≤ least.natAbs := by omega
  show (readDigits least.natAbs .tooSmall 0 (d :: ds) >>= fun n => pure (-(n : Int))) = _
  rw [readDigits_of_le .tooSmall hds hle]
  rfl

theorem read_plus (hne : ds ≠ []) (hds : Text.IsDigits ds)
    (h : (Nat.ofDigitChars 10 ds 0 : Int) ≤ greatest) :
    read least greatest ('+' :: ds) = .ok (Nat.ofDigitChars 10 ds 0) := by
  obtain ⟨d, ds, rfl⟩ := List.exists_cons_of_ne_nil hne
  have hle : Nat.ofDigitChars 10 (d :: ds) 0 ≤ greatest.toNat := by omega
  show (readDigits greatest.toNat .tooLarge 0 (d :: ds) >>= fun n => pure (n : Int)) = _
  rw [readDigits_of_le .tooLarge hds hle]
  rfl

end Integer
end BankFeed
