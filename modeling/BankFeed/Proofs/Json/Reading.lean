import BankFeed.Json.Reader
import BankFeed.Proofs.Json.Strings
import BankFeed.Proofs.Text.Digits
import Mathlib.Data.List.Forall2

/-!
# Reading documents piece by piece

A text reads as a document if the reader takes it as this document wherever it stands: whatever
follows it there and however much recursion is left beyond its length. Such texts are put
together to the texts of arrays and objects.
-/

namespace BankFeed
namespace Json

open Text (IsDigits EndsDigits)

variable {cs ds rest : List Char} {j : Json}

/-- What may stand behind a value inside a document. -/
def EndsValue (cs : List Char) : Prop :=
  ∀ c ∈ cs.head?, c = ',' ∨ c = ']' ∨ c = '}'

theorem endsValue_nil : EndsValue [] := by
  intro c hc
  cases hc

theorem EndsValue.endsDigits (h : EndsValue rest) : EndsDigits rest := by
  intro c hc
  rcases h c hc with rfl | rfl | rfl <;> rfl

/-!
## Where numbers end

A number ends where the text breaks off, so what is read of it does not change when the text goes
on with something that cannot belong to a number.
-/

theorem takeDigits_append (h : EndsDigits rest) (cs : List Char) :
    takeDigits (cs ++ rest) = ((takeDigits cs).1, (takeDigits cs).2 ++ rest) := by
  induction cs with
  | nil =>
      cases rest with
      | nil => rfl
      | cons c rest => simp [takeDigits, h c rfl]
  | cons c cs ih =>
      simp only [takeDigits, Prod.mk.injEq] at ih
      by_cases hc : c.isDigit = true
      · simp [takeDigits, hc, ih.1, ih.2]
      · simp [takeDigits, hc]

theorem scanPlaces_of_head?_ne (h : cs.head? ≠ some '.') : scanPlaces cs = some (none, cs) := by
  unfold scanPlaces
  split
  · exact absurd rfl h
  · rfl

theorem scanPlaces_append {places? : Option (List Char)} (hrest : EndsValue rest)
    (h : scanPlaces cs = some (places?, ds)) :
    scanPlaces (cs ++ rest) = some (places?, ds ++ rest) := by
  cases cs with
  | nil =>
      cases h
      refine scanPlaces_of_head?_ne ?_
      intro hpoint
      rcases hrest '.' hpoint with hno | hno | hno <;> exact absurd hno (by decide)
  | cons c cs =>
      by_cases hpoint : c = '.'
      · subst hpoint
        simp only [List.cons_append, scanPlaces, takeDigits_append hrest.endsDigits] at h ⊢
        split at h
        · cases h
        · next hsome =>
            cases h
            rw [if_neg hsome]
      · rw [scanPlaces_of_head?_ne (by simpa using hpoint)] at h
        cases h
        exact scanPlaces_of_head?_ne (by simpa using hpoint)

theorem scanExponentDigits_append {negative : Bool} {exponent? : Option Int}
    (hrest : EndsValue rest) (h : scanExponentDigits negative cs = some (exponent?, ds)) :
    scanExponentDigits negative (cs ++ rest) = some (exponent?, ds ++ rest) := by
  simp only [scanExponentDigits, takeDigits_append hrest.endsDigits] at h ⊢
  split at h
  · cases h
  · next hsome =>
      cases h
      rw [if_neg hsome]

theorem scanExponent_of_not_mark {c : Char} (h : ¬ (c = 'e' ∨ c = 'E')) :
    scanExponent (c :: cs) = some (none, c :: cs) :=
  if_neg h

section Mark

variable {mark : Char} (hmark : mark = 'e' ∨ mark = 'E')

include hmark

theorem scanExponent_minus : scanExponent (mark :: '-' :: cs) = scanExponentDigits true cs :=
  if_pos hmark

theorem scanExponent_plus : scanExponent (mark :: '+' :: cs) = scanExponentDigits false cs :=
  if_pos hmark

theorem scanExponent_unsigned {c : Char} (hminus : c ≠ '-') (hplus : c ≠ '+') :
    scanExponent (mark :: c :: cs) = scanExponentDigits false (c :: cs) := by
  refine (if_pos hmark).trans ?_
  split
  · next hsign => exact absurd (List.cons.inj hsign).1 hminus
  · next hsign => exact absurd (List.cons.inj hsign).1 hplus
  · rfl

end Mark

theorem scanExponent_append {exponent? : Option Int} (hrest : EndsValue rest)
    (h : scanExponent cs = some (exponent?, ds)) :
    scanExponent (cs ++ rest) = some (exponent?, ds ++ rest) := by
  cases cs with
  | nil =>
      cases h
      cases rest with
      | nil => rfl
      | cons c rest =>
          refine scanExponent_of_not_mark ?_
          rcases hrest c rfl with rfl | rfl | rfl <;> decide
  | cons c cs =>
      by_cases hmark : c = 'e' ∨ c = 'E'
      · cases cs with
        | nil => simp [scanExponent, hmark, scanExponentDigits, takeDigits] at h
        | cons d cs =>
            by_cases hminus : d = '-'
            · subst hminus
              rw [scanExponent_minus hmark] at h
              exact (scanExponent_minus hmark).trans (scanExponentDigits_append hrest h)
            · by_cases hplus : d = '+'
              · subst hplus
                rw [scanExponent_plus hmark] at h
                exact (scanExponent_plus hmark).trans (scanExponentDigits_append hrest h)
              · rw [scanExponent_unsigned hmark hminus hplus] at h
                exact (scanExponent_unsigned hmark hminus hplus).trans
                  (scanExponentDigits_append hrest h)
      · rw [scanExponent_of_not_mark hmark] at h
        cases h
        exact scanExponent_of_not_mark hmark

theorem scanNumber_append {n : NumberText} (hrest : EndsValue rest)
    (h : scanNumber cs = some (n, ds)) : scanNumber (cs ++ rest) = some (n, ds ++ rest) := by
  simp only [scanNumber, takeDigits_append hrest.endsDigits] at h ⊢
  split at h
  · cases h
  · next hwhole =>
      rw [if_neg hwhole]
      obtain ⟨⟨places?, afterPlaces⟩, hplaces, h⟩ := Option.bind_eq_some_iff.mp h
      obtain ⟨⟨exponent?, afterExponent⟩, hexponent, h⟩ := Option.bind_eq_some_iff.mp h
      cases h
      rw [scanPlaces_append hrest hplaces]
      show (scanExponent (afterPlaces ++ rest) >>= _) = _
      rw [scanExponent_append hrest hexponent]
      rfl

theorem readNumber_append {negative : Bool} (hrest : EndsValue rest)
    (h : readNumber negative cs = (j, some ds)) :
    readNumber negative (cs ++ rest) = (j, some (ds ++ rest)) := by
  unfold readNumber at h ⊢
  cases hscan : scanNumber cs with
  | none =>
      rw [hscan] at h
      cases h
  | some scanned =>
      rw [hscan] at h
      cases h
      rw [scanNumber_append hrest hscan]

/-!
## Texts that read as a document
-/

/-- The text reads as the document wherever a value may stand. -/
def Reads (cs : List Char) (j : Json) : Prop :=
  ∀ rest, EndsValue rest → ∀ fuel, cs.length ≤ fuel → readValue fuel (cs ++ rest) = (j, some rest)

def ReadsItems (cs : List Char) (items : Items) : Prop :=
  ∀ rest fuel, cs.length ≤ fuel → readItems fuel (cs ++ rest) = (items, some rest)

def ReadsMembers (cs : List Char) (members : Members) : Prop :=
  ∀ rest fuel, cs.length ≤ fuel → readMembers fuel (cs ++ rest) = (members, some rest)

theorem Reads.read (h : Reads cs j) (hdeep : j.within levelLimit = j) :
    read cs = (j, some []) := by
  have hvalue := h [] endsValue_nil (2 * cs.length + 2) (by omega)
  rw [List.append_nil] at hvalue
  rw [Json.read, hvalue]
  simp only [hdeep]

theorem exists_fuel {n fuel : Nat} (h : n + 1 ≤ fuel) : ∃ k, fuel = k + 1 ∧ n ≤ k :=
  ⟨fuel - 1, by omega, by omega⟩

theorem reads_null : Reads ['n', 'u', 'l', 'l'] .null := by
  intro rest _ fuel hfuel
  obtain ⟨fuel, rfl, -⟩ := exists_fuel hfuel
  rfl

theorem reads_flag (b : Bool) : Reads (render (.flag b)) (.flag b) := by
  intro rest _ fuel hfuel
  cases b with
  | true =>
      obtain ⟨fuel, rfl, -⟩ := exists_fuel hfuel
      rfl
  | false =>
      obtain ⟨fuel, rfl, -⟩ := exists_fuel hfuel
      rfl

theorem reads_text (s : String) : Reads (stringText s) (.text s) := by
  intro rest _ fuel hfuel
  obtain ⟨fuel, rfl, -⟩ := exists_fuel hfuel
  have hbody := readText_written s rest
  rw [stringText, List.cons_append, List.append_assoc]
  exact hbody

/-!
## Numbers
-/

def IsNumber : Json → Prop
  | .integer _ => True
  | .double _ => True
  | _ => False

theorem within_eq_of_isNumber {levels : Nat} (h : (j.within levels).IsNumber) :
    j.within levels = j := by
  cases j with
  | array items =>
      cases levels with
      | zero => cases hwhole : items.isWhole <;> simp [within, hwhole, IsNumber] at h
      | succ levels => simp [within, IsNumber] at h
  | object members =>
      cases levels with
      | zero => cases hwhole : members.isWhole <;> simp [within, hwhole, IsNumber] at h
      | succ levels => simp [within, IsNumber] at h
  | _ => simp [within]

theorem not_isNumber_of_readText {after : Option (List Char)} (h : readText cs = (j, after)) :
    ¬ j.IsNumber := by
  unfold readText at h
  split at h
  · obtain ⟨rfl, -⟩ := Prod.mk.inj h
    exact id
  · split at h
    · obtain ⟨rfl, -⟩ := Prod.mk.inj h
      exact id
    · obtain ⟨rfl, -⟩ := Prod.mk.inj h
      exact id

theorem not_isNumber_of_readWord {word : List Char} {value : Json} {after : Option (List Char)}
    (hvalue : ¬ value.IsNumber) (h : readWord word value cs = (j, after)) : ¬ j.IsNumber := by
  unfold readWord at h
  split at h
  · obtain ⟨rfl, -⟩ := Prod.mk.inj h
    exact hvalue
  · obtain ⟨rfl, -⟩ := Prod.mk.inj h
    exact id

theorem skipSpace_append (h : skipSpace cs ≠ []) (rest : List Char) :
    skipSpace (cs ++ rest) = skipSpace cs ++ rest := by
  unfold skipSpace at h ⊢
  rw [List.dropWhile_append, if_neg (by simpa using h)]

theorem exists_readNumber {fuel : Nat} (h : readValue (fuel + 1) cs = (j, some ds))
    (hj : j.IsNumber) :
    ∃ negative number, readNumber negative number = (j, some ds) ∧
      ∀ fuel rest, readValue (fuel + 1) (cs ++ rest) = readNumber negative (number ++ rest) := by
  have hne : skipSpace cs ≠ [] := by
    intro hnil
    rw [readValue.eq_2, hnil] at h
    cases h
  rw [readValue.eq_2] at h
  split at h
  · contradiction
  · next rest hquote => exact absurd hj (not_isNumber_of_readText h)
  · next rest hbracket =>
      split at h
      · obtain ⟨rfl, -⟩ := Prod.mk.inj h
        cases hj
      · obtain ⟨rfl, -⟩ := Prod.mk.inj h
        cases hj
  · next rest hbrace =>
      split at h
      · obtain ⟨rfl, -⟩ := Prod.mk.inj h
        cases hj
      · obtain ⟨rfl, -⟩ := Prod.mk.inj h
        cases hj
  · next number hminus =>
      refine ⟨true, number, h, fun fuel rest => ?_⟩
      rw [readValue.eq_2, skipSpace_append hne, hminus]
      rfl
  · next rest hword => exact absurd hj (not_isNumber_of_readWord (by exact id) h)
  · next rest hword => exact absurd hj (not_isNumber_of_readWord (by exact id) h)
  · next rest hword => exact absurd hj (not_isNumber_of_readWord (by exact id) h)
  · next number hquote hbracket hbrace hminus hn ht hf =>
      refine ⟨false, skipSpace cs, h, fun fuel rest => ?_⟩
      obtain ⟨c, number, hskip⟩ := List.exists_cons_of_ne_nil hne
      rw [readValue.eq_2, skipSpace_append hne, hskip, List.cons_append]
      split
      all_goals first | rfl | simp_all

/-- A number that is a document of its own is the same number inside a document. -/
theorem reads_number (h : read cs = (j, some [])) (hj : j.IsNumber) : Reads cs j := by
  intro rest hrest fuel hfuel
  cases hvalue : readValue (2 * cs.length + 2) cs with
  | mk document after =>
      rw [read, hvalue] at h
      obtain ⟨hwithin, rfl⟩ := Prod.mk.inj h
      obtain rfl : document = j := by
        rw [← hwithin]
        exact (within_eq_of_isNumber (hwithin ▸ hj)).symm
      obtain ⟨negative, number, hnumber, hafter⟩ := exists_readNumber hvalue hj
      obtain ⟨c, cs, rfl⟩ : ∃ c ds, cs = c :: ds := by
        refine List.exists_cons_of_ne_nil ?_
        rintro rfl
        cases hvalue
      obtain ⟨fuel, rfl, -⟩ := exists_fuel hfuel
      rw [hafter]
      exact readNumber_append hrest hnumber

theorem scanNumber_toDigits (n : Nat) :
    scanNumber (Nat.toDigits 10 n) = some (⟨Nat.toDigits 10 n, none, none⟩, []) := by
  have hdigits : takeDigits (Nat.toDigits 10 n) = (Nat.toDigits 10 n, []) := by
    have htake := Text.takeWhile_digits (Text.isDigits_toDigits n) Text.endsDigits_nil
    have hdrop := Text.dropWhile_digits (Text.isDigits_toDigits n) Text.endsDigits_nil
    rw [List.append_nil] at htake hdrop
    rw [takeDigits, htake, hdrop]
  have hplain : ¬ ((Nat.toDigits 10 n).isEmpty = true ∨
      ((Nat.toDigits 10 n).head? = some '0' ∧ (Nat.toDigits 10 n).length ≠ 1)) := by
    rintro (hempty | ⟨hzero, hlength⟩)
    · exact Nat.toDigits_ne_nil (List.isEmpty_iff.mp hempty)
    · by_cases hn : 0 < n
      · exact Text.head?_toDigits_ne_zero hn hzero
      · obtain rfl : n = 0 := by omega
        exact hlength rfl
  rw [scanNumber, hdigits]
  simp only [if_neg hplain]
  rfl

theorem readValue_of_isDigit {d : Char} (hd : d.isDigit = true) (fuel : Nat) (cs : List Char) :
    readValue (fuel + 1) (d :: cs) = readNumber false (d :: cs) := by
  have hspace : isSpace d = false := by
    have hapart : ∀ c, c.isDigit = false → d ≠ c := fun c hc => Text.ne_of_isDigit hd hc
    simp [isSpace, hapart ' ' (by decide), hapart '\t' (by decide), hapart '\n' (by decide),
      hapart '\r' (by decide)]
  rw [readValue.eq_2, skipSpace, List.dropWhile_cons_of_neg (by simp [hspace])]
  split
  all_goals first | rfl | simp_all

theorem reads_integer {n : Int} (hn : 0 ≤ n) (hsmall : n ≤ 18446744073709551615) :
    Reads (integerText n) (.integer n) := by
  have hread : readNumber false (Nat.toDigits 10 n.natAbs) = (.integer n, some []) := by
    have hvalue : (n.natAbs : Int) = n := Int.natAbs_of_nonneg hn
    rw [readNumber, scanNumber_toDigits]
    simp only [NumberText.toJson, Nat.ofDigitChars_ten_toDigits, and_self, if_true,
      Bool.false_eq_true, if_false, hvalue]
    rw [if_neg (by omega)]
  have hdigits := Text.isDigits_toDigits n.natAbs
  intro rest hrest fuel hfuel
  rw [integerText, if_neg (by omega)] at hfuel ⊢
  obtain ⟨d, ds, htext⟩ :=
    List.exists_cons_of_ne_nil (Nat.toDigits_ne_nil (b := 10) (n := n.natAbs))
  rw [htext] at hread hfuel hdigits ⊢
  obtain ⟨fuel, rfl, -⟩ := exists_fuel hfuel
  rw [List.cons_append, readValue_of_isDigit (Text.isDigits_cons.mp hdigits).1,
    ← List.cons_append]
  exact readNumber_append hrest hread

/-!
## Arrays
-/

theorem readValue_of_bracket {after : List Char} (h : skipSpace cs = ']' :: after) (fuel : Nat) :
    readValue fuel cs = (.broken, none) := by
  cases fuel with
  | zero => rfl
  | succ fuel =>
      rw [readValue.eq_2, h]
      rfl

theorem ReadsItems.skipSpace_ne {items : Items} (h : ReadsItems cs items) (rest after : List Char) :
    skipSpace (cs ++ rest) ≠ ']' :: after := by
  intro hbracket
  have hitems := h rest (cs.length + 1) (Nat.le_succ _)
  rw [readItems.eq_2, readValue_of_bracket hbracket] at hitems
  cases hitems

theorem readsItems_last (h : Reads cs j) : ReadsItems (cs ++ [']']) (.item j .closed) := by
  intro rest fuel hfuel
  rw [List.length_append] at hfuel
  obtain ⟨fuel, rfl, hle⟩ := exists_fuel hfuel
  rw [readItems.eq_2, List.append_assoc,
    h ([']'] ++ rest) (by intro c hc; cases hc; decide) fuel hle]
  rfl

theorem readsItems_next {items : Items} (h : Reads cs j) (hitems : ReadsItems ds items) :
    ReadsItems (cs ++ ',' :: ds) (.item j items) := by
  intro rest fuel hfuel
  rw [List.length_append, List.length_cons] at hfuel
  obtain ⟨fuel, rfl, hle⟩ := exists_fuel hfuel
  rw [readItems.eq_2, List.append_assoc, List.cons_append,
    h (',' :: (ds ++ rest)) (by intro c hc; cases hc; decide) fuel (by omega)]
  show ((Items.item j (readItems fuel (ds ++ rest)).1), _) = _
  rw [hitems rest fuel (by omega)]

theorem reads_array_closed : Reads ['[', ']'] (.array .closed) := by
  intro rest _ fuel hfuel
  obtain ⟨fuel, rfl, -⟩ := exists_fuel hfuel
  rfl

theorem reads_array {items : Items} (h : ReadsItems cs items) :
    Reads ('[' :: cs) (.array items) := by
  intro rest hrest fuel hfuel
  obtain ⟨fuel, rfl, hle⟩ := exists_fuel hfuel
  have hopen : skipSpace ('[' :: (cs ++ rest)) = '[' :: (cs ++ rest) := rfl
  rw [List.cons_append, readValue.eq_2, hopen]
  simp only
  split
  · next after hbracket => exact absurd hbracket (h.skipSpace_ne rest after)
  · rw [h rest fuel hle]

/-!
## Objects
-/

theorem ReadsMembers.skipSpace_ne {members : Members} (h : ReadsMembers cs members)
    (rest after : List Char) : skipSpace (cs ++ rest) ≠ '\x7d' :: after := by
  intro hbrace
  have hmembers := h rest (cs.length + 1) (Nat.le_succ _)
  rw [readMembers.eq_2, hbrace] at hmembers
  cases hmembers

def memberText (name : String) (cs : List Char) : List Char :=
  stringText name ++ ':' :: cs

theorem memberText_append (name : String) (cs ds : List Char) :
    memberText name cs ++ ds = memberText name (cs ++ ds) := by
  simp [memberText]

theorem length_memberText (name : String) (cs : List Char) :
    (memberText name cs).length = (stringText name).length + cs.length + 1 := by
  simp [memberText, Nat.add_assoc]

section Members

variable {name : String} (hname : IsPlainText name)

include hname

theorem readMembers_memberText (fuel : Nat) (cs : List Char) :
    readMembers (fuel + 1) (memberText name cs) =
      match readValue fuel cs with
      | (value, none) => (.member (.plain name) value .broken, none)
      | (value, some rest) =>
          match skipSpace rest with
          | '\x7d' :: after => (.member (.plain name) value .closed, some after)
          | ',' :: next =>
              (.member (.plain name) value (readMembers fuel next).1, (readMembers fuel next).2)
          | _ => (.member (.plain name) value .broken, none) := by
  have htext : memberText name cs =
      '"' :: (name.toList.flatMap escapeChar ++ '"' :: (':' :: cs)) := by
    simp [memberText, stringText]
  have hskip : skipSpace (memberText name cs) = memberText name cs := by
    rw [htext]
    rfl
  rw [readMembers.eq_2, hskip, htext]
  simp only [readPieces_written, nameOf_written hname]
  rfl

theorem readsMembers_last (h : Reads cs j) :
    ReadsMembers (memberText name (cs ++ ['\x7d'])) (.member (.plain name) j .closed) := by
  intro rest fuel hfuel
  rw [length_memberText, List.length_append] at hfuel
  obtain ⟨fuel, rfl, hle⟩ := exists_fuel hfuel
  rw [memberText_append, readMembers_memberText hname, List.append_assoc,
    h (['\x7d'] ++ rest) (by intro c hc; cases hc; decide) fuel (by omega)]
  rfl

theorem readsMembers_next {members : Members} (h : Reads cs j)
    (hmembers : ReadsMembers ds members) :
    ReadsMembers (memberText name (cs ++ ',' :: ds)) (.member (.plain name) j members) := by
  intro rest fuel hfuel
  rw [length_memberText, List.length_append, List.length_cons] at hfuel
  obtain ⟨fuel, rfl, hle⟩ := exists_fuel hfuel
  rw [memberText_append, readMembers_memberText hname, List.append_assoc, List.cons_append,
    h (',' :: (ds ++ rest)) (by intro c hc; cases hc; decide) fuel (by omega)]
  show ((Members.member (.plain name) j (readMembers fuel (ds ++ rest)).1), _) = _
  rw [hmembers rest fuel (by omega)]

end Members

theorem reads_object_closed : Reads ['\x7b', '\x7d'] (.object .closed) := by
  intro rest _ fuel hfuel
  obtain ⟨fuel, rfl, -⟩ := exists_fuel hfuel
  rfl

theorem reads_object {members : Members} (h : ReadsMembers cs members) :
    Reads ('\x7b' :: cs) (.object members) := by
  intro rest hrest fuel hfuel
  obtain ⟨fuel, rfl, hle⟩ := exists_fuel hfuel
  have hopen : skipSpace ('\x7b' :: (cs ++ rest)) = '\x7b' :: (cs ++ rest) := rfl
  rw [List.cons_append, readValue.eq_2, hopen]
  simp only
  split
  · next after hbrace => exact absurd hbrace (h.skipSpace_ne rest after)
  · rw [h rest fuel hle]

/-!
## Objects by their members
-/

def membersText : List (String × List Char) → List Char
  | [] => ['\x7d']
  | [(name, cs)] => memberText name (cs ++ ['\x7d'])
  | (name, cs) :: next :: rest => memberText name (cs ++ ',' :: membersText (next :: rest))

def objectText (members : List (String × List Char)) : List Char :=
  '\x7b' :: membersText members

inductive ReadsMember : String × List Char → String × Json → Prop
  | intro {name : String} {cs : List Char} {j : Json} (plain : IsPlainText name)
      (reads : Reads cs j) : ReadsMember (name, cs) (name, j)

theorem readsMembers_membersText {text : String × List Char} {member : String × Json}
    {texts : List (String × List Char)} {members : List (String × Json)}
    (hfirst : ReadsMember text member) (hrest : List.Forall₂ ReadsMember texts members) :
    ReadsMembers (membersText (text :: texts)) (Members.ofList (member :: members)) := by
  induction hrest generalizing text member with
  | nil =>
      obtain ⟨hplain, hreads⟩ := hfirst
      exact readsMembers_last hplain hreads
  | cons hnext _ ih =>
      obtain ⟨hplain, hreads⟩ := hfirst
      exact readsMembers_next hplain hreads (ih hnext)

theorem reads_objectText {texts : List (String × List Char)} {members : List (String × Json)}
    (h : List.Forall₂ ReadsMember texts members) : Reads (objectText texts) (.record members) := by
  cases h with
  | nil => exact reads_object_closed
  | cons hfirst hrest => exact reads_object (readsMembers_membersText hfirst hrest)

end Json
end BankFeed
