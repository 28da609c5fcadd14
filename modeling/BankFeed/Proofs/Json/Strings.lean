import BankFeed.Json.Printer
import BankFeed.Json.Reader
import Mathlib.Tactic.SplitIfs

/-!
# Strings as they are written

Every text is read back from between its quotation marks, whatever characters it has. A character
is written as it is, behind a backslash, or, if it is a control character without a short form, by
its number; so half a surrogate pair never stands in a written string.
-/

namespace BankFeed
namespace Json

variable {c e : Char} {cs rest : List Char}

def pieceOf (c : Char) : Piece :=
  if escapeChar c = [c] then .char c
  else if (escapeChar c).length = 2 then .escape c
  else .unit c.toNat

/-!
## One character
-/

theorem readPieces_escape (hu : e ≠ 'u') (h : escaped? e = some c) :
    readPieces ('\\' :: e :: cs) =
      (readPieces cs).map fun read => (.escape c :: read.1, read.2) := by
  rw [readPieces.eq_4 e cs (by intro _ _ _ _ _ he; exact absurd he hu), h]
  cases readPieces cs <;> rfl

theorem readPieces_char (hquote : c ≠ '"') (hslash : c ≠ '\\') (hcontrol : ¬ c.toNat < 0x20) :
    readPieces (c :: cs) = (readPieces cs).map fun read => (.char c :: read.1, read.2) := by
  rw [readPieces.eq_5 c cs hquote (by intro _ _ _ _ _ he; exact absurd he hslash)
    (by intro _ _ he; exact absurd he hslash), if_neg (by simp [hcontrol, hslash])]
  cases readPieces cs <;> rfl

theorem controlText_eq (h : c.toNat < 0x20) :
    ∃ x y, controlText c = ['\\', 'u', '0', '0', x, y] ∧ unit? '0' '0' x y = some c.toNat := by
  have hdigits : ∀ n < 0x20,
      List.replicate (4 - (Text.hexDigits n).length) '0' ++ Text.hexDigits n =
        ['0', '0', Nat.digitChar (n / 16), Nat.digitChar (n % 16)] ∧
      unit? '0' '0' (Nat.digitChar (n / 16)) (Nat.digitChar (n % 16)) = some n := by
    decide
  obtain ⟨htext, hunit⟩ := hdigits c.toNat h
  exact ⟨_, _, by rw [controlText, List.append_assoc, htext]; rfl, hunit⟩

theorem readPieces_controlText (h : c.toNat < 0x20) :
    readPieces (controlText c ++ cs) =
      (readPieces cs).map fun read => (.unit c.toNat :: read.1, read.2) := by
  obtain ⟨x, y, htext, hunit⟩ := controlText_eq h
  rw [htext]
  show readPieces ('\\' :: 'u' :: '0' :: '0' :: x :: y :: cs) = _
  rw [readPieces.eq_3, hunit]
  cases readPieces cs <;> rfl

theorem escapeChar_cases (c : Char) :
    (∃ e, escapeChar c = ['\\', e] ∧ e ≠ 'u' ∧ escaped? e = some c) ∨
    (escapeChar c = controlText c ∧ c.toNat < 0x20) ∨
    (escapeChar c = [c] ∧ c ≠ '"' ∧ c ≠ '\\' ∧ ¬ c.toNat < 0x20) := by
  unfold escapeChar
  split_ifs with hquote hslash hback hfeed hline hreturn htab hcontrol
  · exact .inl ⟨_, rfl, by decide, by rw [hquote]; rfl⟩
  · exact .inl ⟨_, rfl, by decide, by rw [hslash]; rfl⟩
  · exact .inl ⟨_, rfl, by decide, by rw [hback]; rfl⟩
  · exact .inl ⟨_, rfl, by decide, by rw [hfeed]; rfl⟩
  · exact .inl ⟨_, rfl, by decide, by rw [hline]; rfl⟩
  · exact .inl ⟨_, rfl, by decide, by rw [hreturn]; rfl⟩
  · exact .inl ⟨_, rfl, by decide, by rw [htab]; rfl⟩
  · exact .inr (.inl ⟨rfl, hcontrol⟩)
  · exact .inr (.inr ⟨rfl, hquote, hslash, hcontrol⟩)

theorem pieceOf_of_escape (h : escapeChar c = ['\\', e]) : pieceOf c = .escape c := by
  simp [pieceOf, h]

theorem pieceOf_of_control (h : escapeChar c = controlText c) (hcontrol : c.toNat < 0x20) :
    pieceOf c = .unit c.toNat := by
  obtain ⟨x, y, htext, -⟩ := controlText_eq hcontrol
  simp [pieceOf, h, htext]

theorem pieceOf_of_char (h : escapeChar c = [c]) : pieceOf c = .char c :=
  if_pos h

theorem readPieces_escapeChar (c : Char) (cs : List Char) :
    readPieces (escapeChar c ++ cs) =
      (readPieces cs).map fun read => (pieceOf c :: read.1, read.2) := by
  rcases escapeChar_cases c with ⟨e, htext, hu, he⟩ | ⟨htext, hcontrol⟩ |
    ⟨htext, hquote, hslash, hcontrol⟩
  · rw [pieceOf_of_escape htext, htext]
    exact readPieces_escape hu he
  · rw [pieceOf_of_control htext hcontrol, htext]
    exact readPieces_controlText hcontrol
  · rw [pieceOf_of_char htext, htext]
    exact readPieces_char hquote hslash hcontrol

/-!
## Whole strings
-/

theorem readPieces_written (cs rest : List Char) :
    readPieces (cs.flatMap escapeChar ++ '"' :: rest) = some (cs.map pieceOf, rest) := by
  induction cs with
  | nil => rfl
  | cons c cs ih =>
      rw [List.flatMap_cons, List.append_assoc, readPieces_escapeChar, ih]
      rfl

theorem joinPieces_unit {n : Nat} (h : n < 0x20) (pieces : List Piece) :
    joinPieces (.unit n :: pieces) = (joinPieces pieces).map (Char.ofNat n :: ·) := by
  have hhigh : isHighSurrogate n = false := by
    simp [isHighSurrogate]
    omega
  have hlow : isLowSurrogate n = false := by
    simp [isLowSurrogate]
    omega
  have hstep : joinPieces (.unit n :: pieces) =
      joinPieces pieces >>= fun cs => pure (Char.ofNat n :: cs) := by
    match pieces with
    | [] => simp [joinPieces, hhigh, hlow]
    | .char c :: pieces => rw [joinPieces.eq_5 _ _ (by simp), hhigh, hlow]; rfl
    | .escape c :: pieces => rw [joinPieces.eq_5 _ _ (by simp), hhigh, hlow]; rfl
    | .unit low :: pieces => rw [joinPieces.eq_4, hhigh, hlow]; rfl
  rw [hstep]
  cases joinPieces pieces <;> rfl

theorem joinPieces_pieceOf (c : Char) (pieces : List Piece) :
    joinPieces (pieceOf c :: pieces) = (joinPieces pieces).map (c :: ·) := by
  rcases escapeChar_cases c with ⟨e, htext, -⟩ | ⟨htext, hcontrol⟩ | ⟨htext, -⟩
  · rw [pieceOf_of_escape htext, joinPieces.eq_3]
    cases joinPieces pieces <;> rfl
  · rw [pieceOf_of_control htext hcontrol, joinPieces_unit hcontrol, Char.ofNat_toNat]
  · rw [pieceOf_of_char htext, joinPieces.eq_2]
    cases joinPieces pieces <;> rfl

theorem joinPieces_written (cs : List Char) : joinPieces (cs.map pieceOf) = some cs := by
  induction cs with
  | nil => rfl
  | cons c cs ih =>
      rw [List.map_cons, joinPieces_pieceOf, ih]
      rfl

theorem readText_written (s : String) (rest : List Char) :
    readText (s.toList.flatMap escapeChar ++ '"' :: rest) = (.text s, some rest) := by
  rw [readText, readPieces_written]
  simp only [joinPieces_written, String.ofList_toList]

/-!
## Names
-/

def IsPlainText (s : String) : Prop :=
  ∀ c ∈ s.toList, escapeChar c = [c]

instance (s : String) : Decidable (IsPlainText s) :=
  List.decidableBAll (fun c => escapeChar c = [c]) s.toList

theorem nameOf_written {s : String} (h : IsPlainText s) :
    nameOf (s.toList.map pieceOf) = .plain s := by
  have hplain : (s.toList.map pieceOf).all Piece.isPlain = true := by
    rw [List.all_map, List.all_eq_true]
    intro c hc
    rw [Function.comp_apply, pieceOf_of_char (h c hc)]
    rfl
  rw [nameOf, joinPieces_written]
  simp only [hplain, if_true, String.ofList_toList]

end Json
end BankFeed
