import BankFeed.Text.CaseTable

/-!
# Lower case

The lower case of a text, letter by letter except for the capital sigma: at the end of a
word it becomes the final form. A word ends there when a letter with case stands before
the sigma and none stands after it, marks that never break a word being skipped on both
sides.
-/

namespace BankFeed
namespace Text

def isCased (c : Char) : Bool :=
  inRanges casedRanges c

def isCaseIgnorable (c : Char) : Bool :=
  inRanges caseIgnorableRanges c

def LowerRow.covers (row : LowerRow) (n : Nat) : Bool :=
  row.first ≤ n && n ≤ row.last && (n - row.first) % row.step == 0

/-- The lower case of one character on its own. U+0130 alone has two characters. -/
def lowerChar (c : Char) : List Char :=
  if c.toNat < 0x80 then
    [c.toLower]
  else if c.toNat = 0x130 then
    ['i', Char.ofNat 0x307]
  else
    match lowerRows.find? (·.covers c.toNat) with
    | some row => [Char.ofNat (row.target + (c.toNat - row.first))]
    | none => [c]

def sigma : Char := Char.ofNat 0x3A3
def smallSigma : Char := Char.ofNat 0x3C3
def finalSigma : Char := Char.ofNat 0x3C2

/-- Whether the first character that counts for case is a letter with case. -/
def startsCased (cs : List Char) : Bool :=
  match cs.dropWhile isCaseIgnorable with
  | [] => false
  | c :: _ => isCased c

def lowerSigma (before after : List Char) : Char :=
  if startsCased before && !startsCased after then finalSigma else smallSigma

/-- Lower case of the rest of a text, the characters before it given nearest first. -/
def lowerAfter (before : List Char) : List Char → List Char
  | [] => []
  | c :: rest =>
      (if c = sigma then [lowerSigma before rest] else lowerChar c) ++
        lowerAfter (c :: before) rest

def lower (cs : List Char) : List Char :=
  lowerAfter [] cs

theorem lowerAfter_nil (before : List Char) : lowerAfter before [] = [] := rfl

theorem lowerAfter_cons (before : List Char) (c : Char) (rest : List Char) :
    lowerAfter before (c :: rest) =
      (if c = sigma then [lowerSigma before rest] else lowerChar c) ++
        lowerAfter (c :: before) rest := rfl

theorem lowerChar_ne_nil (c : Char) : lowerChar c ≠ [] := by
  unfold lowerChar
  split
  · simp
  · split
    · simp
    · split <;> simp

theorem lower_eq_nil_iff {cs : List Char} : lower cs = [] ↔ cs = [] := by
  cases cs with
  | nil => simp [lower, lowerAfter]
  | cons c rest =>
      by_cases h : c = sigma <;> simp [lower, lowerAfter, h, lowerChar_ne_nil]

def lowerAscii (cs : List Char) : List Char :=
  cs.map Char.toLower

end Text
end BankFeed
