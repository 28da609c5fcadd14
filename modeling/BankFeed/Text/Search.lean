/-!
# Texts inside texts
-/

namespace BankFeed
namespace Text

def occursIn (part : List Char) : List Char → Bool
  | [] => part.isEmpty
  | c :: cs => part.isPrefixOf (c :: cs) || occursIn part cs

theorem occursIn_iff {part whole : List Char} :
    occursIn part whole = true ↔ part <:+: whole := by
  induction whole with
  | nil => simp [occursIn]
  | cons c cs ih =>
      simp [occursIn, ih, List.infix_cons_iff]

end Text
end BankFeed
