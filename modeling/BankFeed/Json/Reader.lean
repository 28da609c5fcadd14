import BankFeed.Json.Basic

/-!
# Reading JSON

A strict reader: no comments, no trailing commas, no leading zeros, control characters in
strings only by escapes. Integers that fit 64 bits, signed or unsigned, are integers; every
other number is the nearest double, and the integer -0 is the double with that sign. A number
beyond the largest double, a string with half a surrogate pair, and an array or object that
is nested too deep are well formed, but unreadable.

Every reader gives the tree and what is left of the text; nothing is left where the text
broke.
-/

namespace BankFeed
namespace Json

def isSpace (c : Char) : Bool :=
  c = ' ' || c = '\t' || c = '\n' || c = '\r'

def skipSpace (cs : List Char) : List Char :=
  cs.dropWhile isSpace

/-! ## Strings -/

/-- A part of a string: a character as it is, one behind a backslash, or a 16-bit unit given
by number. -/
inductive Piece where
  | char (c : Char)
  | escape (c : Char)
  | unit (n : Nat)

def Piece.isPlain : Piece → Bool
  | .char _ => true
  | _ => false

def hexValue? (c : Char) : Option Nat :=
  if c.isDigit then some (c.toNat - '0'.toNat)
  else if 'a' ≤ c ∧ c ≤ 'f' then some (c.toNat - 'a'.toNat + 10)
  else if 'A' ≤ c ∧ c ≤ 'F' then some (c.toNat - 'A'.toNat + 10)
  else none

def unit? (a b c d : Char) : Option Nat := do
  let a ← hexValue? a
  let b ← hexValue? b
  let c ← hexValue? c
  let d ← hexValue? d
  return ((a * 16 + b) * 16 + c) * 16 + d

def escaped? (c : Char) : Option Char :=
  if c = '"' then some '"'
  else if c = '\\' then some '\\'
  else if c = '/' then some '/'
  else if c = 'b' then some '\x08'
  else if c = 'f' then some '\x0c'
  else if c = 'n' then some '\n'
  else if c = 'r' then some '\r'
  else if c = 't' then some '\t'
  else none

def readPieces : List Char → Option (List Piece × List Char)
  | [] => none
  | '"' :: rest => some ([], rest)
  | '\\' :: 'u' :: a :: b :: c :: d :: rest => do
      let n ← unit? a b c d
      let (pieces, after) ← readPieces rest
      return (.unit n :: pieces, after)
  | '\\' :: c :: rest => do
      let e ← escaped? c
      let (pieces, after) ← readPieces rest
      return (.escape e :: pieces, after)
  | c :: rest =>
      if c.toNat < 0x20 ∨ c = '\\' then none
      else do
        let (pieces, after) ← readPieces rest
        return (.char c :: pieces, after)

def isHighSurrogate (n : Nat) : Bool :=
  0xD800 ≤ n && n < 0xDC00

def isLowSurrogate (n : Nat) : Bool :=
  0xDC00 ≤ n && n < 0xE000

/-- The text of the parts: a character beyond U+FFFF is a pair of surrogate units. -/
def joinPieces : List Piece → Option (List Char)
  | [] => some []
  | .char c :: rest => do
      let cs ← joinPieces rest
      return c :: cs
  | .escape c :: rest => do
      let cs ← joinPieces rest
      return c :: cs
  | .unit high :: .unit low :: rest =>
      if isHighSurrogate high then
        if isLowSurrogate low then do
          let cs ← joinPieces rest
          return Char.ofNat (0x10000 + (high - 0xD800) * 0x400 + (low - 0xDC00)) :: cs
        else none
      else if isLowSurrogate high then none
      else do
        let cs ← joinPieces (.unit low :: rest)
        return Char.ofNat high :: cs
  | .unit n :: rest =>
      if isHighSurrogate n || isLowSurrogate n then none
      else do
        let cs ← joinPieces rest
        return Char.ofNat n :: cs

def readText (cs : List Char) : Json × Option (List Char) :=
  match readPieces cs with
  | none => (.broken, none)
  | some (pieces, rest) =>
      match joinPieces pieces with
      | some chars => (.text (String.ofList chars), some rest)
      | none => (.unreadable, some rest)

def nameOf (pieces : List Piece) : MemberName :=
  match joinPieces pieces with
  | none => .unreadable
  | some cs =>
      if pieces.all Piece.isPlain then .plain (String.ofList cs) else .escaped (String.ofList cs)

/-! ## Numbers -/

structure NumberText where
  whole : List Char
  places : Option (List Char)
  exponent : Option Int
  deriving DecidableEq, Repr

def takeDigits (cs : List Char) : List Char × List Char :=
  (cs.takeWhile Char.isDigit, cs.dropWhile Char.isDigit)

def scanPlaces : List Char → Option (Option (List Char) × List Char)
  | '.' :: cs =>
      let (places, rest) := takeDigits cs
      if places.isEmpty then none else some (some places, rest)
  | cs => some (none, cs)

def scanExponentDigits (negative : Bool) (cs : List Char) : Option (Option Int × List Char) :=
  let (digits, rest) := takeDigits cs
  if digits.isEmpty then none
  else
    let n : Int := Nat.ofDigitChars 10 digits 0
    some (some (if negative then -n else n), rest)

def scanExponent : List Char → Option (Option Int × List Char)
  | [] => some (none, [])
  | c :: cs =>
      if c = 'e' ∨ c = 'E' then
        match cs with
        | '-' :: cs => scanExponentDigits true cs
        | '+' :: cs => scanExponentDigits false cs
        | cs => scanExponentDigits false cs
      else some (none, c :: cs)

def scanNumber (cs : List Char) : Option (NumberText × List Char) := do
  let (whole, cs) := takeDigits cs
  if whole.isEmpty ∨ (whole.head? = some '0' ∧ whole.length ≠ 1) then none
  else
    let (places, cs) ← scanPlaces cs
    let (exponent, cs) ← scanExponent cs
    return (⟨whole, places, exponent⟩, cs)

namespace NumberText

/-- The digits from the first to the last that is not a zero after the point, and the power of
ten of the last one. -/
def significant (n : NumberText) : List Char × Int :=
  let places := ((n.places.getD []).reverse.dropWhile (· = '0')).reverse
  ((n.whole ++ places).dropWhile (· = '0'), n.exponent.getD 0 - places.length)

/-- The most digits that are taken as they are. No number halfway between two doubles has
more, trailing zeros left out. -/
def digitLimit : Nat := 768

/-- Of a longer row of digits all beyond the limit count as a single one, be they zeros or
not. -/
def condense (digits : List Char) (power : Int) : List Char × Int :=
  if digits.length ≤ digitLimit then (digits, power)
  else (digits.take digitLimit ++ ['1'], power + (digits.length - digitLimit - 1 : Nat))

theorem condense_of_length_le {digits : List Char} (h : digits.length ≤ digitLimit)
    (power : Int) : condense digits power = (digits, power) := by
  simp [condense, h]

def toDouble (negative : Bool) (n : NumberText) : Json :=
  let (digits, power) := n.significant
  let (digits, power) := condense digits power
  match Binary64.ofScientific? negative (Nat.ofDigitChars 10 digits 0) power with
  | some x => .double x
  | none => .unreadable

def toJson (negative : Bool) (n : NumberText) : Json :=
  if n.places = none ∧ n.exponent = none then
    let value := Nat.ofDigitChars 10 n.whole 0
    if negative then
      if value = 0 ∨ 9223372036854775808 < value then n.toDouble true
      else .integer (-(value : Int))
    else if 18446744073709551615 < value then n.toDouble false
    else .integer value
  else n.toDouble negative

end NumberText

def readNumber (negative : Bool) (cs : List Char) : Json × Option (List Char) :=
  match scanNumber cs with
  | some (n, rest) => (n.toJson negative, some rest)
  | none => (.broken, none)

/-! ## Values -/

def readWord (word : List Char) (value : Json) (cs : List Char) : Json × Option (List Char) :=
  if word.isPrefixOf cs then (value, some (cs.drop word.length)) else (.broken, none)

mutual

/-- The value at the start of the text. The first argument bounds the recursion. -/
def readValue : Nat → List Char → Json × Option (List Char)
  | 0, _ => (.broken, none)
  | fuel + 1, cs =>
      match skipSpace cs with
      | [] => (.broken, none)
      | '"' :: rest => readText rest
      | '[' :: rest =>
          match skipSpace rest with
          | ']' :: after => (.array .closed, some after)
          | _ =>
              let (items, after) := readItems fuel rest
              (.array items, after)
      | '{' :: rest =>
          match skipSpace rest with
          | '}' :: after => (.object .closed, some after)
          | _ =>
              let (members, after) := readMembers fuel rest
              (.object members, after)
      | '-' :: rest => readNumber true rest
      | 'n' :: rest => readWord ['u', 'l', 'l'] .null rest
      | 't' :: rest => readWord ['r', 'u', 'e'] (.flag true) rest
      | 'f' :: rest => readWord ['a', 'l', 's', 'e'] (.flag false) rest
      | rest => readNumber false rest

def readItems : Nat → List Char → Items × Option (List Char)
  | 0, _ => (.broken, none)
  | fuel + 1, cs =>
      match readValue fuel cs with
      | (value, none) => (.item value .broken, none)
      | (value, some rest) =>
          match skipSpace rest with
          | ']' :: after => (.item value .closed, some after)
          | ',' :: next =>
              let (items, after) := readItems fuel next
              (.item value items, after)
          | _ => (.item value .broken, none)

def readMembers : Nat → List Char → Members × Option (List Char)
  | 0, _ => (.broken, none)
  | fuel + 1, cs =>
      match skipSpace cs with
      | '"' :: rest =>
          match readPieces rest with
          | none => (.broken, none)
          | some (pieces, rest) =>
              let name := nameOf pieces
              match skipSpace rest with
              | ':' :: rest =>
                  match readValue fuel rest with
                  | (value, none) => (.member name value .broken, none)
                  | (value, some rest) =>
                      match skipSpace rest with
                      | '}' :: after => (.member name value .closed, some after)
                      | ',' :: next =>
                          let (members, after) := readMembers fuel next
                          (.member name value members, after)
                      | _ => (.member name value .broken, none)
              | _ => (.member name .broken .broken, none)
      | _ => (.broken, none)

end

def levelLimit : Nat := 127

def read (cs : List Char) : Json × Option (List Char) :=
  let (document, rest) := readValue (2 * cs.length + 2) cs
  (document.within levelLimit, rest)

end Json
end BankFeed
