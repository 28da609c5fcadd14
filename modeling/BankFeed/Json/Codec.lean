import BankFeed.Calendar.Printer
import BankFeed.Json.Misfit
import BankFeed.Json.Printer
import BankFeed.Json.Reader

/-!
# Codecs

A codec writes the values of a type as documents and reads documents back as values. Reading
gives the first misfit in document order. A document that is being read from its text and one
that is already in memory differ in few places: what no type could be is malformed in a text,
while in memory it has a reason of its own.
-/

namespace BankFeed

/-- Whether a document is read from its text or from a tree in memory. -/
inductive Medium where
  | text
  | tree
  deriving DecidableEq, Repr

structure Codec (α : Type) where
  encode : α → Json
  decode : Medium → Json → Except Misfit α

namespace Codec

def text : Codec String where
  encode := .text
  decode _
    | .text s => .ok s
    | j => .error (j.mistaken "a string")

def flag : Codec Bool where
  encode := .flag
  decode _
    | .flag b => .ok b
    | j => .error (j.mistaken "a boolean")

def count32 : Codec UInt32 where
  encode n := .integer n.toNat
  decode _
    | .integer n =>
        if 0 ≤ n ∧ n < 4294967296 then .ok (UInt32.ofNat n.toNat)
        else .error (.wrongValue (.integer n) "u32")
    | j => .error (j.mistaken "u32")

def optional {α : Type} (c : Codec α) : Codec (Option α) where
  encode
    | none => .null
    | some a => c.encode a
  decode medium
    | .null => .ok none
    | j => (c.decode medium j).map some

/-! ## Amounts

An amount may be a string, an integer or a double, which stands for its exact value. In a text
it may also be wrapped, any number of times, in an object whose only member has the name that
marks a number and has it without escapes. -/

def numberLabel : String := "$serde_json::private::Number"

def decodeAmount (medium : Medium) : Json → Except Misfit Decimal
  | .text s => (Decimal.read s.toList).mapError .decimal
  | .integer n => .ok (Decimal.ofInt n)
  | .double x => .ok x.toDecimal
  | .object (.member name value rest) =>
      if medium = .text ∧ name = .plain numberLabel then do
        let d ← decodeAmount medium value
        match rest with
        | .closed => .ok d
        | _ => .error .malformed
      else .error (.wrongType .map "a number or formatted decimal string")
  | j => .error (j.mistaken "a number or formatted decimal string")

def amount : Codec Decimal where
  encode d := .ofChars d.text
  decode := decodeAmount

def date : Codec Date where
  encode d := .ofChars d.text
  decode _
    | .text s => (Date.read s.toList).mapError .calendar
    | j => .error (j.mistaken "a formatted date string")

def timestamp : Codec Timestamp where
  encode t := .ofChars t.text
  decode _
    | .text s => (Timestamp.read s.toList).mapError .calendar
    | j => .error (j.mistaken "a formatted date and time string")

/-! ## Lists -/

def decodeItems {α : Type} (c : Codec α) (medium : Medium) : Items → Except Misfit (List α)
  | .closed => .ok []
  | .broken => .error .malformed
  | .item first rest => do
      let a ← c.decode medium first
      let as ← decodeItems c medium rest
      return a :: as

def list {α : Type} (c : Codec α) : Codec (List α) where
  encode as := .list (as.map c.encode)
  decode medium
    | .array items => decodeItems c medium items
    | j => .error (j.mistaken "a sequence")

/-! ## Choices

A choice is written by its name. It may also be read from an object whose only member has
that name and the value null. -/

def choose {α : Type} (names : List (String × α)) (name : String) : Except Misfit α :=
  match names.find? (fun entry => entry.1 = name) with
  | some entry => .ok entry.2
  | none => .error (.unknownVariant name (names.map Prod.fst))

def expectNothing : Json → Except Misfit Unit
  | .null => .ok ()
  | j => .error (j.mistaken "unit")

def decodeChoiceText {α : Type} (names : List (String × α)) : Members → Except Misfit α
  | .member name value rest =>
      match name.text? with
      | none => .error .malformed
      | some name => do
          let a ← choose names name
          expectNothing value
          match rest with
          | .closed => .ok a
          | _ => .error .malformed
  | _ => .error .malformed

def decodeChoiceTree {α : Type} (names : List (String × α)) : Members → Except Misfit α
  | .member name value .closed => do
      let a ← choose names (name.text?.getD "")
      expectNothing value
      return a
  | _ => .error (.wrongValue .map "map with a single key")

def choice {α : Type} (names : List (String × α)) (nameOf : α → String) : Codec α where
  encode a := .text (nameOf a)
  decode medium
    | .text s => choose names s
    | .object members =>
        match medium with
        | .text => decodeChoiceText names members
        | .tree => decodeChoiceTree names members
    | j =>
        match medium with
        | .text => .error .malformed
        | .tree => .error (j.mistaken "string or map")

end Codec

/-- Reads a value from the text of a document, which must not go on after it. -/
def Codec.read {α : Type} (c : Codec α) (cs : List Char) : Except Misfit α := do
  let (document, rest) := Json.read cs
  let a ← c.decode .text document
  match rest with
  | some after => if (Json.skipSpace after).isEmpty then .ok a else .error .malformed
  | none => .error .malformed

def Codec.ofTree {α : Type} (c : Codec α) (document : Json) : Except Misfit α :=
  c.decode .tree document.settled

def Codec.write {α : Type} (c : Codec α) (a : α) : List Char :=
  (c.encode a).render

end BankFeed
