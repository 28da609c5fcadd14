import BankFeed.Json.Codec

/-!
# Records

A record type is described by its fields in order: their names, their codecs and what a
missing field means. From the description come the object form, in which the members may
stand in any order and unknown ones are passed over, and the array form, in which the values
stand in the order of the fields.
-/

namespace BankFeed

/-- What it means that a field is missing: a fault, an absent value in the object form only,
or a standard value in both forms. -/
inductive Missing (α : Type) where
  | fault
  | absent (value : α)
  | standard (value : α)

structure Field where
  name : String
  type : Type
  codec : Codec type
  missing : Missing type

namespace Field

def required {α : Type} (name : String) (codec : Codec α) : Field :=
  ⟨name, α, codec, .fault⟩

def optional {α : Type} (name : String) (codec : Codec α) : Field :=
  ⟨name, Option α, codec.optional, .absent none⟩

def withStandard {α : Type} (name : String) (codec : Codec α) (value : α) : Field :=
  ⟨name, α, codec, .standard value⟩

end Field

@[reducible]
def Row : List Field → Type
  | [] => Unit
  | f :: fs => f.type × Row fs

@[reducible]
def Slots : List Field → Type
  | [] => Unit
  | f :: fs => Option f.type × Slots fs

namespace Slots

def empty : (fs : List Field) → Slots fs
  | [] => ()
  | _ :: fs => (none, empty fs)

def holds (name : String) : (fs : List Field) → Slots fs → Bool
  | [], _ => false
  | f :: fs, (slot, rest) => if f.name = name then slot.isSome else holds name fs rest

/-- Reads the value of the member with this name. Unknown members only have to be whole. -/
def put (medium : Medium) (name : String) (value : Json) :
    (fs : List Field) → Slots fs → Except Misfit (Slots fs)
  | [], _ => if value.isWhole then .ok () else .error .malformed
  | f :: fs, (slot, rest) =>
      if f.name = name then
        match slot with
        | some _ => .error (.duplicateField name)
        | none => (f.codec.decode medium value).map fun a => (some a, rest)
      else (put medium name value fs rest).map fun rest => (slot, rest)

def close : (fs : List Field) → Slots fs → Except Misfit (Row fs)
  | [], _ => .ok ()
  | f :: fs, (slot, rest) => do
      let a ←
        match slot, f.missing with
        | some a, _ => .ok a
        | none, .absent a => .ok a
        | none, .standard a => .ok a
        | none, .fault => .error (.missingField f.name)
      let row ← close fs rest
      return (a, row)

def fill (medium : Medium) (fs : List Field) (slots : Slots fs) :
    Members → Except Misfit (Row fs)
  | .member name value rest =>
      match name.text? with
      | none => .error .malformed
      | some name => do
          let slots ← put medium name value fs slots
          fill medium fs slots rest
  | .closed => close fs slots
  | _ => .error .malformed

end Slots

namespace Row

def ofMembers (medium : Medium) (fs : List Field) (members : Members) :
    Except Misfit (Row fs) :=
  Slots.fill medium fs (Slots.empty fs) members

/-- Reads the row from the items of an array. `total` is the length of the whole array and
`index` the number of fields before these. -/
def ofItems (medium : Medium) (wanted : String) (total : Nat) :
    (fs : List Field) → (index : Nat) → Items → Except Misfit (Row fs)
  | [], _, .closed => .ok ()
  | [], _, _ =>
      match medium with
      | .text => .error .malformed
      | .tree => .error (.wrongLength total "fewer elements in array")
  | f :: fs, index, .item first rest => do
      let a ← f.codec.decode medium first
      let row ← ofItems medium wanted total fs (index + 1) rest
      return (a, row)
  | f :: fs, index, .closed => do
      let a ←
        match f.missing with
        | .standard a => .ok a
        | _ => .error (.wrongLength index wanted)
      let row ← ofItems medium wanted total fs (index + 1) .closed
      return (a, row)
  | _ :: _, _, .broken => .error .malformed

def toMembers : (fs : List Field) → Row fs → List (String × Json)
  | [], _ => []
  | f :: fs, (a, row) => (f.name, f.codec.encode a) :: toMembers fs row

end Row

structure Schema (α : Type) where
  title : String
  fields : List Field
  build : Row fields → α
  view : α → Row fields

namespace Schema

def structName {α : Type} (s : Schema α) : String :=
  "struct " ++ s.title

def describeLength {α : Type} (s : Schema α) : String :=
  s.structName ++ " with " ++ String.ofList (Nat.toDigits 10 s.fields.length) ++
    (if s.fields.length = 1 then " element" else " elements")

def codec {α : Type} (s : Schema α) : Codec α where
  encode a := .record (Row.toMembers s.fields (s.view a))
  decode medium
    | .object members => (Row.ofMembers medium s.fields members).map s.build
    | .array items =>
        (Row.ofItems medium s.describeLength items.length s.fields 0 items).map s.build
    | j => .error (j.mistaken s.structName)

end Schema
end BankFeed
