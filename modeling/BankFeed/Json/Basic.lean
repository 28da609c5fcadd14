import BankFeed.Binary.Double

/-!
# JSON documents

A document is a tree. Members of an object keep their order and may repeat, and integers are
kept apart from doubles. A text that stops being JSON at some place still has a tree, which
ends there with `broken`; whoever walks it in document order meets the first problem first.
Strings, numbers and deep nests that are well formed but have no value are `unreadable`: they
can be passed over, but not used.
-/

namespace BankFeed

/-- The name of a member. Whether it was written with escapes is kept; a name with half a
surrogate pair has no value. -/
inductive MemberName where
  | plain (text : String)
  | escaped (text : String)
  | unreadable
  deriving DecidableEq, Repr

def MemberName.text? : MemberName → Option String
  | .plain s => some s
  | .escaped s => some s
  | .unreadable => none

mutual

inductive Json where
  | null
  | flag (value : Bool)
  | integer (value : Int)
  | double (value : Binary64)
  | text (value : String)
  | array (items : Items)
  | object (members : Members)
  | unreadable
  | broken

inductive Items where
  | closed
  | broken
  | item (first : Json) (rest : Items)

inductive Members where
  | closed
  | broken
  | member (name : MemberName) (value : Json) (rest : Members)

end

mutual

def Json.isWhole : Json → Bool
  | .array items => items.isWhole
  | .object members => members.isWhole
  | .broken => false
  | _ => true

def Items.isWhole : Items → Bool
  | .closed => true
  | .broken => false
  | .item first rest => first.isWhole && rest.isWhole

def Members.isWhole : Members → Bool
  | .closed => true
  | .broken => false
  | .member _ value rest => value.isWhole && rest.isWhole

end

def Members.hasName (name : MemberName) : Members → Bool
  | .member found _ rest => found.text? == name.text? || rest.hasName name
  | _ => false

mutual

/-- The document as it is kept in memory, where a name stands once: of members with the same
name the last one counts, at every depth. -/
def Json.settled : Json → Json
  | .array items => .array items.settled
  | .object members => .object members.settled
  | other => other

def Items.settled : Items → Items
  | .item first rest => .item first.settled rest.settled
  | other => other

def Members.settled : Members → Members
  | .member name value rest =>
      if rest.hasName name then rest.settled else .member name value.settled rest.settled
  | other => other

end

mutual

/-- The document with at most so many levels of arrays and objects; what lies deeper can be
passed over at best. -/
def Json.within : Json → Nat → Json
  | .array items, 0 => if items.isWhole then .unreadable else .broken
  | .array items, levels + 1 => .array (items.within levels)
  | .object members, 0 => if members.isWhole then .unreadable else .broken
  | .object members, levels + 1 => .object (members.within levels)
  | other, _ => other

def Items.within : Items → Nat → Items
  | .item first rest, levels => .item (first.within levels) (rest.within levels)
  | other, _ => other

def Members.within : Members → Nat → Members
  | .member name value rest, levels =>
      .member name (value.within levels) (rest.within levels)
  | other, _ => other

end

mutual

theorem Json.isWhole_within (j : Json) (levels : Nat) :
    (j.within levels).isWhole = j.isWhole := by
  match j with
  | .array items =>
      cases levels with
      | zero => cases h : items.isWhole <;> simp [Json.within, Json.isWhole, h]
      | succ levels => simp [Json.within, Json.isWhole, Items.isWhole_within items levels]
  | .object members =>
      cases levels with
      | zero => cases h : members.isWhole <;> simp [Json.within, Json.isWhole, h]
      | succ levels => simp [Json.within, Json.isWhole, Members.isWhole_within members levels]
  | .null => simp [Json.within]
  | .flag _ => simp [Json.within]
  | .integer _ => simp [Json.within]
  | .double _ => simp [Json.within]
  | .text _ => simp [Json.within]
  | .unreadable => simp [Json.within]
  | .broken => simp [Json.within]

theorem Items.isWhole_within (items : Items) (levels : Nat) :
    (items.within levels).isWhole = items.isWhole := by
  match items with
  | .closed => simp [Items.within]
  | .broken => simp [Items.within]
  | .item first rest =>
      simp [Items.within, Items.isWhole, Json.isWhole_within first levels,
        Items.isWhole_within rest levels]

theorem Members.isWhole_within (members : Members) (levels : Nat) :
    (members.within levels).isWhole = members.isWhole := by
  match members with
  | .closed => simp [Members.within]
  | .broken => simp [Members.within]
  | .member _ value rest =>
      simp [Members.within, Members.isWhole, Json.isWhole_within value levels,
        Members.isWhole_within rest levels]

end

namespace Items

def ofList : List Json → Items
  | [] => .closed
  | j :: js => .item j (ofList js)

def length : Items → Nat
  | .closed => 0
  | .broken => 0
  | .item _ rest => rest.length + 1

end Items

namespace Members

def ofList : List (String × Json) → Members
  | [] => .closed
  | (name, value) :: rest => .member (.plain name) value (ofList rest)

def find? (name : String) : Members → Option Json
  | .member found value rest =>
      match rest.find? name with
      | some later => some later
      | none => if found.text? = some name then some value else none
  | _ => none

end Members

namespace Json

def list (items : List Json) : Json :=
  .array (Items.ofList items)

def record (members : List (String × Json)) : Json :=
  .object (Members.ofList members)

def ofChars (cs : List Char) : Json :=
  .text (String.ofList cs)

def member (name : String) : Json → Json
  | .object members => (members.find? name).getD .null
  | _ => .null

end Json
end BankFeed
