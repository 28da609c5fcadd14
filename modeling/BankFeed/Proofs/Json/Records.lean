import BankFeed.Json.Record
import BankFeed.Proofs.Json.Codecs

/-!
# Records as they are written

An object that has every field once, in the order of the fields, is read to the row of its values.
So a record comes back from its text with every field as the codec of the field gives it back.
-/

namespace BankFeed

open Json (IsPlainText)

/-!
## Reading an object
-/

namespace Slots

variable {medium : Medium} {f : Field} {fs : List Field}

theorem fill_member (name : String) (value : Json) (rest : Members) (slots : Slots fs) :
    fill medium fs slots (.member (.plain name) value rest) =
      (put medium name value fs slots).bind fun slots => fill medium fs slots rest := rfl

/-- A field that was read is left alone by members of other names. -/
theorem fill_of_read (a : f.type) (slots : Slots fs) {members : List (String × Json)}
    (h : ∀ m ∈ members, f.name ≠ m.1) :
    fill medium (f :: fs) (some a, slots) (Members.ofList members) =
      (fill medium fs slots (Members.ofList members)).map fun row => (a, row) := by
  induction members generalizing slots with
  | nil =>
      show (close fs slots >>= fun row => Except.ok (a, row)) = (close fs slots).map _
      cases close fs slots <;> rfl
  | cons m members ih =>
      have hrest : ∀ m ∈ members, f.name ≠ m.1 := fun n hn => h n (List.mem_cons_of_mem _ hn)
      have hput : put medium m.1 m.2 (f :: fs) (some a, slots) =
          (put medium m.1 m.2 fs slots).map fun slots => (some a, slots) :=
        if_neg (h m List.mem_cons_self)
      rw [Members.ofList, fill_member, fill_member, hput]
      cases hslots : put medium m.1 m.2 fs slots with
      | error e => rfl
      | ok slots => exact ih slots hrest

end Slots

namespace Row

/-- The members are those of the fields, each with a value that is read as the one in the row. -/
inductive Decodes (medium : Medium) : (fs : List Field) → List (String × Json) → Row fs → Prop
  | nil : Decodes medium [] [] ()
  | cons {f : Field} {fs : List Field} {j : Json} {members : List (String × Json)} {a : f.type}
      {row : Row fs} (first : f.codec.decode medium j = .ok a)
      (rest : Decodes medium fs members row) :
      Decodes medium (f :: fs) ((f.name, j) :: members) (a, row)

variable {medium : Medium} {fs : List Field} {members : List (String × Json)} {row : Row fs}

theorem Decodes.map_fst (h : Decodes medium fs members row) :
    members.map Prod.fst = fs.map Field.name := by
  induction h with
  | nil => rfl
  | cons _ _ ih => rw [List.map_cons, List.map_cons, ih]

theorem ofMembers_of_decodes (hnames : (fs.map Field.name).Nodup)
    (h : Decodes medium fs members row) :
    ofMembers medium fs (Members.ofList members) = .ok row := by
  induction h with
  | nil => rfl
  | @cons f fs j members a row hfirst hrest ih =>
      rw [List.map_cons, List.nodup_cons, ← hrest.map_fst] at hnames
      have hother : ∀ m ∈ members, f.name ≠ m.1 := by
        intro m hm heq
        exact hnames.1 (heq ▸ List.mem_map_of_mem hm)
      have hput : Slots.put medium f.name j (f :: fs) (Slots.empty (f :: fs)) =
          .ok (some a, Slots.empty fs) := by
        show (if f.name = f.name then (f.codec.decode medium j).map _ else _) = _
        rw [if_pos rfl, hfirst]
        rfl
      have hread := ih (hrest.map_fst ▸ hnames.2)
      rw [ofMembers] at hread ⊢
      rw [Members.ofList, Slots.fill_member, hput]
      show Slots.fill medium (f :: fs) (some a, Slots.empty fs) (Members.ofList members) = _
      rw [Slots.fill_of_read a _ hother, hread]
      rfl

end Row

/-!
## Rows that are written and read back
-/

@[reducible]
def Changes : List Field → Type
  | [] => Unit
  | f :: fs => (f.type → f.type) × Changes fs

namespace Changes

def apply : (fs : List Field) → Changes fs → Row fs → Row fs
  | [], _, row => row
  | _ :: fs, (g, gs), (a, row) => (g a, apply fs gs row)

inductive Rereads (levels : Nat) : (fs : List Field) → Changes fs → Prop
  | nil : Rereads levels [] ()
  | cons {f : Field} {fs : List Field} {g : f.type → f.type} {gs : Changes fs}
      (first : f.codec.Rereads levels g) (rest : Rereads levels fs gs) :
      Rereads levels (f :: fs) (g, gs)

variable {levels : Nat} {fs : List Field} {gs : Changes fs}

theorem Rereads.decodes (h : Rereads levels fs gs) (row : Row fs) :
    Row.Decodes .text fs (Row.toMembers fs row) (apply fs gs row) := by
  induction h with
  | nil => exact .nil
  | cons first _ ih => exact .cons (first.reread row.1) (ih row.2)

theorem Rereads.fits (h : Rereads levels fs gs)
    (hnames : ∀ name ∈ fs.map Field.name, IsPlainText name) (row : Row fs) :
    (Members.ofList (Row.toMembers fs row)).Fits levels := by
  induction h with
  | nil => trivial
  | cons first _ ih =>
      rw [List.map_cons, List.forall_mem_cons] at hnames
      exact ⟨hnames.1, first.fits row.1, ih hnames.2 row.2⟩

theorem Rereads.toMembers (h : Rereads levels fs gs) (row : Row fs) :
    Row.toMembers fs (apply fs gs row) = Row.toMembers fs row := by
  induction h with
  | nil => rfl
  | cons first _ ih =>
      simp only [apply, Row.toMembers, first.stable, ih]

end Changes

/-- A record is read back with the changes of its fields. -/
theorem Schema.rereads {α : Type} (s : Schema α) {levels : Nat} {gs : Changes s.fields}
    (hplain : ∀ name ∈ s.fields.map Field.name, IsPlainText name)
    (hnodup : (s.fields.map Field.name).Nodup) (hview : ∀ row, s.view (s.build row) = row)
    (h : Changes.Rereads levels s.fields gs) :
    s.codec.Rereads (levels + 1) fun a => s.build (Changes.apply s.fields gs (s.view a)) where
  fits a := h.fits hplain (s.view a)
  reread a := by
    show (Row.ofMembers .text s.fields (Members.ofList _)).map s.build = _
    rw [Row.ofMembers_of_decodes hnodup (h.decodes (s.view a))]
    rfl
  stable a := by
    simp only [codec, hview, h.toMembers]

theorem Schema.read_objectText {α : Type} (s : Schema α) {texts : List (String × List Char)}
    {members : List (String × Json)} {row : Row s.fields}
    (hmembers : List.Forall₂ Json.ReadsMember texts members)
    (hwithin : ∀ m ∈ members, m.2.within 126 = m.2)
    (hnodup : (s.fields.map Field.name).Nodup)
    (hdecodes : Row.Decodes .text s.fields members row) :
    s.codec.read (Json.objectText texts) = .ok (s.build row) := by
  rw [Codec.read_of_document
    ((Json.reads_objectText hmembers).read (Json.within_record hwithin))]
  show (Row.ofMembers .text s.fields (Members.ofList members)).map s.build = _
  rw [Row.ofMembers_of_decodes hnodup hdecodes]
  rfl

end BankFeed
