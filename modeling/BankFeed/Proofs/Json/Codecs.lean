import BankFeed.Clause.Value
import BankFeed.Proofs.Calendar.Written
import BankFeed.Proofs.Decimal.Written
import BankFeed.Proofs.Json.Written

/-!
# Values as they are written

Most codecs give back the value that was written. Two change how it is kept: a decimal may lose
its scale, though not its value, and a number in a clause comes back as a text. One loses a
value: a leap second within a minute comes back as the next second.
-/

namespace BankFeed
namespace Codec

variable {α : Type} {c : Codec α} {levels : Nat} {f : α → α}

/-- What the codec writes has so many levels at most. It is read as what `f` makes of the value,
and this is written in the same way again. -/
structure Rereads (c : Codec α) (levels : Nat) (f : α → α) : Prop where
  fits : ∀ a, (c.encode a).Fits levels
  reread : ∀ a, c.decode .text (c.encode a) = .ok (f a)
  stable : ∀ a, c.encode (f a) = c.encode a

theorem Rereads.mono {levels' : Nat} (h : c.Rereads levels f) (hle : levels ≤ levels') :
    c.Rereads levels' f where
  fits a := Json.Fits.mono _ hle (h.fits a)
  reread := h.reread
  stable := h.stable

theorem read_of_document {cs : List Char} {j : Json} (h : Json.read cs = (j, some [])) :
    c.read cs = c.decode .text j := by
  rw [read, h]
  show (c.decode .text j >>= fun a => Except.ok a) = _
  cases c.decode .text j <;> rfl

theorem Rereads.read_write (h : c.Rereads levels f) (hle : levels ≤ Json.levelLimit) (a : α) :
    c.read (c.write a) = .ok (f a) := by
  rw [write, read_of_document (Json.read_render (Json.Fits.mono _ hle (h.fits a)))]
  exact h.reread a

theorem Rereads.write_eq (h : c.Rereads levels f) (a : α) : c.write (f a) = c.write a := by
  rw [write, write, h.stable]

/-- Every value can be written and read. What is read is the same as far as `same` goes, and is
written as the same text. -/
def Faithful (c : Codec α) (same : α → α → Prop) : Prop :=
  ∀ a, ∃ b, c.read (c.write a) = .ok b ∧ same b a ∧ c.write b = c.write a

theorem Rereads.faithful {same : α → α → Prop} (h : c.Rereads levels f)
    (hle : levels ≤ Json.levelLimit) (hsame : ∀ a, same (f a) a) : c.Faithful same :=
  fun a => ⟨f a, h.read_write hle a, hsame a, h.write_eq a⟩

/-!
## Single values
-/

theorem rereads_text : Codec.text.Rereads 0 id where
  fits _ := trivial
  reread _ := rfl
  stable _ := rfl

theorem rereads_flag : Codec.flag.Rereads 0 id where
  fits _ := trivial
  reread _ := rfl
  stable _ := rfl

theorem rereads_count32 : Codec.count32.Rereads 0 id where
  fits n := by
    have hlt : n.toNat < 4294967296 := n.toNat_lt
    exact Json.fits_integer.mpr (by omega)
  reread n := by
    have hlt : n.toNat < 4294967296 := n.toNat_lt
    simp only [count32]
    rw [if_pos (by omega), Int.toNat_natCast, UInt32.ofNat_toNat, id]
  stable _ := rfl

theorem rereads_amount : Codec.amount.Rereads 0 Decimal.asWritten where
  fits _ := trivial
  reread d := by
    show (Decimal.read (String.ofList d.text).toList).mapError Misfit.decimal = _
    rw [String.toList_ofList, Decimal.read_text]
    rfl
  stable d := by
    simp only [amount, Decimal.text_asWritten]

theorem rereads_date : Codec.date.Rereads 0 id where
  fits _ := trivial
  reread d := by
    show (Date.read (String.ofList d.text).toList).mapError Misfit.calendar = _
    rw [String.toList_ofList, Date.read_text]
    rfl
  stable _ := rfl

theorem rereads_timestamp : Codec.timestamp.Rereads 0 Timestamp.asWritten where
  fits _ := trivial
  reread t := by
    show (Timestamp.read (String.ofList t.text).toList).mapError Misfit.calendar = _
    rw [String.toList_ofList, Timestamp.read_text]
    rfl
  stable t := by
    simp only [timestamp, Timestamp.text_asWritten]

theorem rereads_clauseValue : ClauseValue.codec.Rereads 0 fun v => .text v.asText where
  fits _ := trivial
  reread _ := rfl
  stable _ := rfl

theorem rereads_choice {names : List (String × α)} {nameOf : α → String}
    (h : ∀ a, choose names (nameOf a) = .ok a) : (Codec.choice names nameOf).Rereads 0 id where
  fits _ := trivial
  reread := h
  stable _ := rfl

/-!
## Values that may be absent, and lists
-/

theorem decode_optional_of_ne_null {j : Json} (hj : j ≠ .null) (medium : Medium) :
    c.optional.decode medium j = (c.decode medium j).map some := by
  cases j <;> first | rfl | contradiction

theorem Rereads.optional (h : c.Rereads levels f) (hnull : ∀ a, c.encode a ≠ .null) :
    c.optional.Rereads levels (Option.map f) where
  fits
    | none => trivial
    | some a => h.fits a
  reread
    | none => rfl
    | some a => by
        show c.optional.decode .text (c.encode a) = _
        rw [decode_optional_of_ne_null (hnull a), h.reread]
        rfl
  stable
    | none => rfl
    | some a => h.stable a

theorem rereads_optional_text : Codec.text.optional.Rereads 0 id := by
  rw [← Option.map_id]
  exact rereads_text.optional (by intro s h; cases h)

theorem fits_ofList {js : List Json} (h : ∀ j ∈ js, j.Fits levels) :
    (Items.ofList js).Fits levels := by
  induction js with
  | nil => trivial
  | cons j js ih =>
      exact ⟨h j List.mem_cons_self, ih fun k hk => h k (List.mem_cons_of_mem _ hk)⟩

theorem decodeItems_encode (h : c.Rereads levels f) (as : List α) :
    decodeItems c .text (Items.ofList (as.map c.encode)) = .ok (as.map f) := by
  induction as with
  | nil => rfl
  | cons a as ih =>
      rw [List.map_cons, Items.ofList, decodeItems, h.reread, ih]
      rfl

theorem Rereads.list (h : c.Rereads levels f) : c.list.Rereads (levels + 1) (List.map f) where
  fits as := by
    refine fits_ofList fun j hj => ?_
    obtain ⟨a, -, rfl⟩ := List.mem_map.mp hj
    exact h.fits a
  reread := decodeItems_encode h
  stable as := by
    have hencode : (as.map f).map c.encode = as.map c.encode := by
      rw [List.map_map]
      exact List.map_congr_left fun a _ => h.stable a
    simp only [Codec.list, hencode]

end Codec
end BankFeed
