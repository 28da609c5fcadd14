import BankFeed.Json.Codec
import BankFeed.Json.Printer
import BankFeed.Proofs.Json.Reading

/-!
# Documents as they are written

A document of nulls, flags, texts and numbers without a sign is read back from its text, if it is
not nested deeper than the reader goes and no name in it needs an escape.
-/

namespace BankFeed

open Json (IsPlainText)

mutual

/-- Whether nothing of the document is lost when it is written, within so many levels. -/
def Json.Fits : Json → Nat → Prop
  | .null, _ => True
  | .flag _, _ => True
  | .integer n, _ => 0 ≤ n ∧ n ≤ 18446744073709551615
  | .text _, _ => True
  | .array items, levels + 1 => items.Fits levels
  | .object members, levels + 1 => members.Fits levels
  | _, _ => False

def Items.Fits : Items → Nat → Prop
  | .closed, _ => True
  | .item first rest, levels => first.Fits levels ∧ rest.Fits levels
  | .broken, _ => False

def Members.Fits : Members → Nat → Prop
  | .closed, _ => True
  | .member (.plain name) value rest, levels =>
      IsPlainText name ∧ value.Fits levels ∧ rest.Fits levels
  | _, _ => False

end

theorem Json.fits_integer {n : Int} {levels : Nat} :
    (Json.integer n).Fits levels ↔ 0 ≤ n ∧ n ≤ 18446744073709551615 := by
  simp only [Json.Fits]

mutual

theorem Json.Fits.mono (j : Json) {m n : Nat} (hle : m ≤ n) (h : j.Fits m) : j.Fits n := by
  cases j with
  | array items =>
      cases m with
      | zero => cases h
      | succ m =>
          obtain ⟨n, rfl⟩ : ∃ k, n = k + 1 := ⟨n - 1, by omega⟩
          exact Items.Fits.mono items (Nat.le_of_succ_le_succ hle) h
  | object members =>
      cases m with
      | zero => cases h
      | succ m =>
          obtain ⟨n, rfl⟩ : ∃ k, n = k + 1 := ⟨n - 1, by omega⟩
          exact Members.Fits.mono members (Nat.le_of_succ_le_succ hle) h
  | integer _ => exact h
  | _ => trivial
termination_by structural j

theorem Items.Fits.mono (items : Items) {m n : Nat} (hle : m ≤ n) (h : items.Fits m) :
    items.Fits n := by
  match items with
  | .closed => trivial
  | .item first rest => exact ⟨Json.Fits.mono first hle h.1, Items.Fits.mono rest hle h.2⟩
termination_by structural items

theorem Members.Fits.mono (members : Members) {m n : Nat} (hle : m ≤ n) (h : members.Fits m) :
    members.Fits n := by
  match members with
  | .closed => trivial
  | .member (.plain _) value rest =>
      exact ⟨h.1, Json.Fits.mono value hle h.2.1, Members.Fits.mono rest hle h.2.2⟩
termination_by structural members

end

mutual

theorem Json.Fits.within (j : Json) {levels : Nat} (h : j.Fits levels) : j.within levels = j := by
  cases j with
  | array items =>
      cases levels with
      | zero => cases h
      | succ levels => rw [Json.within, Items.Fits.within items h]
  | object members =>
      cases levels with
      | zero => cases h
      | succ levels => rw [Json.within, Members.Fits.within members h]
  | _ => simp only [Json.within]
termination_by structural j

theorem Items.Fits.within (items : Items) {levels : Nat} (h : items.Fits levels) :
    items.within levels = items := by
  match items with
  | .closed => rw [Items.within]; simp
  | .item first rest => rw [Items.within, Json.Fits.within first h.1, Items.Fits.within rest h.2]
termination_by structural items

theorem Members.Fits.within (members : Members) {levels : Nat} (h : members.Fits levels) :
    members.within levels = members := by
  match members with
  | .closed => rw [Members.within]; simp
  | .member (.plain _) value rest =>
      rw [Members.within, Json.Fits.within value h.2.1, Members.Fits.within rest h.2.2]
termination_by structural members

end

theorem Members.fits_ofList {members : List (String × Json)} {levels : Nat} :
    (Members.ofList members).Fits levels ↔
      ∀ m ∈ members, IsPlainText m.1 ∧ m.2.Fits levels := by
  induction members with
  | nil => simp [Members.ofList, Members.Fits]
  | cons m members ih => rw [List.forall_mem_cons, ← ih, Members.ofList, Members.Fits, and_assoc]

namespace Json

mutual

theorem reads_render (j : Json) {levels : Nat} (h : j.Fits levels) : Reads (render j) j := by
  cases j with
  | null => exact reads_null
  | flag b => exact reads_flag b
  | integer n => exact reads_integer h.1 h.2
  | text s => exact reads_text s
  | array items =>
      cases levels with
      | zero => cases h
      | succ levels =>
          match items with
          | .closed => exact reads_array_closed
          | .item first rest => exact reads_array (readsItems_render first rest h.1 h.2)
  | object members =>
      cases levels with
      | zero => cases h
      | succ levels =>
          match members with
          | .closed => exact reads_object_closed
          | .member (.plain name) value rest =>
              exact reads_object (readsMembers_render name value rest h.1 h.2.1 h.2.2)
  | _ => cases h

theorem readsItems_render (first : Json) (rest : Items) {levels : Nat} (hfirst : first.Fits levels)
    (hrest : rest.Fits levels) :
    ReadsItems (render first ++ renderItems rest) (.item first rest) := by
  match rest with
  | .closed => exact readsItems_last (reads_render first hfirst)
  | .item second rest =>
      exact readsItems_next (reads_render first hfirst)
        (readsItems_render second rest hrest.1 hrest.2)

theorem readsMembers_render (name : String) (value : Json) (rest : Members) {levels : Nat}
    (hname : IsPlainText name) (hvalue : value.Fits levels) (hrest : rest.Fits levels) :
    ReadsMembers (memberText name (render value ++ renderMembers rest))
      (.member (.plain name) value rest) := by
  match rest with
  | .closed => exact readsMembers_last hname (reads_render value hvalue)
  | .member (.plain next) second rest =>
      exact readsMembers_next hname (reads_render value hvalue)
        (readsMembers_render next second rest hrest.1 hrest.2.1 hrest.2.2)

end

/-- A document is read back from its text. -/
theorem read_render {j : Json} (h : j.Fits levelLimit) : read (render j) = (j, some []) :=
  (reads_render j h).read (Fits.within j h)

theorem render_record (members : List (String × Json)) :
    render (.record members) = objectText (members.map fun m => (m.1, render m.2)) := by
  have hrest : ∀ (m : String × Json) (ms : List (String × Json)),
      memberText m.1 (render m.2 ++ renderMembers (Members.ofList ms)) =
        membersText ((m :: ms).map fun m => (m.1, render m.2)) := by
    intro m ms
    induction ms generalizing m with
    | nil => rfl
    | cons next ms ih =>
        have hnext := ih next
        rw [List.map_cons] at hnext
        rw [List.map_cons, List.map_cons, membersText, ← hnext]
        rfl
  cases members with
  | nil => rfl
  | cons m ms =>
      rw [objectText, ← hrest m ms]
      rfl

/-!
## Documents with any numbers
-/

theorem IsNumber.within {j : Json} (h : j.IsNumber) (levels : Nat) : j.within levels = j := by
  cases j with
  | integer => simp only [Json.within]
  | double => simp only [Json.within]
  | _ => cases h

theorem within_record {levels : Nat} {members : List (String × Json)}
    (h : ∀ m ∈ members, m.2.within levels = m.2) :
    (record members).within (levels + 1) = record members := by
  have hmembers : (Members.ofList members).within levels = Members.ofList members := by
    induction members with
    | nil => simp [Members.ofList, Members.within]
    | cons m members ih =>
        rw [List.forall_mem_cons] at h
        rw [Members.ofList, Members.within, h.1, ih h.2]
  rw [record, Json.within, hmembers]

end Json
end BankFeed
