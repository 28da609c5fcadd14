import BankFeed.Proofs.Text.Lower
import BankFeed.Store.Ledger
import Mathlib.Data.List.Forall2

/-!
# Comparisons regardless of case

Clauses compare texts, and the ledger compares invoice numbers, by their lower case. A change of
case on either side, of some letters of ASCII or of a whole text to lower case, makes no difference
to them. Emptiness is tested on the text itself, which no change of case makes empty.
-/

namespace BankFeed

/-!
## Text operators
-/

theorem TextOperator.apply_of_recased (op : TextOperator) {field field' value value' : String}
    (hfield : Text.Recased field.toList field'.toList)
    (hvalue : Text.Recased value.toList value'.toList) :
    op.apply field' value' = op.apply field value := by
  have hfieldLower := Text.lower_eq_of_recased hfield
  have hvalueLower := Text.lower_eq_of_recased hvalue
  cases op with
  | is => simp only [apply, hfieldLower, hvalueLower]
  | contains => simp only [apply, hfieldLower, hvalueLower]
  | startsWith => simp only [apply, hfieldLower, hvalueLower]
  | isEmpty =>
      have hempty : field'.toList = [] ↔ field.toList = [] := by
        rw [← Text.lower_eq_nil_iff, hfieldLower, Text.lower_eq_nil_iff]
      rw [apply, apply, Bool.eq_iff_iff, List.isEmpty_iff, List.isEmpty_iff]
      exact hempty

/-!
## Invoice numbers
-/

structure Invoice.Recased (invoice invoice' : Invoice) : Prop where
  id : invoice'.id = invoice.id
  tenantId : invoice'.tenantId = invoice.tenantId
  number : Text.Recased invoice.number.toList invoice'.number.toList

theorem Invoice.Recased.hasNumber_eq {invoice invoice' : Invoice} (h : invoice.Recased invoice')
    {number number' : String} (hnumber : Text.Recased number.toList number'.toList) :
    invoice'.hasNumber number' = invoice.hasNumber number := by
  unfold hasNumber
  rw [Text.lower_eq_of_recased h.number, Text.lower_eq_of_recased hnumber]

theorem Ledger.invoice?_of_recased {l l' : Ledger} {number number' : String}
    (h : List.Forall₂ Invoice.Recased l.invoices l'.invoices)
    (hnumber : Text.Recased number.toList number'.toList) (tenantId : String) :
    (l'.invoice? tenantId number').map (·.id) = (l.invoice? tenantId number).map (·.id) := by
  unfold invoice?
  generalize l.invoices = invoices, l'.invoices = invoices' at h
  induction h with
  | nil => rfl
  | cons hinvoice _ ih =>
      rw [List.find?_cons, List.find?_cons, hinvoice.tenantId, hinvoice.hasNumber_eq hnumber]
      split
      · exact congrArg some hinvoice.id
      · exact ih

/-!
## All comparisons of texts
-/

/-- Changes of case, also in what is compared with, change neither what a text operator says nor
which invoice is found. -/
theorem comparisons_ignore_case :
    (∀ (op : TextOperator) (field field' value value' : String),
      Text.Recased field.toList field'.toList → Text.Recased value.toList value'.toList →
      op.apply field' value' = op.apply field value) ∧
    ∀ (now : Timestamp) (l l' : Ledger) (tenantId number number' : String),
      List.Forall₂ Invoice.Recased l.invoices l'.invoices →
      Text.Recased number.toList number'.toList →
      (l'.answer now (.findByNumber tenantId number')).1 =
        (l.answer now (.findByNumber tenantId number)).1 := by
  constructor
  · intro op field field' value value' hfield hvalue
    exact op.apply_of_recased hfield hvalue
  · intro now l l' tenantId number number' hinvoices hnumber
    exact congrArg Except.ok (l.invoice?_of_recased hinvoices hnumber tenantId)

/-!
## A street in Athens

The number of the second invoice ends in a sigma.
-/

namespace StreetNumber

def moment : Timestamp where
  date := { year := 2024, month := 9, day := 2 }
  hour := 10
  minute := 5
  second := 33
  nanosecond := 120000000

def asIssued : List Invoice :=
  [⟨"invoice-1", "acme", "INV-0017"⟩, ⟨"invoice-2", "acme", "A4-ΟΔΟΣ"⟩]

def asTyped : List Invoice :=
  [⟨"invoice-1", "acme", "inv-0017"⟩, ⟨"invoice-2", "acme", "a4-οδος"⟩]

def issued : Ledger :=
  { Ledger.empty .numbered with invoices := asIssued }

def typed : Ledger :=
  { Ledger.empty .numbered with invoices := asTyped }

theorem recased_asTyped : List.Forall₂ Invoice.Recased asIssued asTyped := by
  have hletters : Text.lowerAscii "inv-0017".toList = Text.lowerAscii "INV-0017".toList := by
    decide
  have hlower : Text.Recasing "A4-ΟΔΟΣ".toList (Text.lower "A4-ΟΔΟΣ".toList) := .whole _
  have htyped : Text.lower "A4-ΟΔΟΣ".toList = "a4-οδος".toList := by
    decide +kernel
  rw [htyped] at hlower
  exact .cons ⟨rfl, rfl, .single (.letters hletters)⟩ (.cons ⟨rfl, rfl, .single hlower⟩ .nil)

theorem comparisons_ignore_case_found :
    TextOperator.contains.apply "Corner Coffee Shop" "coffee" = true ∧
    (typed.answer moment (.findByNumber "acme" "a4-ΟΔΟΣ")).1 = .ok (some "invoice-2") := by
  have hfield : Text.lowerAscii "Corner Coffee Shop".toList =
      Text.lowerAscii "corner COFFEE shop".toList := by
    decide
  have hvalue : Text.lowerAscii "coffee".toList = Text.lowerAscii "COFFEE".toList := by
    decide
  have hnumber : Text.lowerAscii "a4-ΟΔΟΣ".toList = Text.lowerAscii "A4-ΟΔΟΣ".toList := by
    decide +kernel
  have hshop : TextOperator.contains.apply "corner COFFEE shop" "COFFEE" = true := by
    decide
  have hinvoice : issued.invoice? "acme" "A4-ΟΔΟΣ" = some ⟨"invoice-2", "acme", "A4-ΟΔΟΣ"⟩ := by
    decide +kernel
  constructor
  · rw [← hshop]
    exact comparisons_ignore_case.1 .contains "corner COFFEE shop" "Corner Coffee Shop" "COFFEE"
      "coffee" (.single (.letters hfield)) (.single (.letters hvalue))
  · have hfound : (issued.answer moment (.findByNumber "acme" "A4-ΟΔΟΣ")).1 =
        .ok (some "invoice-2") := by
      show Except.ok ((issued.invoice? "acme" "A4-ΟΔΟΣ").map (·.id)) = _
      rw [hinvoice]
      rfl
    rw [← hfound]
    exact comparisons_ignore_case.2 moment issued typed "acme" "A4-ΟΔΟΣ" "a4-ΟΔΟΣ"
      recased_asTyped (.single (.letters hnumber))

end StreetNumber
end BankFeed
