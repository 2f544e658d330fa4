import Mathlib.Data.List.Forall2
import Mathlib.Data.List.Induction
import Mathlib.Data.Nat.Digits.Defs
import PasswordAudit.Text.DecimalDigit

/-! Numerals: texts of one decimal digit or more, of any script, and the numbers that they denote in
base ten. -/
namespace PasswordAudit.Text

/-- The digits of the text, most significant first, make up the number. -/
def Denotes (text : Text) (value : Nat) : Prop :=
  text ≠ [] ∧ ∃ digits : List Nat,
    List.Forall₂ (fun c d => digitValue? c = some d) text digits ∧
      Nat.ofDigits 10 digits.reverse = value

def digitOf (c : Char) : Nat := (digitValue? c).getD 0

private theorem forall₂_digits_iff (text : Text) (digits : List Nat) :
    List.Forall₂ (fun c d => digitValue? c = some d) text digits ↔
      (∀ c ∈ text, (digitValue? c).isSome = true) ∧ digits = text.map digitOf := by
  induction text generalizing digits with
  | nil => simp
  | cons c rest ih =>
    rw [List.forall₂_cons_left_iff]
    constructor
    · rintro ⟨d, others, first, later, rfl⟩
      obtain ⟨known, rfl⟩ := (ih others).1 later
      simpa [first, digitOf] using known
    · rintro ⟨known, rfl⟩
      obtain ⟨d, first⟩ := Option.isSome_iff_exists.1 (known c (List.mem_cons_self ..))
      have later := (ih (rest.map digitOf)).2
        ⟨fun e member => known e (List.mem_cons_of_mem _ member), rfl⟩
      exact ⟨d, rest.map digitOf, first, later, by simp [digitOf, first]⟩

/-- Reading from the left agrees with the place values counted from the right. -/
theorem decimalValue_eq (text : Text) :
    decimalValue text = Nat.ofDigits 10 (text.map digitOf).reverse := by
  induction text using List.reverseRecOn with
  | nil => rfl
  | append_singleton text c ih =>
    have step : decimalValue (text ++ [c]) = 10 * decimalValue text + digitOf c := by
      simp [decimalValue, digitOf]
    rw [step, ih, List.map_append, List.map_singleton, List.reverse_append,
      List.reverse_singleton, List.singleton_append, Nat.ofDigits_cons]
    exact Nat.add_comm _ _

theorem denotes_iff (text : Text) (value : Nat) :
    Denotes text value ↔ isDecimal text = true ∧ decimalValue text = value := by
  simp only [Denotes, forall₂_digits_iff, isDecimal, Bool.and_eq_true, Bool.not_eq_true',
    List.isEmpty_eq_false_iff, List.all_eq_true, decimalValue_eq]
  constructor
  · rintro ⟨filled, digits, ⟨known, rfl⟩, rfl⟩
    exact ⟨⟨filled, known⟩, rfl⟩
  · rintro ⟨⟨filled, known⟩, rfl⟩
    exact ⟨filled, _, ⟨known, rfl⟩, rfl⟩

theorem denotes_some_iff (text : Text) : (∃ value, Denotes text value) ↔ isDecimal text = true := by
  simp [denotes_iff]

end PasswordAudit.Text
