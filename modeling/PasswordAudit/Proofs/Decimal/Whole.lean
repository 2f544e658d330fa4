import PasswordAudit.Decimal.Whole
import PasswordAudit.Proofs.Text.Numeral

/-! Whole numbers as they are written. Only the ten plain digits are used, the numeral denotes the
number, and no numeral of any script that denotes it is shorter. -/
namespace PasswordAudit

namespace Text

theorem toNat_of_isDigit {c : Char} (digit : c.isDigit = true) : 48 ≤ c.toNat ∧ c.toNat ≤ 57 := by
  simp only [Char.isDigit, Bool.and_eq_true, decide_eq_true_eq, ge_iff_le, UInt32.le_iff_toNat_le]
    at digit
  exact digit

theorem digitValue?_of_isDigit {c : Char} (digit : c.isDigit = true) :
    digitValue? c = some (c.toNat - 48) := by
  obtain ⟨lower, upper⟩ := toNat_of_isDigit digit
  have table : digitZeros = 48 :: digitZeros.tail := rfl
  have first : (decide (48 ≤ c.toNat) && decide (c.toNat < 48 + 10)) = true := by
    simp only [Bool.and_eq_true, decide_eq_true_eq]
    omega
  rw [digitValue?, table, List.find?_cons, first]
  rfl

theorem isDecimal_of_isDigit {text : Text} (filled : text ≠ [])
    (digits : ∀ c ∈ text, c.isDigit = true) : isDecimal text = true := by
  simp only [isDecimal, Bool.and_eq_true, Bool.not_eq_true', List.isEmpty_eq_false_iff,
    List.all_eq_true]
  refine ⟨filled, ?_⟩
  intro c member
  rw [digitValue?_of_isDigit (digits c member)]
  rfl

private theorem digitOf_lt (c : Char) : digitOf c < 10 := by
  rw [digitOf, digitValue?]
  cases found : digitZeros.find? fun start => start ≤ c.toNat && c.toNat < start + 10 with
  | none => simp
  | some start =>
    have inside := List.find?_some found
    simp only [Bool.and_eq_true, decide_eq_true_eq] at inside
    simp only [Option.map_some, Option.getD_some]
    omega

private theorem Denotes.lt_pow_length {text : Text} {value : Nat} (denotes : Denotes text value) :
    value < 10 ^ text.length := by
  obtain ⟨_, rfl⟩ := (denotes_iff text value).1 denotes
  have size : (text.map digitOf).reverse.length = text.length := by simp
  rw [decimalValue_eq, ← size]
  apply Nat.ofDigits_lt_base_pow_length (by decide)
  intro d member
  obtain ⟨c, _, rfl⟩ := List.mem_map.1 (List.mem_reverse.1 member)
  exact digitOf_lt c

end Text

namespace Decimal

theorem isDigit_of_mem_natural {c : Char} {n : Nat} (member : c ∈ natural n) : c.isDigit = true :=
  Nat.isDigit_of_mem_toDigits (by decide) (by decide) member

private theorem isDecimal_natural (n : Nat) : Text.isDecimal (natural n) = true :=
  Text.isDecimal_of_isDigit Nat.toDigits_ne_nil fun _ member => isDigit_of_mem_natural member

private theorem decimalValue_natural (n : Nat) : Text.decimalValue (natural n) = n := by
  calc Text.decimalValue (natural n)
      = (natural n).foldl (fun value c => 10 * value + (c.toNat - '0'.toNat)) 0 := by
        apply List.foldl_ext
        intro value c member
        rw [Text.digitValue?_of_isDigit (isDigit_of_mem_natural member)]
        rfl
    _ = Nat.ofDigitChars 10 (natural n) 0 := Nat.ofDigitChars_eq_foldl.symm
    _ = n := Nat.ofDigitChars_ten_toDigits

theorem denotes_natural (n : Nat) : Text.Denotes (natural n) n :=
  (Text.denotes_iff _ n).2 ⟨isDecimal_natural n, decimalValue_natural n⟩

/-- Leading zeros and other scripts can only lengthen a numeral. -/
theorem length_natural_le_of_denotes {text : Text} {value : Nat}
    (denotes : Text.Denotes text value) : (natural value).length ≤ text.length :=
  (Nat.length_toDigits_le_iff (by decide) (List.length_pos_iff.2 denotes.1)).2
    denotes.lt_pow_length

theorem isWritable_iff (n : Nat) : isWritable n = true ↔ n < 10 ^ digitLimit := by
  rw [isWritable, decide_eq_true_iff, natural]
  exact Nat.length_toDigits_le_iff (by decide) (by decide)

end Decimal
end PasswordAudit
