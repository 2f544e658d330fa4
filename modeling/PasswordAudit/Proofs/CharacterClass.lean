import PasswordAudit.CharacterClass

/-! Classes share out all characters. A class holds just the characters that its bracket expression
matches. Every character is in upper case, in lower case, a digit, special or a blank, and never two
of these at once, so the counts of a text add up to its length. -/
namespace PasswordAudit

namespace Text

/-- The items of a bracket expression, up to the bracket that closes it: single characters, ranges
of them, and the escape for blanks. -/
def isListed : Text → Char → Bool
  | '\\' :: 's' :: rest, c => isBlank c || isListed rest c
  | first :: '-' :: last :: rest, c => (first ≤ c && c ≤ last) || isListed rest c
  | [']'], _ => false
  | single :: rest, c => single == c || isListed rest c
  | [], _ => false

/-- A bracket expression matches one character at a time. A circumflex turns it round. -/
def isMatched : Text → Char → Bool
  | '[' :: '^' :: items, c => !isListed items c
  | '[' :: items, c => isListed items c
  | _, _ => false

private theorem toNat_of_isBlank {c : Char} (blank : isBlank c = true) :
    c.toNat ≤ 0x20 ∨ 0x85 ≤ c.toNat := by
  simp only [isBlank, isWhiteSpace, Bool.or_eq_true, Bool.and_eq_true, decide_eq_true_eq,
    beq_iff_eq] at blank
  omega

end Text

namespace CharacterClass

private theorem isAlpha_eq (c : Char) : c.isAlpha = (c.isUpper || c.isLower) := rfl

private theorem isUpper_eq (c : Char) : c.isUpper = ('A' ≤ c && c ≤ 'Z') := Bool.decide_and ..

private theorem holds_eq_isMatched (kind : CharacterClass) (c : Char) :
    kind.holds c = Text.isMatched kind.pattern c := by
  cases kind with
  | alphabetical =>
    have read : Text.isMatched alphabetical.pattern c =
        (('a' ≤ c && c ≤ 'z') || (('A' ≤ c && c ≤ 'Z') || false)) := rfl
    rw [read, ← isUpper_eq, Bool.or_false, Bool.or_comm]
    rfl
  | digit => exact (Bool.or_false _).symm
  | upperCase =>
    have read : Text.isMatched upperCase.pattern c = (('A' ≤ c && c ≤ 'Z') || false) := rfl
    rw [read, ← isUpper_eq, Bool.or_false]
    rfl
  | lowerCase => exact (Bool.or_false _).symm
  | special =>
    have read : Text.isMatched special.pattern c =
        !(('a' ≤ c && c ≤ 'z') || (('A' ≤ c && c ≤ 'Z') ||
          (('0' ≤ c && c ≤ '9') || (Text.isBlank c || false)))) := rfl
    rw [read, ← isUpper_eq, Bool.or_false, ← Bool.or_assoc, ← Bool.or_assoc, Bool.not_or,
      Bool.not_or, Bool.or_comm _ c.isUpper]
    rfl

theorem count_eq_countP_isMatched (kind : CharacterClass) (text : Text) :
    kind.count text = text.countP (Text.isMatched kind.pattern) := by
  rw [count, funext (holds_eq_isMatched kind)]

private theorem isUpper_iff (c : Char) : c.isUpper = true ↔ 65 ≤ c.toNat ∧ c.toNat ≤ 90 := by
  change decide ('A'.val ≤ c.val ∧ c.val ≤ 'Z'.val) = true ↔ _
  rw [decide_eq_true_eq, UInt32.le_iff_toNat_le, UInt32.le_iff_toNat_le]
  exact Iff.rfl

private theorem isLower_iff (c : Char) : c.isLower = true ↔ 97 ≤ c.toNat ∧ c.toNat ≤ 122 := by
  change (decide ('a'.val ≤ c.val) && decide (c.val ≤ 'z'.val)) = true ↔ _
  rw [Bool.and_eq_true, decide_eq_true_eq, decide_eq_true_eq, UInt32.le_iff_toNat_le,
    UInt32.le_iff_toNat_le]
  exact Iff.rfl

/-- A character is in just one of the four classes or a blank. -/
private theorem shares_out (c : Char) :
    (if upperCase.holds c then 1 else 0) + (if lowerCase.holds c then 1 else 0) +
      (if digit.holds c then 1 else 0) + (if special.holds c then 1 else 0) +
      (if Text.isBlank c then 1 else 0) = 1 := by
  have upper := isUpper_iff c
  have lower := isLower_iff c
  have digit : c.isDigit = true ↔ 48 ≤ c.toNat ∧ c.toNat ≤ 57 := Char.isDigit_iff_toNat
  have noLower (other : ¬ (97 ≤ c.toNat ∧ c.toNat ≤ 122)) : c.isLower = false :=
    Bool.eq_false_iff.2 (mt lower.1 other)
  have noDigit (other : ¬ (48 ≤ c.toNat ∧ c.toNat ≤ 57)) : c.isDigit = false :=
    Bool.eq_false_iff.2 (mt digit.1 other)
  -- Blanks lie outside all ranges, and the ranges outside each other; what is left is special.
  cases blank : Text.isBlank c with
  | true =>
    have apart := Text.toNat_of_isBlank blank
    have noUpper : c.isUpper = false := Bool.eq_false_iff.2 (mt upper.1 (by omega))
    simp [holds, noUpper, noLower (by omega), noDigit (by omega), blank]
  | false =>
    cases capital : c.isUpper with
    | true =>
      have place := upper.1 capital
      simp [holds, isAlpha_eq, capital, noLower (by omega), noDigit (by omega)]
    | false =>
      cases small : c.isLower with
      | true =>
        have place := lower.1 small
        simp [holds, isAlpha_eq, capital, small, noDigit (by omega)]
      | false =>
        cases number : c.isDigit <;> simp [holds, isAlpha_eq, capital, small, number, blank]

theorem count_sum_eq_length (text : Text) :
    upperCase.count text + lowerCase.count text + digit.count text + special.count text +
      text.countP Text.isBlank = text.length := by
  induction text with
  | nil => rfl
  | cons c rest ih =>
    have one := shares_out c
    simp only [count, List.countP_cons, List.length_cons] at ih ⊢
    omega

private theorem not_lowerCase_of_upperCase {c : Char} (capital : upperCase.holds c = true) :
    lowerCase.holds c = false := by
  have one := shares_out c
  cases small : lowerCase.holds c with
  | false => rfl
  | true =>
    rw [if_pos capital, if_pos small] at one
    omega

theorem count_alphabetical (text : Text) :
    alphabetical.count text = upperCase.count text + lowerCase.count text := by
  induction text with
  | nil => rfl
  | cons c rest ih =>
    have either : alphabetical.holds c = (upperCase.holds c || lowerCase.holds c) := rfl
    have letter : (if alphabetical.holds c then 1 else 0) =
        (if upperCase.holds c then 1 else 0) + (if lowerCase.holds c then 1 else 0) := by
      cases capital : upperCase.holds c with
      | true => simp [either, capital, not_lowerCase_of_upperCase capital]
      | false => simp [either, capital]
    simp only [count, List.countP_cons] at ih ⊢
    omega

theorem count_append (kind : CharacterClass) (first second : Text) :
    kind.count (first ++ second) = kind.count first + kind.count second :=
  List.countP_append

theorem count_eq_of_perm (kind : CharacterClass) {text shuffled : Text}
    (reordered : text.Perm shuffled) : kind.count text = kind.count shuffled :=
  reordered.countP_eq kind.holds

end CharacterClass
end PasswordAudit
