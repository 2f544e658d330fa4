import PasswordAudit.Inspection.Check
import PasswordAudit.Policy.Count
import PasswordAudit.Proofs.Time.Moment

/-! The answers of checks whose thresholds are counts. A count can always be compared with, so such
a check gives an answer, but for a time without a universal form. -/
namespace PasswordAudit

namespace Count

theorem isZero_eq (count : Count) : count.isZero = decide (count.toNat = 0) := rfl

theorem isZero_eq_false_iff (count : Count) : count.isZero = false ↔ 0 < count.toNat := by
  simp [isZero_eq, Nat.pos_iff_ne_zero]

private theorem isZero_toValue (count : Count) : count.toValue.isZero = count.isZero := by
  cases count with
  | number n =>
    rw [Bool.eq_iff_iff]
    simp [toValue, Value.isZero, isZero, toNat]
  | flag b => cases b <;> rfl

private theorem holds_toValue (count : Count) : count.toValue.holds = !count.isZero := by
  cases count with
  | number n =>
    rw [Bool.eq_iff_iff]
    simp [toValue, Value.holds, isZero, toNat]
  | flag b => cases b <;> rfl

private theorem compare_toValue (relation : Relation) (n : Int) (count : Count) :
    relation.compare n count.toValue = .ok (relation.decides n count.toNat) := by
  cases count with
  | number m => rfl
  | flag b => rfl

end Count

namespace Check

theorem reaches_count (n : Nat) (least : Count) :
    reaches n least.toValue = .ok (decide (least.toNat ≤ n)) := by
  simp [reaches, Count.compare_toValue, Relation.decides, Except.mapError]

theorem keepsTo_count (n : Int) (most : Count) :
    keepsTo n most.toValue = .ok (decide (n ≤ most.toNat)) := by
  simp [keepsTo, Count.compare_toValue, Relation.decides, Except.mapError]

/-- Each rule counts by itself, however often it is repeated. -/
private theorem metCount_count (password : Text) (rules : List (Rule Count)) :
    metCount password (rules.map (Rule.map Count.toValue)) =
      .ok (rules.countP fun rule => rule.count.toNat ≤ rule.kind.count password) := by
  induction rules with
  | nil => rfl
  | cons rule rest ih =>
    rw [List.map_cons, metCount, ih, Rule.map, reaches_count, List.countP_cons]
    by_cases met : rule.count.toNat ≤ rule.kind.count password <;>
      simp [met, bind, Except.bind, pure, Except.pure]

theorem minCharacteristics_count (password : Text) (rules : List (Rule Count)) (needed : Count) :
    (minCharacteristics (rules.map (Rule.map Count.toValue)) needed.toValue).passes password =
      .ok (decide (needed.toNat ≤
        rules.countP fun rule => rule.count.toNat ≤ rule.kind.count password)) := by
  rw [passes, metCount_count]
  exact reaches_count _ needed

private theorem hasGrace_count (length : Nat) (grace : Count) :
    hasGrace length grace.toValue = .ok (decide (0 < grace.toNat ∧ grace.toNat ≤ length)) := by
  rw [hasGrace, Count.holds_toValue]
  cases off : grace.isZero with
  | true =>
    have zero : grace.toNat = 0 := by simpa [Count.isZero_eq] using off
    simp [zero]
  | false =>
    have positive := (Count.isZero_eq_false_iff grace).1 off
    simp [reaches_count, positive]

/-- The age is asked for only if there is no grace, and then it decides. -/
theorem isFresh_dated (days grace : Count) (changed now : Moment) (length : Nat)
    (positive : 0 < days.toNat) :
    isFresh days.toValue (some (.value changed)) now grace.toValue length =
      if 0 < grace.toNat ∧ grace.toNat ≤ length then .ok true
      else ((Moment.ageInDays changed now).map fun age : Int => decide (age ≤ days.toNat)).mapError
        CheckFault.time := by
  rw [isFresh, Count.isZero_toValue, (Count.isZero_eq_false_iff days).2 positive, hasGrace_count]
  by_cases spared : 0 < grace.toNat ∧ grace.toNat ≤ length
  · simp [spared, bind, Except.bind, pure, Except.pure]
  · simp only [Bool.false_eq_true, if_false, spared, decide_false, bind, Except.bind]
    rw [ageInDays]
    cases Moment.ageInDays changed now with
    | error fault => rfl
    | ok age => exact keepsTo_count age days

end Check
end PasswordAudit
