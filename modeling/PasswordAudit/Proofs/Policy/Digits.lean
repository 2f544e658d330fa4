import PasswordAudit.Proofs.Checklist
import PasswordAudit.Proofs.Policy.Draft

/-! Policies whose numbers can all be written. A policy has no numbers but those of the draft that
describes it, and an amendment brings no others in than it gives. -/
namespace PasswordAudit

namespace Draft

def numbers (draft : Draft) : List Value :=
  [draft.minLength, draft.maxLength, draft.minCharacteristics, draft.maxRepeating,
    draft.goodStrength, draft.expirationDays, draft.graceLength] ++ draft.rules.map Rule.count

def Changes.numbers (changes : Changes) : List Value :=
  [changes.minLength, changes.maxLength, changes.minCharacteristics, changes.maxRepeating,
    changes.goodStrength, changes.expirationDays, changes.graceLength].filterMap id
    ++ (changes.rules.getD []).map Rule.count

theorem mem_numbers_of_amended {before after : Draft} {changes : Changes}
    (amended : before.Amended changes after) {value : Value} (member : value ∈ after.numbers) :
    value ∈ before.numbers ∨ value ∈ changes.numbers := by
  have field {given : Option Value} {old : Value}
      (oldIn : old ∈ before.numbers) (newIn : ∀ new ∈ given, new ∈ changes.numbers) :
      given.getD old ∈ before.numbers ∨ given.getD old ∈ changes.numbers := by
    cases given with
    | none => exact .inl oldIn
    | some new => exact .inr (newIn new rfl)
  rw [amended.eq_override] at member
  rcases List.mem_append.1 member with single | ruled
  · simp only [override, List.mem_cons, List.not_mem_nil, or_false] at single
    rcases single with rfl | rfl | rfl | rfl | rfl | rfl | rfl <;>
      exact field (by simp [numbers])
        fun new given => by simp [Changes.numbers, Option.mem_def.1 given]
  · cases given : changes.rules with
    | none =>
      simp only [override, given, Option.getD_none] at ruled
      exact .inl (List.mem_append_right _ ruled)
    | some rules =>
      simp only [override, given, Option.getD_some] at ruled
      exact .inr (List.mem_append_right _ (by rwa [given]))

end Draft

namespace Policy

def IsWritable (policy : Policy) : Prop :=
  ∀ value ∈ policy.toDraft.numbers, value.isWritable = true

variable {policy : Policy}

theorem IsWritable.rules (writable : policy.IsWritable) :
    ∀ rule ∈ policy.rules, rule.count.isWritable = true := by
  intro rule member
  refine writable _ (List.mem_append_right _ ?_)
  rw [toDraft, List.map_map]
  exact List.mem_map_of_mem member

theorem IsWritable.hasWritableCounts (writable : policy.IsWritable) :
    policy.HasWritableCounts := by
  have count {count : Count} (member : count.toValue ∈ policy.toDraft.numbers) :
      count.isWritable = true := writable _ member
  exact {
    minLength := count (by simp [Draft.numbers, toDraft])
    goodStrength := fun _ => count (by simp [Draft.numbers, toDraft])
    maxLength := count (by simp [Draft.numbers, toDraft])
    minCharacteristics := count (by simp [Draft.numbers, toDraft])
    maxRepeating := fun limit limited =>
      count (by simp [Draft.numbers, toDraft, Option.mem_def.1 limited])
    expirationDays := count (by simp [Draft.numbers, toDraft])
    graceLength := fun _ => count (by simp [Draft.numbers, toDraft]) }

end Policy
end PasswordAudit
