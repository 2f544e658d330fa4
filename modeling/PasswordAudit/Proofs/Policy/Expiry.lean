import PasswordAudit.Proofs.Evaluation

/-! How an evaluation can fail. Only expiry looks at times, and only if it comes to comparing ages.
So nothing but a time without a universal form keeps an evaluation from giving a result. -/
namespace PasswordAudit

namespace Violation

def timeless : List Violation :=
  [.tooShort, .tooLong, .insufficientCharacteristics, .repeatedCharacters, .dictionaryMatch]

theorem all_eq_timeless : all = timeless ++ [.expired] := rfl

theorem ne_expired_of_mem_timeless {violation : Violation} (member : violation ∈ timeless) :
    violation ≠ .expired := by
  rintro rfl
  exact absurd member (by decide)

end Violation

/-- One of the times that are given has no universal form. -/
def Context.HasUntoldTime (context : Context) : Prop :=
  (∃ changed ∈ context.changed, ¬ changed.HasUniversalForm) ∨
    ∃ now ∈ context.now, ¬ now.HasUniversalForm

private theorem Context.hasUntoldTime_iff {clock : Moment} (current : clock.HasUniversalForm)
    (context : Context) : context.HasUntoldTime ↔ ¬ context.HasUniversalForms clock := by
  obtain ⟨changed, now⟩ := context
  cases now <;> cases changed <;>
    simp [HasUntoldTime, HasUniversalForms, current, imp_iff_not_or]

namespace Policy
open Inspector

variable (policy : Policy)

/-- What has to hold before an evaluation asks for the age of a password. -/
structure AsksForAge (context : Context) (password : Text) : Prop where
  applies : ¬ policy.HasGoodStrength password ∨ policy.expirationOverrides.holds = true
  required : 0 < policy.expirationDays.toNat
  changed : context.changed ≠ none
  graceless : ¬ (0 < policy.graceLength.toNat ∧ policy.graceLength.toNat ≤ password.length)

section Outcome

variable {policy} {clock : Moment} {context : Context} {password : Text}

theorem evaluate_returns
    (fit : policy.AsksForAge context password → context.HasUniversalForms clock) :
    ∃ found, policy.evaluate clock context password = .ok found := by
  refine ⟨_, (policy.violations_eq_ok_iff _ _ _ _).2 ⟨?_, rfl⟩⟩
  intro violation check guarded
  rw [guardFor?, Option.ite_none_right_eq_some] at guarded
  obtain ⟨applied, guarded⟩ := guarded
  refine policy.guard?_answers ?_ guarded
  rintro rfl moment member graceless
  have asks : policy.AsksForAge context password := {
    applies := (policy.applies_iff password .expired).1 applied
    required := (policy.guard?_isSome_iff _ _ .expired).1 (Option.isSome_of_mem guarded)
    changed := Option.ne_none_iff_exists'.2 ⟨moment, member⟩
    graceless := graceless }
  exact ⟨(fit asks).1 moment member, (fit asks).2⟩

theorem evaluate_of_untold (asks : policy.AsksForAge context password)
    (untold : ¬ context.HasUniversalForms clock) :
    policy.evaluate clock context password = .error (.time .outOfRange) := by
  obtain ⟨changed, now⟩ := context
  obtain ⟨moment, rfl⟩ := Option.ne_none_iff_exists'.1 asks.changed
  have applied := (policy.applies_iff password .expired).2 asks.applies
  obtain ⟨check, guarded⟩ := Option.isSome_iff_exists.1
    ((policy.guard?_isSome_iff (some (.value moment)) (now.getD clock) .expired).2 asks.required)
  have failed : check.passes password = .error (.time .outOfRange) := by
    have missing : ¬ (moment.HasUniversalForm ∧ (now.getD clock).HasUniversalForm) := by
      rintro ⟨earlier, later⟩
      refine untold ⟨?_, later⟩
      intro other member
      cases member
      exact earlier
    rw [policy.guard?_expired_passes password guarded, if_neg asks.graceless,
      Moment.ageInDays_of_not_hasUniversalForm missing]
    rfl
  have answered : ∀ earlier ∈ Violation.timeless.filterMap (policy.guardFor?
      (some (.value moment)) (now.getD clock) (policy.isExempt password)),
      answers (·.passes password) earlier = true := by
    intro earlier member
    obtain ⟨violation, listed, inForce⟩ := List.mem_filterMap.1 member
    rw [guardFor?, Option.ite_none_right_eq_some] at inForce
    have timeless := Violation.ne_expired_of_mem_timeless listed
    obtain ⟨fine, outcome, _⟩ :=
      @guard?_answer_of_ne_expired policy (some moment) _ _ _ password timeless inForce.2
    exact (answers_iff _ _).2 ⟨fine, outcome⟩
  have last : policy.guardFor? (some (.value moment)) (now.getD clock)
      (policy.isExempt password) .expired = some check := by
    rw [guardFor?, applied, if_pos rfl, guarded]
  change policy.violations (some (.value moment)) (now.getD clock) password = _
  rw [violations, checks_eq, Violation.all_eq_timeless, List.filterMap_append,
    List.filterMap_cons_some last]
  exact violations_of_first_error _ answered failed _

end Outcome

/-- Whatever else a password violates, an evaluation fails just if it has to ask for the age of the
password and a time that is given cannot be told in universal time. It has no other way to fail. -/
theorem fails_only_for_untold_times (policy : Policy) (clock : Moment) (context : Context)
    (password : Text) (current : clock.HasUniversalForm) :
    (∀ fault, policy.evaluate clock context password = .error fault ↔
      fault = .time .outOfRange ∧ policy.AsksForAge context password ∧ context.HasUntoldTime) ∧
    ((∃ found, policy.evaluate clock context password = .ok found) ↔
      ¬ (policy.AsksForAge context password ∧ context.HasUntoldTime)) := by
  rw [Context.hasUntoldTime_iff current context]
  by_cases unfit : policy.AsksForAge context password ∧ ¬ context.HasUniversalForms clock
  · rw [evaluate_of_untold unfit.1 unfit.2]
    simp [unfit, eq_comm]
  · obtain ⟨found, run⟩ := evaluate_returns fun asks => not_not.1 (not_and.1 unfit asks)
    rw [run]
    simp [unfit]

theorem fails_only_for_untold_times_oneDay :
    let changed : Moment := ⟨0, some 3600000000, by decide, by decide⟩
    let clock : Moment := ⟨58 * Moment.microsPerDay, none, by decide, by simp⟩
    clock.HasUniversalForm ∧
      (oneDay.AsksForAge ⟨some changed, none⟩ "AB" ∧
        Context.HasUntoldTime ⟨some changed, none⟩) ∧
      oneDay.evaluate clock ⟨some changed, none⟩ "AB" = .error (.time .outOfRange) := by
  intro changed clock
  have current : clock.HasUniversalForm := by decide
  have weak : ¬ oneDay.HasGoodStrength "AB" := by
    rw [← oneDay.isExempt_iff]
    decide
  have asks : oneDay.AsksForAge ⟨some changed, none⟩ "AB" := {
    applies := .inl weak
    required := by decide
    changed := Option.some_ne_none changed
    graceless := by decide }
  have untold : Context.HasUntoldTime ⟨some changed, none⟩ :=
    .inl ⟨changed, rfl, by decide⟩
  exact ⟨current, ⟨asks, untold⟩,
    ((fails_only_for_untold_times oneDay clock ⟨some changed, none⟩ "AB" current).1 _).2
      ⟨rfl, asks, untold⟩⟩

end Policy
end PasswordAudit
