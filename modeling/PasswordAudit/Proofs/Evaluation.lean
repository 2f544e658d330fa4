import PasswordAudit.Proofs.Inspection.Answers
import PasswordAudit.Proofs.Inspection.Survey
import PasswordAudit.Proofs.Lexicon.Search
import PasswordAudit.Proofs.Policy.Meaning
import PasswordAudit.Proofs.Text.Runs

/-! Evaluation against its meaning. Each requirement of a policy is guarded by at most one check,
the checks stand in the order of the violations, and each answers by the meaning of its requirement.
So a survey of them reports what is required, applies and is broken, and nothing else. -/
namespace PasswordAudit

namespace Violation

theorem mem_all (violation : Violation) : violation ∈ all := by
  cases violation <;> decide

theorem all_ranked : all.Pairwise fun a b => a.rank < b.rank := by decide

theorem all_nodup : all.Nodup := by decide

end Violation

namespace Policy
open Inspector

variable (policy : Policy)

/-- The check that guards against a violation, if the policy has that requirement. -/
def guard? (changed : Option (Given Moment)) (now : Moment) : Violation → Option Check
  | .tooShort =>
    if policy.minLength.isZero then none else some (.minLength policy.minLength.toValue)
  | .tooLong =>
    if policy.maxLength.isZero then none else some (.maxLength policy.maxLength.toValue)
  | .insufficientCharacteristics =>
    if policy.minCharacteristics.isZero then none
    else some (.minCharacteristics (policy.rules.map (Rule.map Count.toValue))
      policy.minCharacteristics.toValue)
  | .repeatedCharacters => policy.maxRepeating.map fun limit => .maxRepeating limit.toValue
  | .dictionaryMatch =>
    if policy.usesLexicon then
      some (if policy.substringMatch.holds then .holdsNoWord policy.lexicon
        else .isNoWord policy.lexicon)
    else none
  | .expired =>
    if policy.expirationDays.isZero then none
    else some (.notExpired policy.expirationDays.toValue changed now policy.graceLength.toValue)

/-- Whether a requirement applies to a password, given whether that is exempt. -/
def applies (exempt : Bool) (violation : Violation) : Bool :=
  !exempt || (violation == .expired && policy.expirationOverrides.holds)

def guardFor? (changed : Option (Given Moment)) (now : Moment) (exempt : Bool)
    (violation : Violation) : Option Check :=
  if policy.applies exempt violation then policy.guard? changed now violation else none

private theorem compositionChecks_eq (changed : Option (Given Moment)) (now : Moment) :
    policy.compositionChecks =
      [.tooShort, .tooLong, .insufficientCharacteristics, .repeatedCharacters,
        .dictionaryMatch].filterMap (policy.guard? changed now) := by
  simp only [List.filterMap_eq_flatMap_toList, List.flatMap_cons, List.flatMap_nil, guard?,
    compositionChecks, apply_ite Option.toList, Option.toList_none, Option.toList_some,
    List.append_nil, List.append_assoc]

private theorem expiryChecks_eq (changed : Option (Given Moment)) (now : Moment) :
    policy.expiryChecks changed now = [.expired].filterMap (policy.guard? changed now) := by
  simp only [List.filterMap_eq_flatMap_toList, List.flatMap_cons, List.flatMap_nil, guard?,
    expiryChecks, apply_ite Option.toList, Option.toList_none, Option.toList_some,
    List.append_nil]

theorem checks_eq (changed : Option (Given Moment)) (now : Moment) (exempt : Bool) :
    policy.checks (policy.expiryChecks changed now) exempt =
      Violation.all.filterMap (policy.guardFor? changed now exempt) := by
  cases exempt with
  | false =>
    have same : policy.guardFor? changed now false = policy.guard? changed now := by
      funext violation
      simp [guardFor?, applies]
    rw [same, checks, policy.compositionChecks_eq changed now, expiryChecks_eq]
    exact (List.filterMap_append ..).symm
  | true =>
    cases overrides : policy.expirationOverrides.holds with
    | false => simp [checks, overrides, Violation.all, guardFor?, applies]
    | true =>
      rw [checks, expiryChecks_eq]
      simp [overrides, Violation.all, guardFor?, applies, List.filterMap_cons]

private theorem violation_of_guard? {changed : Option (Given Moment)} {now : Moment}
    {violation : Violation} {check : Check}
    (guarded : policy.guard? changed now violation = some check) :
    check.violation = violation := by
  cases violation <;>
    simp only [guard?, Option.ite_none_left_eq_some, Option.ite_none_right_eq_some,
      Option.map_eq_some_iff, Option.some.injEq] at guarded
  case repeatedCharacters =>
    obtain ⟨limit, _, rfl⟩ := guarded
    rfl
  case dictionaryMatch =>
    obtain ⟨_, rfl⟩ := guarded
    split <;> rfl
  all_goals
    obtain ⟨_, rfl⟩ := guarded
    rfl

theorem guard?_isSome_iff (changed : Option (Given Moment)) (now : Moment)
    (violation : Violation) :
    (policy.guard? changed now violation).isSome = true ↔ policy.Requires violation := by
  cases violation with
  | repeatedCharacters => simp [guard?, Requires, Option.isSome_iff_ne_none]
  | dictionaryMatch => simp [guard?, Requires, usesLexicon, Lexicon.isEmpty]
  | _ => simp [guard?, Requires, Count.isZero_eq, Nat.pos_iff_ne_zero]

private theorem violation_of_guardFor? {changed : Option (Given Moment)} {now : Moment}
    {exempt : Bool} {violation : Violation} {check : Check}
    (guarded : policy.guardFor? changed now exempt violation = some check) :
    check.violation = violation := by
  rw [guardFor?, Option.ite_none_right_eq_some] at guarded
  exact policy.violation_of_guard? guarded.2

theorem requires_of_guardFor? {changed : Option (Given Moment)} {now : Moment} {exempt : Bool}
    {violation : Violation} {check : Check}
    (guarded : policy.guardFor? changed now exempt violation = some check) :
    policy.Requires violation := by
  rw [guardFor?, Option.ite_none_right_eq_some] at guarded
  rw [← policy.guard?_isSome_iff changed now, guarded.2]
  rfl

/-- Only expiry looks at the times. Every other check always answers, and by the meaning of the
requirement that it guards. -/
theorem guard?_answer_of_ne_expired {changed : Option Moment} {now : Moment}
    {violation : Violation} {check : Check} (password : Text) (timeless : violation ≠ .expired)
    (guarded : policy.guard? (changed.map .value) now violation = some check) :
    ∃ fine, check.passes password = .ok fine ∧
      (fine = false ↔ policy.IsBrokenBy changed now password violation) := by
  cases violation <;>
    simp only [guard?, Option.ite_none_left_eq_some, Option.ite_none_right_eq_some,
      Option.map_eq_some_iff, Option.some.injEq] at guarded
  case tooShort =>
    obtain ⟨_, rfl⟩ := guarded
    exact ⟨_, Check.reaches_count _ _, by simp [IsBrokenBy]⟩
  case tooLong =>
    obtain ⟨_, rfl⟩ := guarded
    exact ⟨_, Check.keepsTo_count _ _, by simp [IsBrokenBy]⟩
  case insufficientCharacteristics =>
    obtain ⟨_, rfl⟩ := guarded
    refine ⟨_, Check.minCharacteristics_count _ _ _, ?_⟩
    rw [decide_eq_false_iff_not, Nat.not_le]
    rfl
  case repeatedCharacters =>
    obtain ⟨limit, bound, rfl⟩ := guarded
    refine ⟨_, Check.keepsTo_count _ _, ?_⟩
    simp [IsBrokenBy, bound, Text.lt_longestRun_iff]
  case dictionaryMatch =>
    obtain ⟨_, rfl⟩ := guarded
    cases mode : policy.substringMatch.holds with
    | true => exact ⟨_, rfl, by simp [IsBrokenBy, mode, Lexicon.containsAny_iff]⟩
    | false => exact ⟨_, rfl, by simp [IsBrokenBy, mode, Lexicon.equalsAny_iff]⟩
  case expired => exact absurd rfl timeless

private theorem guard?_expired_passes_of_unchanged {now : Moment} {check : Check} (password : Text)
    (guarded : policy.guard? none now .expired = some check) :
    check.passes password = .ok true := by
  simp only [guard?, Option.ite_none_left_eq_some, Option.some.injEq] at guarded
  obtain ⟨_, rfl⟩ := guarded
  rfl

/-- Without grace the age decides, if there is one. -/
theorem guard?_expired_passes {moment now : Moment} {check : Check} (password : Text)
    (guarded : policy.guard? (some (.value moment)) now .expired = some check) :
    check.passes password =
      if 0 < policy.graceLength.toNat ∧ policy.graceLength.toNat ≤ password.length then .ok true
      else ((Moment.ageInDays moment now).map fun age : Int =>
        decide (age ≤ policy.expirationDays.toNat)).mapError CheckFault.time := by
  simp only [guard?, Option.ite_none_left_eq_some, Option.some.injEq] at guarded
  obtain ⟨enabled, rfl⟩ := guarded
  have positive := (Count.isZero_eq_false_iff policy.expirationDays).1 (by simpa using enabled)
  exact Check.isFresh_dated _ _ moment now password.length positive

private theorem guard?_meaning {changed : Option Moment} {now : Moment} {violation : Violation}
    {check : Check} {password : Text} {fine : Bool}
    (guarded : policy.guard? (changed.map .value) now violation = some check)
    (outcome : check.passes password = .ok fine) :
    fine = false ↔ policy.IsBrokenBy changed now password violation := by
  by_cases timeless : violation = .expired
  · subst timeless
    cases changed with
    | none =>
      cases (policy.guard?_expired_passes_of_unchanged password guarded).symm.trans outcome
      simp [IsBrokenBy]
    | some moment =>
      rw [policy.guard?_expired_passes password guarded] at outcome
      by_cases spared : 0 < policy.graceLength.toNat ∧ policy.graceLength.toNat ≤ password.length
      · rw [if_pos spared] at outcome
        cases outcome
        simp [IsBrokenBy, spared]
      · rw [if_neg spared] at outcome
        by_cases forms : moment.HasUniversalForm ∧ now.HasUniversalForm
        · rw [Moment.ageInDays_of_hasUniversalForm forms.1 forms.2] at outcome
          cases outcome
          have old := Moment.div_microsPerDay_le_iff policy.expirationDays.toNat
            (now.instant - moment.instant)
          simp [IsBrokenBy, spared, old]
        · rw [Moment.ageInDays_of_not_hasUniversalForm forms] at outcome
          cases outcome
  · obtain ⟨answer, same, meaning⟩ :=
      policy.guard?_answer_of_ne_expired password timeless guarded
    cases same.symm.trans outcome
    exact meaning

theorem guard?_answers {changed : Option Moment} {now : Moment} {violation : Violation}
    {check : Check} {password : Text}
    (comparable : violation = .expired → ∀ moment ∈ changed,
      ¬ (0 < policy.graceLength.toNat ∧ policy.graceLength.toNat ≤ password.length) →
        moment.HasUniversalForm ∧ now.HasUniversalForm)
    (guarded : policy.guard? (changed.map .value) now violation = some check) :
    answers (·.passes password) check = true := by
  rw [answers_iff]
  by_cases timeless : violation = .expired
  · subst timeless
    cases changed with
    | none => exact ⟨true, policy.guard?_expired_passes_of_unchanged password guarded⟩
    | some moment =>
      rw [policy.guard?_expired_passes password guarded]
      by_cases spared : 0 < policy.graceLength.toNat ∧ policy.graceLength.toNat ≤ password.length
      · exact ⟨true, if_pos spared⟩
      · obtain ⟨earlier, later⟩ := comparable rfl moment rfl spared
        rw [if_neg spared, Moment.ageInDays_of_hasUniversalForm earlier later]
        exact ⟨_, rfl⟩
  · obtain ⟨fine, outcome, _⟩ := policy.guard?_answer_of_ne_expired password timeless guarded
    exact ⟨fine, outcome⟩

def reported (changed : Option (Given Moment)) (now : Moment) (password : Text) :
    List Violation :=
  Violation.all.filter fun violation =>
    (policy.guardFor? changed now (policy.isExempt password) violation).any
      (fails (·.passes password))

theorem reported_sublist (changed : Option (Given Moment)) (now : Moment) (password : Text) :
    (policy.reported changed now password).Sublist Violation.all :=
  List.filter_sublist

/-- Each kind of violation has a check of its own, so nothing is noted twice. -/
theorem violations_eq_ok_iff (changed : Option (Given Moment)) (now : Moment) (password : Text)
    (found : List Violation) :
    policy.violations changed now password = .ok found ↔
      (∀ violation check,
        policy.guardFor? changed now (policy.isExempt password) violation = some check →
          answers (·.passes password) check = true) ∧
      found = policy.reported changed now password := by
  have distinct : (policy.reported changed now password).Nodup :=
    (policy.reported_sublist changed now password).nodup Violation.all_nodup
  rw [violations, Inspector.violations_eq_ok_iff, checks_eq,
    failures_filterMap _ _ fun _ _ => policy.violation_of_guardFor?, ← reported, foldl_note_nil,
    eraseDups_of_nodup distinct]
  simp only [List.mem_filterMap, Violation.mem_all, true_and, forall_exists_index]
  exact and_congr_left' forall_comm

theorem requires_of_mem_survey {passes : Check → Except CheckFault Bool}
    {changed : Option (Given Moment)} {now : Moment} {exempt : Bool} {found : List Violation}
    (run : Inspector.violations passes
      (policy.checks (policy.expiryChecks changed now) exempt) = .ok found) :
    ∀ violation ∈ found, policy.Requires violation := by
  obtain ⟨_, rfl⟩ := (Inspector.violations_eq_ok_iff _ _ _).1 run
  rw [checks_eq, failures_filterMap _ _ fun _ _ => policy.violation_of_guardFor?, foldl_note_nil]
  intro violation member
  rw [List.mem_eraseDups, List.mem_filter] at member
  obtain ⟨check, guarded, _⟩ := (Option.any_eq_true _ _).1 member.2
  exact policy.requires_of_guardFor? guarded

theorem applies_iff (password : Text) (violation : Violation) :
    policy.applies (policy.isExempt password) violation = true ↔
      policy.AppliesTo password violation := by
  have exempt := policy.isExempt_iff password
  cases violation <;> simp [applies, AppliesTo, ← exempt]

private theorem any_fails_guardFor?_iff_of_answers {changed : Option Moment} {now : Moment}
    {password : Text} {violation : Violation}
    (answered : ∀ check, policy.guardFor? (changed.map .value) now (policy.isExempt password)
      violation = some check → answers (·.passes password) check = true) :
    (policy.guardFor? (changed.map .value) now (policy.isExempt password) violation).any
        (fails (·.passes password)) = true ↔
      policy.Requires violation ∧ policy.AppliesTo password violation ∧
        policy.IsBrokenBy changed now password violation := by
  rw [← policy.guard?_isSome_iff (changed.map .value) now, ← policy.applies_iff]
  unfold guardFor? at answered ⊢
  cases applied : policy.applies (policy.isExempt password) violation with
  | false => simp
  | true =>
    cases guarded : policy.guard? (changed.map .value) now violation with
    | none => simp
    | some check =>
      obtain ⟨fine, outcome⟩ := (answers_iff _ _).1
        (answered check (by rw [applied, if_pos rfl, guarded]))
      simp [fails, outcome, ← policy.guard?_meaning guarded outcome]

private theorem guardFor?_answers_of_hasUniversalForm {changed : Option Moment} {now : Moment}
    (password : Text) (dated : ∀ moment ∈ changed, moment.HasUniversalForm)
    (current : now.HasUniversalForm) (violation : Violation) (check : Check)
    (guarded : policy.guardFor? (changed.map .value) now (policy.isExempt password) violation =
      some check) : answers (·.passes password) check = true := by
  rw [guardFor?, Option.ite_none_right_eq_some] at guarded
  exact policy.guard?_answers (fun _ moment member _ => ⟨dated moment member, current⟩) guarded.2

theorem any_fails_guardFor?_iff {changed : Option Moment} {now : Moment} (password : Text)
    (dated : ∀ moment ∈ changed, moment.HasUniversalForm) (current : now.HasUniversalForm)
    (violation : Violation) :
    (policy.guardFor? (changed.map .value) now (policy.isExempt password) violation).any
        (fails (·.passes password)) = true ↔
      policy.Requires violation ∧ policy.AppliesTo password violation ∧
        policy.IsBrokenBy changed now password violation :=
  policy.any_fails_guardFor?_iff_of_answers
    (policy.guardFor?_answers_of_hasUniversalForm password dated current violation)

theorem evaluate_eq_reported (clock : Moment) (context : Context) (password : Text)
    (dated : context.HasUniversalForms clock) :
    policy.evaluate clock context password =
      .ok (policy.reported (context.changed.map .value) (context.now.getD clock) password) :=
  (policy.violations_eq_ok_iff _ _ _ _).2
    ⟨policy.guardFor?_answers_of_hasUniversalForm password dated.1 dated.2, rfl⟩

/-- Whatever its times are, an evaluation that gives a result reports by the meaning of the policy.
-/
theorem mem_iff_of_evaluate_eq_ok {clock : Moment} {context : Context} {password : Text}
    {found : List Violation} (run : policy.evaluate clock context password = .ok found)
    (violation : Violation) :
    violation ∈ found ↔
      policy.Requires violation ∧ policy.AppliesTo password violation ∧
        policy.IsBrokenBy context.changed (context.now.getD clock) password violation := by
  obtain ⟨answered, rfl⟩ := (policy.violations_eq_ok_iff _ _ _ _).1 run
  rw [reported, List.mem_filter, policy.any_fails_guardFor?_iff_of_answers (answered violation)]
  simp [Violation.mem_all]

theorem eq_filter_of_evaluate_eq_ok {clock : Moment} {context : Context} {password : Text}
    {found : List Violation} (run : policy.evaluate clock context password = .ok found) :
    found = Violation.all.filter (· ∈ found) := by
  obtain ⟨_, rfl⟩ := (policy.violations_eq_ok_iff _ _ _ _).1 run
  apply List.filter_congr
  intro violation _
  rw [Bool.eq_iff_iff, decide_eq_true_iff, reported, List.mem_filter]
  simp [Violation.mem_all]

/-- As long as its times can be told in universal time, an evaluation gives a result: the
violations, each at most once and in their order, of exactly the requirements that the policy has,
that apply to the password, and that it breaks. -/
theorem evaluate_reports_exactly (policy : Policy) (clock : Moment) (context : Context)
    (password : Text) (dated : context.HasUniversalForms clock) :
    ∃ found, policy.evaluate clock context password = .ok found ∧
      found.Pairwise (fun a b => a.rank < b.rank) ∧
      ∀ violation, violation ∈ found ↔
        policy.Requires violation ∧ policy.AppliesTo password violation ∧
          policy.IsBrokenBy context.changed (context.now.getD clock) password violation := by
  refine ⟨_, policy.evaluate_eq_reported clock context password dated, ?_, ?_⟩
  · exact Violation.all_ranked.sublist (policy.reported_sublist _ _ _)
  · intro violation
    rw [reported, List.mem_filter, policy.any_fails_guardFor?_iff password dated.1 dated.2]
    simp [Violation.mem_all]

def oneDay : Policy :=
  { preset (Lexicon.ofWords ["ab"] [] false) with expirationDays := .flag true }

theorem evaluate_reports_exactly_oneDay :
    let changed : Moment := ⟨2 * Moment.microsPerDay, some (-3600000000), by decide, by decide⟩
    let clock : Moment := ⟨58 * Moment.microsPerDay, none, by decide, by simp⟩
    Context.HasUniversalForms ⟨some changed, none⟩ clock ∧
      ∃ found, oneDay.evaluate clock ⟨some changed, none⟩ "AB" = .ok found ∧
        found.Pairwise (fun a b => a.rank < b.rank) ∧
        ∀ violation, violation ∈ found ↔
          oneDay.Requires violation ∧ oneDay.AppliesTo "AB" violation ∧
            oneDay.IsBrokenBy (some changed) clock "AB" violation := by
  intro changed clock
  have dated : Context.HasUniversalForms ⟨some changed, none⟩ clock := by
    constructor
    · intro moment same
      cases same
      decide
    · decide
  exact ⟨dated, evaluate_reports_exactly oneDay clock ⟨some changed, none⟩ "AB" dated⟩

end Policy
end PasswordAudit
