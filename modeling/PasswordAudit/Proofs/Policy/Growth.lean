import PasswordAudit.Proofs.Evaluation

/-! Adding characters to a password, anywhere in it. It can only gain in length, in characters of
each class and in strength, so a requirement that asks for enough is not broken by the longer
password unless the shorter one breaks it. -/
namespace PasswordAudit

/-- The violations of a password that has too little: of length, of characters of some class, or of
what keeps it from expiring. -/
def Violation.shortages : List Violation := [.tooShort, .insufficientCharacteristics, .expired]

namespace Policy

variable (policy : Policy) {password longer : Text}

private theorem hasGoodStrength_of_sublist (grown : password.Sublist longer)
    (good : policy.HasGoodStrength password) : policy.HasGoodStrength longer :=
  ⟨good.1, good.2.trans (Strength.estimate_mono policy.estimator grown)⟩

private theorem appliesTo_of_sublist (grown : password.Sublist longer) {violation : Violation}
    (applies : policy.AppliesTo longer violation) : policy.AppliesTo password violation := by
  have weaker : ¬ policy.HasGoodStrength longer → ¬ policy.HasGoodStrength password :=
    mt (policy.hasGoodStrength_of_sublist grown)
  cases violation with
  | expired => exact applies.imp_left weaker
  | _ => exact weaker applies

private theorem countP_met_mono (grown : password.Sublist longer) (rules : List (Rule Count)) :
    (rules.countP fun rule => rule.count.toNat ≤ password.countP rule.kind.holds) ≤
      rules.countP fun rule => rule.count.toNat ≤ longer.countP rule.kind.holds := by
  apply List.countP_mono_left
  intro rule _ met
  have more : password.countP rule.kind.holds ≤ longer.countP rule.kind.holds := grown.countP_le
  simp only [decide_eq_true_eq] at met ⊢
  exact met.trans more

private theorem isBrokenBy_of_sublist (grown : password.Sublist longer) {changed : Option Moment}
    {now : Moment} {violation : Violation} (shortage : violation ∈ Violation.shortages)
    (broken : policy.IsBrokenBy changed now longer violation) :
    policy.IsBrokenBy changed now password violation := by
  have length := grown.length_le
  simp only [Violation.shortages, List.mem_cons, List.not_mem_nil, or_false] at shortage
  rcases shortage with rfl | rfl | rfl
  case inl => exact length.trans_lt broken
  case inr.inl => exact (countP_met_mono grown policy.rules).trans_lt broken
  case inr.inr =>
    obtain ⟨moment, member, graceless, late⟩ := broken
    refine ⟨moment, member, ?_, late⟩
    rintro ⟨given, long⟩
    exact graceless ⟨given, long.trans length⟩

/-- A password that arises from another by adding characters, wherever they are put, is reported for
no shortage that the other is not reported for, and is exempt if the other is. This holds for each
estimator and whether or not exempt passwords expire. -/
theorem adding_characters_adds_no_shortage (policy : Policy) (clock : Moment) (context : Context)
    (password longer : Text) (dated : context.HasUniversalForms clock)
    (grown : password.Sublist longer) :
    ∃ found foundLonger, policy.evaluate clock context password = .ok found ∧
      policy.evaluate clock context longer = .ok foundLonger ∧
      (∀ violation ∈ Violation.shortages, violation ∈ foundLonger → violation ∈ found) ∧
      (policy.isExempt password = true → policy.isExempt longer = true) := by
  have run := policy.evaluate_eq_reported clock context password dated
  have runLonger := policy.evaluate_eq_reported clock context longer dated
  refine ⟨_, _, run, runLonger, ?_, ?_⟩
  · intro violation shortage reported
    rw [policy.mem_iff_of_evaluate_eq_ok runLonger] at reported
    rw [policy.mem_iff_of_evaluate_eq_ok run]
    obtain ⟨required, applies, broken⟩ := reported
    exact ⟨required, policy.appliesTo_of_sublist grown applies,
      policy.isBrokenBy_of_sublist grown shortage broken⟩
  · rw [isExempt_iff, isExempt_iff]
    exact policy.hasGoodStrength_of_sublist grown

theorem adding_characters_adds_no_shortage_oneDay :
    let changed : Moment := ⟨2 * Moment.microsPerDay, some (-3600000000), by decide, by decide⟩
    let clock : Moment := ⟨58 * Moment.microsPerDay, none, by decide, by simp⟩
    Context.HasUniversalForms ⟨some changed, none⟩ clock ∧
      List.Sublist "AB".toList "1A??B ".toList ∧
      ∃ found foundLonger, oneDay.evaluate clock ⟨some changed, none⟩ "AB" = .ok found ∧
        oneDay.evaluate clock ⟨some changed, none⟩ "1A??B " = .ok foundLonger ∧
        (∀ violation ∈ Violation.shortages, violation ∈ foundLonger → violation ∈ found) ∧
        (oneDay.isExempt "AB" = true → oneDay.isExempt "1A??B " = true) := by
  intro changed clock
  have dated : Context.HasUniversalForms ⟨some changed, none⟩ clock :=
    Context.hasUniversalForms_of_changed (by decide) (by decide)
  have grown : List.Sublist "AB".toList "1A??B ".toList := by decide
  exact ⟨dated, grown, adding_characters_adds_no_shortage oneDay clock ⟨some changed, none⟩ "AB"
    "1A??B " dated grown⟩

end Policy
end PasswordAudit
