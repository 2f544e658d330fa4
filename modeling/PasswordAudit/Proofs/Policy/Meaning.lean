import PasswordAudit.Evaluation
import PasswordAudit.Proofs.Strength
import PasswordAudit.Proofs.Time.Moment

/-! What a policy asks of a password, for each kind of violation apart: whether the policy has such
a requirement at all, whether it applies to the password, and whether the password breaks it. These
judgments know neither checks nor the order in which they run. -/
namespace PasswordAudit

def Context.HasUniversalForms (context : Context) (clock : Moment) : Prop :=
  (∀ changed ∈ context.changed, changed.HasUniversalForm) ∧
    (context.now.getD clock).HasUniversalForm

theorem Context.hasUniversalForms_of_changed {changed clock : Moment}
    (earlier : changed.HasUniversalForm) (current : clock.HasUniversalForm) :
    Context.HasUniversalForms ⟨some changed, none⟩ clock :=
  ⟨fun _ same => Option.some.inj same ▸ earlier, current⟩

namespace Policy

def HasGoodStrength (policy : Policy) (password : Text) : Prop :=
  0 < policy.goodStrength.toNat ∧
    (policy.goodStrength.toNat : ℚ) ≤ Strength.estimate policy.estimator password

/-- The requirement is switched on. -/
def Requires (policy : Policy) : Violation → Prop
  | .tooShort => 0 < policy.minLength.toNat
  | .tooLong => 0 < policy.maxLength.toNat
  | .insufficientCharacteristics => 0 < policy.minCharacteristics.toNat
  | .repeatedCharacters => policy.maxRepeating ≠ none
  | .dictionaryMatch => policy.lexicon.words ≠ []
  | .expired => 0 < policy.expirationDays.toNat

/-- A password of good strength is exempt, from expiry only if the policy does not say otherwise. -/
def AppliesTo (policy : Policy) (password : Text) : Violation → Prop
  | .expired => ¬ policy.HasGoodStrength password ∨ policy.expirationOverrides.holds = true
  | _ => ¬ policy.HasGoodStrength password

/-- How a password breaks a requirement. A run counts only if it is of a character that is not
blank. A password expires once a day more than allowed has passed in full, unless it is long enough
for grace. -/
def IsBrokenBy (policy : Policy) (changed : Option Moment) (now : Moment) (password : Text) :
    Violation → Prop
  | .tooShort => password.length < policy.minLength.toNat
  | .tooLong => policy.maxLength.toNat < password.length
  | .insufficientCharacteristics =>
    (policy.rules.countP fun rule => rule.count.toNat ≤ password.countP rule.kind.holds) <
      policy.minCharacteristics.toNat
  | .repeatedCharacters =>
    ∃ limit ∈ policy.maxRepeating, ∃ c, Text.isBlank c = false ∧
      List.replicate (limit.toNat + 1) c <:+: password
  | .dictionaryMatch =>
    if policy.substringMatch.holds = true then
      ∃ word ∈ policy.lexicon.words, word <:+: normalize policy.lexicon.caseSensitive password
    else normalize policy.lexicon.caseSensitive password ∈ policy.lexicon.words
  | .expired =>
    ∃ moment ∈ changed, ¬ (0 < policy.graceLength.toNat ∧
        policy.graceLength.toNat ≤ password.length) ∧
      (policy.expirationDays.toNat + 1) * (Moment.microsPerDay : Int) ≤
        now.instant - moment.instant

theorem isExempt_iff (policy : Policy) (password : Text) :
    policy.isExempt password = true ↔ policy.HasGoodStrength password := by
  simp only [isExempt, HasGoodStrength, Bool.and_eq_true, Bool.not_eq_true', Strength.reaches_iff]
  simp [Count.isZero, Nat.pos_iff_ne_zero]

end Policy
end PasswordAudit
