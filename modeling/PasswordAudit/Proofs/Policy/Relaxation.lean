import PasswordAudit.Proofs.Evaluation

/-! Relaxing a policy. The comparison is made field by field, as each field is meant: a least value
may fall and a limit may rise, zero switches a limit off, and a threshold of strength that falls
exempts more passwords. Whatever the relaxed policy then requires, applies and finds broken, the
strict one does as well, so relaxing adds no violation to an evaluation. -/
namespace PasswordAudit

/-- A limit is at least as loose as another. Zero is no limit, and nothing else is as loose. -/
def Count.Loosens (loose tight : Count) : Prop :=
  loose.toNat = 0 ∨ 0 < tight.toNat ∧ tight.toNat ≤ loose.toNat

instance (loose tight : Count) : Decidable (loose.Loosens tight) :=
  inferInstanceAs (Decidable (_ ∨ _ ∧ _))

private theorem Count.loosens_iff (loose tight : Count) :
    loose.Loosens tight ↔ ∀ amount, 0 < loose.toNat ∧ loose.toNat < amount →
      0 < tight.toNat ∧ tight.toNat < amount := by
  constructor
  · rintro (off | ⟨positive, le⟩) amount ⟨given, more⟩
    · omega
    · exact ⟨positive, by omega⟩
  · intro less
    by_cases off : loose.toNat = 0
    · exact .inl off
    · obtain ⟨positive, below⟩ := less (loose.toNat + 1) (by omega)
      exact .inr ⟨positive, by omega⟩

-- A limit where there was none is no relaxation, however large it is.
example : ¬ Count.Loosens (.number 1000) (.number 0) := by decide

namespace Policy

/-- Field by field, one policy is at least as lax as another. -/
structure Relaxes (lax strict : Policy) : Prop where
  minLength : lax.minLength.toNat ≤ strict.minLength.toNat
  maxLength : lax.maxLength.Loosens strict.maxLength
  rules : List.Forall₂ (fun loose tight : Rule Count =>
    loose.kind = tight.kind ∧ loose.count.toNat ≤ tight.count.toNat) lax.rules strict.rules
  minCharacteristics : lax.minCharacteristics.toNat ≤ strict.minCharacteristics.toNat
  maxRepeating : ∀ loose ∈ lax.maxRepeating, ∃ tight ∈ strict.maxRepeating,
    tight.toNat ≤ loose.toNat
  words : ∀ word ∈ lax.lexicon.words, word ∈ strict.lexicon.words
  caseSensitive : lax.lexicon.caseSensitive = strict.lexicon.caseSensitive
  substringMatch : lax.substringMatch.holds = true → strict.substringMatch.holds = true
  strength :
    (lax.estimator = strict.estimator ∧ lax.goodStrength.toNat = strict.goodStrength.toNat) ∨
    strict.goodStrength.toNat = 0 ∨
    (lax.estimator = .length ∧ strict.estimator = .length ∧ 0 < lax.goodStrength.toNat ∧
      lax.goodStrength.toNat ≤ strict.goodStrength.toNat)
  expirationDays : lax.expirationDays.Loosens strict.expirationDays
  graceLength :
    lax.graceLength.toNat = strict.graceLength.toNat ∨ strict.graceLength.toNat = 0 ∨
    (0 < lax.graceLength.toNat ∧ lax.graceLength.toNat ≤ strict.graceLength.toNat)
  expirationOverrides :
    lax.expirationOverrides.holds = true → strict.expirationOverrides.holds = true

variable {lax strict : Policy}

/-- A strength that exempts from the strict policy exempts from the lax one. -/
private theorem Relaxes.hasGoodStrength (relaxed : lax.Relaxes strict) {password : Text}
    (good : strict.HasGoodStrength password) : lax.HasGoodStrength password := by
  obtain ⟨positive, reached⟩ := good
  rcases relaxed.strength with ⟨estimator, threshold⟩ | off | ⟨loose, tight, some, lower⟩
  · rw [HasGoodStrength, estimator, threshold]
    exact ⟨positive, reached⟩
  · omega
  · rw [tight] at reached
    refine ⟨some, ?_⟩
    rw [loose]
    exact le_trans (Nat.cast_le.2 lower) reached

private theorem Relaxes.appliesTo (relaxed : lax.Relaxes strict) {password : Text}
    {violation : Violation}
    (applies : lax.AppliesTo password violation) : strict.AppliesTo password violation := by
  have weaker : ¬ lax.HasGoodStrength password → ¬ strict.HasGoodStrength password :=
    mt relaxed.hasGoodStrength
  cases violation with
  | expired => exact applies.imp weaker relaxed.expirationOverrides
  | _ => exact weaker applies

/-- Lower counts are met by at least as many rules. -/
private theorem countP_met_le {loose tight : List (Rule Count)}
    (lower : List.Forall₂ (fun loose tight : Rule Count =>
      loose.kind = tight.kind ∧ loose.count.toNat ≤ tight.count.toNat) loose tight)
    (password : Text) :
    (tight.countP fun rule => rule.count.toNat ≤ password.countP rule.kind.holds) ≤
      loose.countP fun rule => rule.count.toNat ≤ password.countP rule.kind.holds := by
  induction lower with
  | nil => exact Nat.le_refl _
  | @cons first second _ _ pair _ ih =>
    obtain ⟨kind, count⟩ := pair
    rw [List.countP_cons, List.countP_cons, kind]
    by_cases met : second.count.toNat ≤ password.countP second.kind.holds
    · have also := count.trans met
      simp only [met, also, decide_true, if_true]
      omega
    · simp only [met, decide_false, Bool.false_eq_true, if_false]
      omega

private theorem replicate_isInfix_of_le {shorter longer : Nat} (le : shorter ≤ longer) (c : Char) :
    List.replicate shorter c <:+: List.replicate longer c := by
  rw [List.infix_replicate_iff, List.length_replicate]
  exact ⟨le, rfl⟩

/-- An exact word is held as well, so looking for words inside is the stricter way to use them. -/
private theorem Relaxes.findsWord (relaxed : lax.Relaxes strict) {changed : Option Moment}
    {now : Moment}
    {password : Text} (broken : lax.IsBrokenBy changed now password .dictionaryMatch) :
    ∃ word ∈ strict.lexicon.words, strict.IsBrokenBy changed now password .dictionaryMatch := by
  have listed := relaxed.words
  simp only [IsBrokenBy, relaxed.caseSensitive] at broken ⊢
  cases mode : lax.substringMatch.holds with
  | true =>
    rw [if_pos mode] at broken
    obtain ⟨word, member, inside⟩ := broken
    refine ⟨word, listed word member, ?_⟩
    rw [if_pos (relaxed.substringMatch mode)]
    exact ⟨word, listed word member, inside⟩
  | false =>
    rw [if_neg (by simp [mode])] at broken
    refine ⟨_, listed _ broken, ?_⟩
    split
    · exact ⟨_, listed _ broken, List.infix_rfl⟩
    · exact listed _ broken

theorem Relaxes.expires (relaxed : lax.Relaxes strict) {changed : Option Moment} {now : Moment}
    {password : Text} (required : lax.Requires .expired)
    (broken : lax.IsBrokenBy changed now password .expired) :
    strict.Requires .expired ∧ strict.IsBrokenBy changed now password .expired := by
  obtain ⟨moment, member, graceless, late⟩ := broken
  simp only [Requires] at required ⊢
  rcases relaxed.expirationDays with off | ⟨positive, sooner⟩
  · omega
  · refine ⟨positive, moment, member, ?_, ?_⟩
    · rintro ⟨given, long⟩
      rcases relaxed.graceLength with same | none | ⟨positive, shorter⟩
      · rw [← same] at given long
        exact graceless ⟨given, long⟩
      · omega
      · exact graceless ⟨positive, shorter.trans long⟩
    · refine le_trans ?_ late
      have days : (strict.expirationDays.toNat : Int) + 1 ≤ lax.expirationDays.toNat + 1 := by omega
      exact Int.mul_le_mul_of_nonneg_right days (Int.natCast_nonneg _)

private theorem Relaxes.isBrokenBy (relaxed : lax.Relaxes strict) {changed : Option Moment}
    {now : Moment} {password : Text} {violation : Violation} (required : lax.Requires violation)
    (broken : lax.IsBrokenBy changed now password violation) :
    strict.Requires violation ∧ strict.IsBrokenBy changed now password violation := by
  cases violation with
  | tooShort =>
    have lower := relaxed.minLength
    simp only [Requires, IsBrokenBy] at required broken ⊢
    omega
  | tooLong => exact (Count.loosens_iff _ _).1 relaxed.maxLength _ ⟨required, broken⟩
  | insufficientCharacteristics =>
    have fewer := relaxed.minCharacteristics
    have met := countP_met_le relaxed.rules password
    simp only [Requires, IsBrokenBy] at required broken ⊢
    omega
  | repeatedCharacters =>
    obtain ⟨loose, member, c, inked, inside⟩ := broken
    obtain ⟨tight, limited, lower⟩ := relaxed.maxRepeating loose member
    have shorter := replicate_isInfix_of_le (Nat.succ_le_succ lower) c
    refine ⟨?_, tight, limited, c, inked, shorter.trans inside⟩
    rintro none
    rw [none] at limited
    cases limited
  | dictionaryMatch =>
    obtain ⟨word, member, held⟩ := relaxed.findsWord broken
    exact ⟨List.ne_nil_of_mem member, held⟩
  | expired => exact relaxed.expires required broken

/-- As long as the times can be told in universal time, what a relaxed policy reports of a password
is, in order, a part of what the strict policy reports. -/
theorem relaxing_adds_no_violation (lax strict : Policy) (relaxed : lax.Relaxes strict)
    (clock : Moment) (context : Context) (password : Text)
    (dated : context.HasUniversalForms clock) :
    ∃ fewer more, lax.evaluate clock context password = .ok fewer ∧
      strict.evaluate clock context password = .ok more ∧ fewer.Sublist more := by
  refine ⟨_, _, lax.evaluate_eq_reported clock context password dated,
    strict.evaluate_eq_reported clock context password dated, ?_⟩
  apply List.monotone_filter_right
  intro violation reported
  rw [any_fails_guardFor?_iff _ password dated.1 dated.2] at reported ⊢
  obtain ⟨required, applies, broken⟩ := reported
  obtain ⟨alsoRequired, alsoBroken⟩ := relaxed.isBrokenBy required broken
  exact ⟨alsoRequired, relaxed.appliesTo applies, alsoBroken⟩

theorem relaxing_adds_no_violation_oneDay :
    let lax : Policy := { oneDay with
      minLength := .flag true
      maxLength := .number 0
      lengths_le := .inl rfl
      substringMatch := .null
      goodStrength := .number 12
      expirationDays := .number 30 }
    let changed : Moment := ⟨2 * Moment.microsPerDay, some (-3600000000), by decide, by decide⟩
    let clock : Moment := ⟨5 * Moment.microsPerDay, none, by decide, by simp⟩
    lax.Relaxes oneDay ∧ Context.HasUniversalForms ⟨some changed, none⟩ clock ∧
      ∃ fewer more, lax.evaluate clock ⟨some changed, none⟩ "xAB" = .ok fewer ∧
        oneDay.evaluate clock ⟨some changed, none⟩ "xAB" = .ok more ∧ fewer.Sublist more := by
  intro lax changed clock
  have relaxed : lax.Relaxes oneDay := {
    minLength := by decide
    maxLength := by decide
    rules := .cons ⟨rfl, Nat.le_refl 1⟩ (.cons ⟨rfl, Nat.le_refl 1⟩ .nil)
    minCharacteristics := Nat.le_refl 2
    maxRepeating := fun _ unlimited => by cases unlimited
    words := fun _ member => member
    caseSensitive := rfl
    substringMatch := fun _ => rfl
    strength := .inr (.inr ⟨rfl, rfl, by decide, by decide⟩)
    expirationDays := by decide
    graceLength := .inl rfl
    expirationOverrides := fun overrides => overrides }
  have dated : Context.HasUniversalForms ⟨some changed, none⟩ clock := by
    constructor
    · intro moment same
      cases same
      decide
    · decide
  exact ⟨relaxed, dated,
    relaxing_adds_no_violation lax oneDay relaxed clock ⟨some changed, none⟩ "xAB" dated⟩

end Policy
end PasswordAudit
