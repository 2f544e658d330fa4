import PasswordAudit.Proofs.Rule.RoundTrip
import PasswordAudit.Proofs.Settings.Policy
import PasswordAudit.Proofs.Settings.Reading

/-! Settings that are read against the policy that is made of them. Reading leaves nothing that
could be wrong with one field of the draft, so what remains are rules that cannot be read and
fields that do not fit each other. Without these obstacles the policy carries every setting into
the field named after it. -/
namespace PasswordAudit

/-- Whether the fault lies in one field, whatever the others hold. -/
def Policy.Fault.isOfOneField : Policy.Fault → Bool
  | .unknownEstimator _ => true
  | .notInteger _ _ => true
  | .negative _ => true
  | .invalidRuleCount => true
  | .invalidRepetition => true
  | .lengthsCrossed => false
  | .tooManyCharacteristics _ _ => false

private theorem Rule.ne_nil_of_readOrDefault {text : Text} {rules : List (Rule Nat)}
    (readable : readOrDefault (some text) = .ok rules) : rules ≠ [] := by
  rw [readOrDefault] at readable
  split at readable
  · cases readable
    decide
  · exact ne_nil_of_read readable

namespace Settings

variable (settings : Settings)

def HasCrossedLengths : Prop := 0 < settings.maxLength ∧ settings.maxLength < settings.minLength

private theorem hasOrderedLengths_iff :
    settings.HasOrderedLengths ↔ ¬ settings.HasCrossedLengths := by
  unfold HasOrderedLengths HasCrossedLengths
  omega

/-- What keeps settings from giving a policy: the rules first, then the lengths, then how many of
the rules have to be met. -/
inductive Obstacle : Failure → Prop
  | rules {fault : Rule.Fault}
      (unread : Rule.readOrDefault (some settings.characterRules) = .error fault) :
      Obstacle (.rules fault)
  | lengths {rules : List (Rule Nat)}
      (readable : Rule.readOrDefault (some settings.characterRules) = .ok rules)
      (crossed : settings.HasCrossedLengths) :
      Obstacle (.policy .lengthsCrossed)
  | characteristics {rules : List (Rule Nat)}
      (readable : Rule.readOrDefault (some settings.characterRules) = .ok rules)
      (uncrossed : ¬ settings.HasCrossedLengths)
      (exceeds : rules.length < settings.minCharacteristics) :
      Obstacle (.policy
        (.tooManyCharacteristics (.number settings.minCharacteristics) rules.length))

private theorem isOfOneField_eq_false_of_check_draft {rules : List (Rule Nat)} {lexicon : Lexicon}
    {fault : Policy.Fault} (refused : (settings.draft rules lexicon).check = .error fault) :
    fault.isOfOneField = false := by
  rcases (settings.check_draft_eq_error_iff rules lexicon fault).1 refused with
    ⟨_, rfl⟩ | ⟨_, _, rfl⟩ <;> rfl

private theorem policyWith_eq_error_iff_obstacle (lexicon : Lexicon) (failure : Failure) :
    settings.policyWith lexicon = .error failure ↔ settings.Obstacle failure := by
  simp only [policyWith_eq_error_iff, check_draft_eq_error_iff, hasOrderedLengths_iff, not_not]
  constructor
  · rintro (⟨fault, unread, rfl⟩ |
      ⟨rules, readable, _, ⟨crossed, rfl⟩ | ⟨uncrossed, exceeds, rfl⟩, rfl⟩)
    · exact .rules unread
    · exact .lengths readable crossed
    · exact .characteristics readable uncrossed exceeds
  · intro obstacle
    cases obstacle with
    | rules unread => exact .inl ⟨_, unread, rfl⟩
    | lengths readable crossed => exact .inr ⟨_, readable, _, .inl ⟨crossed, rfl⟩, rfl⟩
    | characteristics readable uncrossed exceeds =>
      exact .inr ⟨_, readable, _, .inr ⟨uncrossed, exceeds, rfl⟩, rfl⟩

private theorem exists_obstacle_iff :
    (∃ failure, settings.Obstacle failure) ↔
      (∃ fault, Rule.readOrDefault (some settings.characterRules) = .error fault) ∨
      settings.HasCrossedLengths ∨
      ∃ rules, Rule.readOrDefault (some settings.characterRules) = .ok rules ∧
        rules.length < settings.minCharacteristics := by
  constructor
  · rintro ⟨_, obstacle⟩
    cases obstacle with
    | rules unread => exact .inl ⟨_, unread⟩
    | lengths _ crossed => exact .inr (.inl crossed)
    | characteristics readable _ exceeds => exact .inr (.inr ⟨_, readable, exceeds⟩)
  -- Whichever condition is met, one that comes before it is the obstacle if it is met too.
  · cases outcome : Rule.readOrDefault (some settings.characterRules) with
    | error fault => exact fun _ => ⟨_, .rules outcome⟩
    | ok rules =>
      by_cases crossed : settings.HasCrossedLengths
      · exact fun _ => ⟨_, .lengths outcome crossed⟩
      · rintro (⟨fault, unread⟩ | crossed' | ⟨_, same, exceeds⟩)
        · cases unread
        · exact absurd crossed' crossed
        · cases same
          exact ⟨_, .characteristics outcome crossed exceeds⟩

/-- The policy has every setting in the field named after it, with the rules that were read and the
lexicon that was given. -/
structure Carries (rules : List (Rule Nat)) (lexicon : Lexicon) (policy : Policy) : Prop where
  minLength : policy.minLength = .number settings.minLength
  maxLength : policy.maxLength = .number settings.maxLength
  rules : policy.rules = rules.map (Rule.map Count.number)
  minCharacteristics : policy.minCharacteristics = .number settings.minCharacteristics
  maxRepeating : policy.maxRepeating = settings.maxRepeating.map Count.number
  lexicon : policy.lexicon = lexicon
  substringMatch : policy.substringMatch = .flag settings.substringMatch
  goodStrength : policy.goodStrength = .number settings.goodStrength
  estimator : policy.estimator = settings.estimator
  expirationDays : policy.expirationDays = .number settings.expirationDays
  graceLength : policy.graceLength = .number settings.graceLength
  expirationOverrides : policy.expirationOverrides = .flag settings.expirationOverrides

private theorem carries_described (rules : List (Rule Nat)) (lexicon : Lexicon)
    (ordered : settings.HasOrderedLengths) (enough : settings.minCharacteristics ≤ rules.length) :
    settings.Carries rules lexicon (settings.described rules lexicon ordered enough) :=
  ⟨rfl, rfl, rfl, rfl, rfl, rfl, rfl, rfl, rfl, rfl, rfl, rfl⟩

private theorem check_draft_eq_ok_iff (rules : List (Rule Nat)) (lexicon : Lexicon)
    (policy : Policy) :
    (settings.draft rules lexicon).check = .ok policy ↔ settings.Carries rules lexicon policy := by
  constructor
  · intro accepted
    have faultless : ∀ fault, (settings.draft rules lexicon).check ≠ .error fault := by
      intro fault refused
      cases accepted.symm.trans refused
    simp only [ne_eq, check_draft_eq_error_iff, not_or, not_and] at faultless
    by_cases ordered : settings.HasOrderedLengths
    · have enough : settings.minCharacteristics ≤ rules.length :=
        Nat.le_of_not_lt fun exceeds => (faultless _).2 ordered exceeds rfl
      rw [settings.check_draft_of_ordered rules lexicon ordered enough] at accepted
      cases accepted
      exact settings.carries_described rules lexicon ordered enough
    · exact absurd rfl ((faultless _).1 ordered)
  · intro carries
    rw [Draft.check_eq_ok_iff]
    simp only [Policy.toDraft, draft, carries.minLength, carries.maxLength, carries.rules,
      carries.minCharacteristics, carries.maxRepeating, carries.lexicon, carries.substringMatch,
      carries.goodStrength, carries.estimator, carries.expirationDays, carries.graceLength,
      carries.expirationOverrides, List.map_map, Option.map_map]
    rfl

private theorem policyWith_eq_ok_iff (lexicon : Lexicon) (policy : Policy) :
    settings.policyWith lexicon = .ok policy ↔
      ∃ rules, Rule.readOrDefault (some settings.characterRules) = .ok rules ∧
        settings.Carries rules lexicon policy := by
  rw [policyWith, Except.bind_eq_ok_iff]
  simp only [Except.mapError_eq_ok_iff, check_draft_eq_ok_iff]

/-- Settings agree with the policies they describe. Each setting is what the source gives under its
name. With any lexicon they fail to give a policy just if the rules cannot be read, or the lengths
cross, or more rules have to be met than there are, and the first of these is what is told; no fault
of a single field is ever met. A policy is given just if it carries every setting, and then it has
rules. -/
theorem agree_with_policies (settings : Settings) (lexicon : Lexicon) :
    (∀ source, read source = .ok settings ↔ settings.Follows source) ∧
    ((∃ failure, settings.policyWith lexicon = .error failure) ↔
      (∃ fault, Rule.readOrDefault (some settings.characterRules) = .error fault) ∨
      (0 < settings.maxLength ∧ settings.maxLength < settings.minLength) ∨
      ∃ rules, Rule.readOrDefault (some settings.characterRules) = .ok rules ∧
        rules.length < settings.minCharacteristics) ∧
    (∀ failure, settings.policyWith lexicon = .error failure ↔ settings.Obstacle failure) ∧
    (∀ rules fault, (settings.draft rules lexicon).check = .error fault →
      fault.isOfOneField = false) ∧
    ∀ policy, (settings.policyWith lexicon = .ok policy ↔
        ∃ rules, Rule.readOrDefault (some settings.characterRules) = .ok rules ∧
          settings.Carries rules lexicon policy) ∧
      (settings.policyWith lexicon = .ok policy → policy.rules ≠ []) := by
  refine ⟨fun source => read_eq_ok_iff source settings, ?_,
    settings.policyWith_eq_error_iff_obstacle lexicon, ?_, ?_⟩
  · simp only [policyWith_eq_error_iff_obstacle]
    exact settings.exists_obstacle_iff
  · intro rules fault refused
    exact settings.isOfOneField_eq_false_of_check_draft refused
  · intro policy
    refine ⟨settings.policyWith_eq_ok_iff lexicon policy, ?_⟩
    intro given
    obtain ⟨rules, readable, carries⟩ := (settings.policyWith_eq_ok_iff lexicon policy).1 given
    rw [carries.rules, ne_eq, List.map_eq_nil_iff]
    exact Rule.ne_nil_of_readOrDefault readable

theorem agree_with_policies_threeRules :
    let source : Source := [("PASSWORD_MAX_LENGTH", .int 64),
      ("PASSWORD_CHARACTER_RULES", .text "UpperCase:1, digit : 2,Special:1"),
      ("PASSWORD_NUMBER_OF_CHARACTERISTICS", .text "3"),
      ("PASSWORD_MAX_REPEATING_CHARACTERS", .text "4")]
    let rules : List (Rule Nat) := [⟨.upperCase, 1⟩, ⟨.digit, 2⟩, ⟨.special, 1⟩]
    ∃ settings policy fault, read source = .ok settings ∧
      Rule.readOrDefault (some settings.characterRules) = .ok rules ∧
      settings.policyWith Lexicon.empty = .ok policy ∧
      settings.Carries rules Lexicon.empty policy ∧ policy.rules ≠ [] ∧
      policy.maxLength = .number 64 ∧ policy.minCharacteristics = .number 3 ∧
      policy.maxRepeating = some (.number 4) ∧
      (settings.draft [] Lexicon.empty).check = .error fault ∧ fault.isOfOneField = false := by
  intro source rules
  obtain ⟨settings, run, text, least, most, needed, limit⟩ :
      ∃ settings, read source = .ok settings ∧
        settings.characterRules = "UpperCase:1, digit : 2,Special:1".toList ∧
        settings.minLength = 6 ∧ settings.maxLength = 64 ∧ settings.minCharacteristics = 3 ∧
        settings.maxRepeating = some 4 := ⟨_, rfl, rfl, rfl, rfl, rfl, rfl⟩
  have readable : Rule.readOrDefault (some settings.characterRules) = .ok rules := by
    rw [text]
    decide +kernel
  have ordered : settings.HasOrderedLengths := .inr (by omega)
  have enough : settings.minCharacteristics ≤ rules.length := needed.le
  have carries := settings.carries_described rules Lexicon.empty ordered enough
  have refused := (settings.check_draft_eq_error_iff [] Lexicon.empty _).2
    (.inr ⟨ordered, by simp [needed], rfl⟩)
  obtain ⟨_, _, _, single, accepts⟩ := agree_with_policies settings Lexicon.empty
  have given := (accepts _).1.2 ⟨rules, readable, carries⟩
  exact ⟨settings, _, _, run, readable, given, carries, (accepts _).2 given,
    by rw [carries.maxLength, most], by rw [carries.minCharacteristics, needed],
    by rw [carries.maxRepeating, limit, Option.map_some], refused, single _ _ refused⟩

end Settings
end PasswordAudit
