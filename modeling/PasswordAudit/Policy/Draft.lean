import PasswordAudit.Policy.Basic

/-! Drafts of policies, whose fields may hold values of any kind. Checking a draft gives the policy
that it describes, or the first thing that is wrong with it: first the estimator, then the kind and
sign of each count, then what ties the fields together. -/
namespace PasswordAudit

namespace Policy

inductive Field
  | minLength
  | maxLength
  | minCharacteristics
  | goodStrength
  | expirationDays
  | graceLength
  deriving DecidableEq

def Field.name : Field → Text
  | .minLength => "min_length"
  | .maxLength => "max_length"
  | .minCharacteristics => "min_characteristics"
  | .goodStrength => "good_strength"
  | .expirationDays => "expiration_days"
  | .graceLength => "expiration_grace_length"

inductive Fault
  | unknownEstimator (value : Value)
  | notInteger (field : Field) (value : Value)
  | negative (field : Field)
  | lengthsCrossed
  | tooManyCharacteristics (wanted : Count) (rules : Nat)
  | invalidRuleCount
  | invalidRepetition

def Fault.message : Fault → Text
  | .unknownEstimator value => "Unsupported strength estimator `" ++ value.plain ++ "`"
  | .notInteger field value =>
    field.name ++ " must be an integer, got `" ++ value.literal ++ "`"
  | .negative field => field.name ++ " must not be negative"
  | .lengthsCrossed =>
    "Minimum password length must be lower or equal than maximum password length"
  | .tooManyCharacteristics wanted rules =>
    "Number of characteristics (" ++ wanted.text ++ ") exceeds number of character rules ("
      ++ Decimal.natural rules ++ ")"
  | .invalidRuleCount => "Character rule count must be a non-negative integer"
  | .invalidRepetition => "Maximum repeating characters must be an integer of at least 1"

end Policy

/-- A value is a count if it is a flag or an integer that is not negative. -/
def Count.ofValue? : Value → Option Count
  | .int n => if n < 0 then none else some (.number n.toNat)
  | .flag b => some (.flag b)
  | _ => none

structure Draft where
  minLength : Value := .int 0
  maxLength : Value := .int 0
  rules : List (Rule Value) := []
  minCharacteristics : Value := .int 0
  maxRepeating : Value := .null
  lexicon : Lexicon := Lexicon.empty
  substringMatch : Value := .flag true
  goodStrength : Value := .int 0
  estimator : Value := .text Estimator.length.name
  expirationDays : Value := .int 0
  graceLength : Value := .int 0
  expirationOverrides : Value := .flag false

namespace Draft

structure Changes where
  minLength : Option Value := none
  maxLength : Option Value := none
  rules : Option (List (Rule Value)) := none
  minCharacteristics : Option Value := none
  maxRepeating : Option Value := none
  lexicon : Option Lexicon := none
  substringMatch : Option Value := none
  goodStrength : Option Value := none
  estimator : Option Value := none
  expirationDays : Option Value := none
  graceLength : Option Value := none
  expirationOverrides : Option Value := none

def override (draft : Draft) (changes : Changes) : Draft where
  minLength := changes.minLength.getD draft.minLength
  maxLength := changes.maxLength.getD draft.maxLength
  rules := changes.rules.getD draft.rules
  minCharacteristics := changes.minCharacteristics.getD draft.minCharacteristics
  maxRepeating := changes.maxRepeating.getD draft.maxRepeating
  lexicon := changes.lexicon.getD draft.lexicon
  substringMatch := changes.substringMatch.getD draft.substringMatch
  goodStrength := changes.goodStrength.getD draft.goodStrength
  estimator := changes.estimator.getD draft.estimator
  expirationDays := changes.expirationDays.getD draft.expirationDays
  graceLength := changes.graceLength.getD draft.graceLength
  expirationOverrides := changes.expirationOverrides.getD draft.expirationOverrides

def readEstimator (value : Value) : Except Policy.Fault Estimator :=
  match value with
  | .text name => match Estimator.ofName? name with
    | some estimator => .ok estimator
    | none => .error (.unknownEstimator value)
  | _ => .error (.unknownEstimator value)

def readCount (field : Policy.Field) (value : Value) : Except Policy.Fault Count :=
  match value with
  | .int n => if n < 0 then .error (.negative field) else .ok (.number n.toNat)
  | .flag b => .ok (.flag b)
  | _ => .error (.notInteger field value)

def readRule (rule : Rule Value) : Option (Rule Count) :=
  (Count.ofValue? rule.count).map (⟨rule.kind, ·⟩)

def readRules : List (Rule Value) → Option (List (Rule Count))
  | [] => some []
  | rule :: rest => do
    let first ← readRule rule
    let others ← readRules rest
    return first :: others

private theorem readRules_length {rules : List (Rule Value)} {counted : List (Rule Count)}
    (h : readRules rules = some counted) : counted.length = rules.length := by
  induction rules generalizing counted with
  | nil => simp_all [readRules]
  | cons rule rest ih =>
    simp only [readRules, Option.bind_eq_bind, Option.bind_eq_some_iff, Option.pure_def,
      Option.some.injEq] at h
    obtain ⟨_, _, others, found, rfl⟩ := h
    simp [ih found]

/-- A limit on repetition is missing, or a count of at least one. -/
def readRepetition (value : Value) : Option { limit : Option Count // ∀ n ∈ limit, 1 ≤ n.toNat } :=
  match value with
  | .null => some ⟨none, Count.no_limit_pos⟩
  | _ => match Count.ofValue? value with
    | none => none
    | some count =>
      if h : 1 ≤ count.toNat then some ⟨some count, fun _ same => Option.some.inj same ▸ h⟩
      else none

def check (draft : Draft) : Except Policy.Fault Policy := do
  let estimator ← readEstimator draft.estimator
  let minLength ← readCount .minLength draft.minLength
  let maxLength ← readCount .maxLength draft.maxLength
  let minCharacteristics ← readCount .minCharacteristics draft.minCharacteristics
  let goodStrength ← readCount .goodStrength draft.goodStrength
  let expirationDays ← readCount .expirationDays draft.expirationDays
  let graceLength ← readCount .graceLength draft.graceLength
  if lengths : maxLength.toNat = 0 ∨ minLength.toNat ≤ maxLength.toNat then
    if characteristics : minCharacteristics.toNat ≤ draft.rules.length then
      match counted : readRules draft.rules with
      | none => .error .invalidRuleCount
      | some rules => match readRepetition draft.maxRepeating with
        | none => .error .invalidRepetition
        | some ⟨maxRepeating, repeating⟩ =>
          .ok {
            minLength, maxLength, rules, minCharacteristics, maxRepeating
            lexicon := draft.lexicon
            substringMatch := draft.substringMatch
            goodStrength, estimator, expirationDays, graceLength
            expirationOverrides := draft.expirationOverrides
            lengths_le := lengths
            characteristics_le := by rw [readRules_length counted]; exact characteristics
            repeating_pos := repeating }
    else .error (.tooManyCharacteristics minCharacteristics draft.rules.length)
  else .error .lengthsCrossed

end Draft

def Policy.toDraft (policy : Policy) : Draft where
  minLength := policy.minLength.toValue
  maxLength := policy.maxLength.toValue
  rules := policy.rules.map (Rule.map Count.toValue)
  minCharacteristics := policy.minCharacteristics.toValue
  maxRepeating := (policy.maxRepeating.map Count.toValue).getD .null
  lexicon := policy.lexicon
  substringMatch := policy.substringMatch
  goodStrength := policy.goodStrength.toValue
  estimator := .text policy.estimator.name
  expirationDays := policy.expirationDays.toValue
  graceLength := policy.graceLength.toValue
  expirationOverrides := policy.expirationOverrides

end PasswordAudit
