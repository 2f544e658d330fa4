import PasswordAudit.Policy.Draft
import PasswordAudit.Proofs.Except

/-! Drafts against policies. A draft is accepted just if it describes a policy, and then that policy
is the one that it gives: a check takes every field as it is given and changes none. -/
namespace PasswordAudit

theorem Count.ofValue?_eq_some_iff (value : Value) (count : Count) :
    Count.ofValue? value = some count ↔ value = count.toValue := by
  constructor
  · intro counted
    cases value with
    | int n =>
      obtain ⟨natural, same⟩ := Option.ite_none_left_eq_some.1 counted
      cases same
      have whole : (n.toNat : Int) = n := by omega
      rw [Count.toValue, whole]
    | flag b =>
      cases counted
      rfl
    | _ => cases counted
  · rintro rfl
    cases count with
    | number n => simp [Count.toValue, Count.ofValue?]
    | flag b => rfl

namespace Draft

theorem readEstimator_eq_ok_iff (value : Value) (estimator : Estimator) :
    readEstimator value = .ok estimator ↔ value = .text estimator.name := by
  constructor
  · intro run
    unfold readEstimator at run
    split at run
    · next name =>
      split at run
      · next found =>
        cases run
        have same := List.find?_some found
        rw [beq_iff_eq] at same
        rw [same]
      · cases run
    · cases run
  · rintro rfl
    cases estimator <;> rfl

theorem readCount_eq_ok_iff (field : Policy.Field) (value : Value) (count : Count) :
    readCount field value = .ok count ↔ value = count.toValue := by
  rw [← Count.ofValue?_eq_some_iff]
  cases value with
  | int n => by_cases negative : n < 0 <;> simp [readCount, Count.ofValue?, negative]
  | flag b => simp [readCount, Count.ofValue?]
  | _ => simp [readCount, Count.ofValue?]

theorem readRules_eq_some_iff (rules : List (Rule Value)) (counted : List (Rule Count)) :
    readRules rules = some counted ↔ rules = counted.map (Rule.map Count.toValue) := by
  induction rules generalizing counted with
  | nil =>
    rw [readRules, Option.some.injEq, List.nil_eq, List.nil_eq, List.map_eq_nil_iff]
  | cons rule rest ih =>
    simp only [readRules, readRule, Option.bind_eq_bind, Option.bind_eq_some_iff,
      Option.map_eq_some_iff, Count.ofValue?_eq_some_iff, ih, Option.pure_def, Option.some.injEq]
    constructor
    · rintro ⟨_, ⟨count, same, rfl⟩, others, rfl, rfl⟩
      rw [List.map_cons, Rule.map, ← same]
    · intro same
      cases counted with
      | nil => cases same
      | cons first others =>
        rw [List.map_cons, List.cons.injEq] at same
        obtain ⟨rfl, rfl⟩ := same
        exact ⟨_, ⟨first.count, rfl, rfl⟩, others, rfl, rfl⟩

theorem readRepetition_eq_some_iff (value : Value)
    (limit : { limit : Option Count // ∀ n ∈ limit, 1 ≤ n.toNat }) :
    readRepetition value = some limit ↔ value = (limit.1.map Count.toValue).getD .null := by
  obtain ⟨limit, positive⟩ := limit
  constructor
  · intro run
    unfold readRepetition at run
    split at run
    · cases run
      rfl
    · split at run
      · cases run
      · next count counted =>
        split at run
        · cases run
          exact (Count.ofValue?_eq_some_iff value count).1 counted
        · cases run
  · rintro rfl
    cases limit with
    | none => rfl
    | some count =>
      have counted := (Count.ofValue?_eq_some_iff count.toValue count).2 rfl
      have one := positive count rfl
      cases count <;> simp_all [readRepetition, Count.toValue]

theorem check_eq_ok_iff (draft : Draft) (policy : Policy) :
    draft.check = .ok policy ↔ draft = policy.toDraft := by
  constructor
  · intro run
    simp only [check, Except.bind_eq_ok_iff, readEstimator_eq_ok_iff, readCount_eq_ok_iff] at run
    obtain ⟨estimator, named, minLength, least, maxLength, most, minCharacteristics, needed,
      goodStrength, strong, expirationDays, days, graceLength, grace, run⟩ := run
    split at run
    case isFalse => cases run
    split at run
    case isFalse => cases run
    split at run
    case h_1 => cases run
    case h_2 rules counted =>
      split at run
      case h_1 => cases run
      case h_2 limit positive repetition =>
        cases run
        have rulesSame := (readRules_eq_some_iff _ _).1 counted
        have limitSame := (readRepetition_eq_some_iff _ _).1 repetition
        obtain ⟨_, _, _, _, _, _, _, _, _, _, _, _⟩ := draft
        simp only at named least most needed strong days grace rulesSame limitSame
        simp only [Policy.toDraft, named, least, most, needed, strong, days, grace, rulesSame,
          limitSame]
  · rintro rfl
    have counted : readRules policy.toDraft.rules = some policy.rules :=
      (readRules_eq_some_iff _ _).2 rfl
    have repetition : readRepetition policy.toDraft.maxRepeating =
        some ⟨policy.maxRepeating, policy.repeating_pos⟩ :=
      (readRepetition_eq_some_iff _ _).2 rfl
    have characteristics : policy.minCharacteristics.toNat ≤ policy.toDraft.rules.length := by
      simpa [Policy.toDraft] using policy.characteristics_le
    simp only [check, Except.bind_eq_ok_iff, readEstimator_eq_ok_iff, readCount_eq_ok_iff]
    refine ⟨_, rfl, _, rfl, _, rfl, _, rfl, _, rfl, _, rfl, _, rfl, ?_⟩
    rw [dif_pos policy.lengths_le, dif_pos characteristics]
    split
    · next missing => cases counted.symm.trans missing
    · next rules found =>
      cases counted.symm.trans found
      rw [repetition]
      rfl

/-- After an amendment every field has its new value, or the value that it had if none is given. -/
structure Amended (before : Draft) (changes : Changes) (after : Draft) : Prop where
  minLength : after.minLength = changes.minLength.getD before.minLength
  maxLength : after.maxLength = changes.maxLength.getD before.maxLength
  rules : after.rules = changes.rules.getD before.rules
  minCharacteristics :
    after.minCharacteristics = changes.minCharacteristics.getD before.minCharacteristics
  maxRepeating : after.maxRepeating = changes.maxRepeating.getD before.maxRepeating
  lexicon : after.lexicon = changes.lexicon.getD before.lexicon
  substringMatch : after.substringMatch = changes.substringMatch.getD before.substringMatch
  goodStrength : after.goodStrength = changes.goodStrength.getD before.goodStrength
  estimator : after.estimator = changes.estimator.getD before.estimator
  expirationDays : after.expirationDays = changes.expirationDays.getD before.expirationDays
  graceLength : after.graceLength = changes.graceLength.getD before.graceLength
  expirationOverrides :
    after.expirationOverrides = changes.expirationOverrides.getD before.expirationOverrides

theorem override_amended (draft : Draft) (changes : Changes) :
    draft.Amended changes (draft.override changes) := by
  constructor <;> rfl

theorem Amended.eq_override {before after : Draft} {changes : Changes}
    (amended : before.Amended changes after) : after = before.override changes := by
  obtain ⟨_, _, _, _, _, _, _, _, _, _, _, _⟩ := after
  obtain ⟨rfl, rfl, rfl, rfl, rfl, rfl, rfl, rfl, rfl, rfl, rfl, rfl⟩ := amended
  rfl

theorem amended_iff (before after : Draft) (changes : Changes) :
    before.Amended changes after ↔ after = before.override changes :=
  ⟨Amended.eq_override, fun same => same ▸ before.override_amended changes⟩

@[simp] theorem override_blank (draft : Draft) : draft.override {} = draft := rfl

theorem override_override (draft : Draft) (changes : Changes) :
    (draft.override changes).override changes = draft.override changes := by
  have again {α : Type} (given : Option α) (value : α) :
      given.getD (given.getD value) = given.getD value := by
    cases given <;> rfl
  simp only [override, again]

end Draft
end PasswordAudit
