import PasswordAudit.Proofs.Checklist
import PasswordAudit.Proofs.Policy.Expiry

/-! What the notes in a checklist promise, against evaluation. The note on strong passwords is shown
for a least length and a threshold of strength, whatever the policy says of expiry; so an exempt
password is reported for nothing, unless the policy makes exempt passwords expire as well. The note
on long passwords is kept without exception. -/
namespace PasswordAudit.Policy
open Inspector

def exemptionWords : Text := " are exempt from all other requirements)"

def graceWords : Text := " characters do not expire)"

variable (policy : Policy)

def Tells (violated : Option (List Violation)) (words : Text) : Prop :=
  ∃ shown, policy.checklist violated = .ok shown ∧
    ∃ requirement ∈ shown, words <:+ requirement.text

private theorem tells_iff (violated : Option (List Violation)) (words : Text) :
    policy.Tells violated words ↔ policy.HasWritableCounts ∧
      ∃ violation text, policy.wording violation = .ok (some text) ∧ words <:+ text := by
  constructor
  · rintro ⟨shown, listing, requirement, member, ends⟩
    obtain ⟨texts, worded, rfl⟩ := (checklist_eq_ok_iff _ _).1 listing
    obtain ⟨⟨violation, text⟩, told, rfl⟩ := List.mem_map.1 member
    exact ⟨(exists_checklist_iff violated).1 ⟨_, listing⟩, violation, text,
      ((wording_of_mem_wordings worded).1 told).2, ends⟩
  · rintro ⟨writable, violation, text, wording, ends⟩
    obtain ⟨shown, listing⟩ := (exists_checklist_iff violated).2 writable
    refine ⟨shown, listing, ?_⟩
    obtain ⟨texts, worded, rfl⟩ := (checklist_eq_ok_iff _ _).1 listing
    have told := (wording_of_mem_wordings worded).2 ⟨violation.mem_all, wording⟩
    exact ⟨_, List.mem_map_of_mem told, ends⟩

/-- The end of a text decides whether a bracket closes it. -/
private theorem not_closed_append {ending : Text} (filled : 1 ≤ ending.length)
    (unclosed : ¬ ")".toList <:+ ending) (before : Text) : ¬ ")".toList <:+ before ++ ending :=
  fun closed => unclosed
    (List.suffix_of_suffix_length_le closed (List.suffix_append before ending) filled)

private theorem not_closed_phrase (rules : List (Rule Count)) (before : Text) :
    ¬ ")".toList <:+ before ++ Rule.phrase rules := by
  unfold Rule.phrase
  split <;> exact not_closed_append (by decide) (by decide) before

variable {policy} {text : Text}

private theorem exemptionNote_cases (noted : policy.exemptionNote = .ok text) :
    (policy.goodStrength.isZero = true ∧ text = []) ∨
      (0 < policy.goodStrength.toNat ∧ exemptionWords <:+ text) := by
  refine ((unlessZero_eq_ok_iff _ _ _ _).1 noted).imp_right ?_
  rintro ⟨enabled, _, same⟩
  refine ⟨enabled, ?_⟩
  rw [← Except.ok.inj same]
  split <;> exact List.IsSuffix.trans (by decide) (List.suffix_append _ _)

private theorem graceNote_cases (noted : policy.graceNote = .ok text) :
    (policy.graceLength.isZero = true ∧ text = []) ∨
      (0 < policy.graceLength.toNat ∧ graceWords <:+ text) := by
  refine ((unlessZero_eq_ok_iff _ _ _ _).1 noted).imp_right ?_
  rintro ⟨enabled, _, same⟩
  refine ⟨enabled, ?_⟩
  rw [← Except.ok.inj same]
  exact List.IsSuffix.trans (by decide) (List.suffix_append _ _)

private theorem noted_of_closed {violation : Violation}
    (wording : policy.wording violation = .ok (some text)) (closed : ")".toList <:+ text) :
    (0 < policy.minLength.toNat ∧ 0 < policy.goodStrength.toNat ∧ exemptionWords <:+ text) ∨
      (0 < policy.expirationDays.toNat ∧ 0 < policy.graceLength.toNat ∧ graceWords <:+ text) := by
  have required : policy.Requires violation := (isSome_wording wording).1 rfl
  cases violation with
  | tooShort =>
    obtain ⟨noted, told, rfl⟩ := exists_of_phraseUnlessZero wording
    rcases exemptionNote_cases told with ⟨_, rfl⟩ | ⟨enabled, ends⟩
    · rw [List.append_nil] at closed
      exact absurd closed (not_closed_append (by decide) (by decide) _)
    · exact .inl ⟨required, enabled, ends.trans (List.suffix_append _ _)⟩
  | tooLong =>
    obtain ⟨noted, told, rfl⟩ := exists_of_phraseUnlessZero wording
    rw [← Except.ok.inj told, List.append_nil] at closed
    exact absurd closed (not_closed_append (by decide) (by decide) _)
  | insufficientCharacteristics =>
    obtain ⟨noted, told, rfl⟩ := exists_of_phraseUnlessZero wording
    rw [← Except.ok.inj told] at closed
    exact absurd closed (not_closed_phrase policy.rules _)
  | repeatedCharacters =>
    simp only [Policy.wording] at wording
    split at wording
    · cases wording
    · obtain ⟨number, _, same⟩ := (Except.bind_eq_ok_iff _ _ _).1 wording
      cases same
      exact absurd closed (not_closed_append (by decide) (by decide) _)
  | dictionaryMatch =>
    have same := Except.ok.inj wording
    rw [Option.ite_none_right_eq_some] at same
    rw [← Option.some.inj same.2] at closed
    exact absurd closed (by decide)
  | expired =>
    obtain ⟨noted, told, rfl⟩ := exists_of_phraseUnlessZero wording
    rcases graceNote_cases told with ⟨_, rfl⟩ | ⟨enabled, ends⟩
    · rw [List.append_nil] at closed
      exact absurd closed (not_closed_append (by decide) (by decide) _)
    · exact .inr ⟨required, enabled, ends.trans (List.suffix_append _ _)⟩

/-- No line ends as both notes do. -/
private theorem notes_apart {text : Text} (exemption : exemptionWords <:+ text) :
    ¬ graceWords <:+ text := fun grace =>
  absurd (List.suffix_of_suffix_length_le grace exemption (by decide)) (by decide)

private theorem exists_wording (writable : policy.HasWritableCounts) {violation : Violation}
    (required : policy.Requires violation) :
    ∃ text, policy.wording violation = .ok (some text) := by
  obtain ⟨wording?, worded⟩ := policy.forall_exists_wording_iff.2 writable violation
  obtain ⟨text, rfl⟩ := Option.isSome_iff_exists.1 ((isSome_wording worded).2 required)
  exact ⟨text, worded⟩

variable (policy)

private theorem tells_exemption_iff (violated : Option (List Violation)) :
    policy.Tells violated exemptionWords ↔ policy.HasWritableCounts ∧
      0 < policy.minLength.toNat ∧ 0 < policy.goodStrength.toNat := by
  rw [tells_iff]
  refine and_congr_right fun writable => ⟨?_, ?_⟩
  · rintro ⟨violation, text, wording, ends⟩
    rcases noted_of_closed wording (.trans (by decide) ends) with
      ⟨length, strength, _⟩ | ⟨_, _, grace⟩
    · exact ⟨length, strength⟩
    · exact absurd grace (notes_apart ends)
  · rintro ⟨length, strength⟩
    obtain ⟨text, wording⟩ :=
      exists_wording writable (show policy.Requires .tooShort from length)
    obtain ⟨noted, told, rfl⟩ := exists_of_phraseUnlessZero wording
    rcases exemptionNote_cases told with ⟨zero, _⟩ | ⟨_, ends⟩
    · cases zero.symm.trans ((Count.isZero_eq_false_iff _).2 strength)
    · exact ⟨.tooShort, _, wording, ends.trans (List.suffix_append _ _)⟩

private theorem tells_grace_iff (violated : Option (List Violation)) :
    policy.Tells violated graceWords ↔ policy.HasWritableCounts ∧
      0 < policy.expirationDays.toNat ∧ 0 < policy.graceLength.toNat := by
  rw [tells_iff]
  refine and_congr_right fun writable => ⟨?_, ?_⟩
  · rintro ⟨violation, text, wording, ends⟩
    rcases noted_of_closed wording (.trans (by decide) ends) with
      ⟨_, _, exemption⟩ | ⟨days, grace, _⟩
    · exact absurd ends (notes_apart exemption)
    · exact ⟨days, grace⟩
  · rintro ⟨days, grace⟩
    obtain ⟨text, wording⟩ := exists_wording writable (show policy.Requires .expired from days)
    obtain ⟨noted, told, rfl⟩ := exists_of_phraseUnlessZero wording
    rcases graceNote_cases told with ⟨zero, _⟩ | ⟨_, ends⟩
    · cases zero.symm.trans ((Count.isZero_eq_false_iff _).2 grace)
    · exact ⟨.expired, _, wording, ends.trans (List.suffix_append _ _)⟩

/-- The policy makes exempt passwords expire as well, and the password has expired. -/
def ExpiresRegardless (clock : Moment) (context : Context) (password : Text) : Prop :=
  policy.expirationOverrides.holds = true ∧ policy.Requires .expired ∧
    policy.IsBrokenBy context.changed (context.now.getD clock) password .expired

section Outcome

variable {policy} {clock : Moment} {context : Context} {password : Text}

private theorem mem_iff_of_hasGoodStrength (good : policy.HasGoodStrength password)
    {found : List Violation} (run : policy.evaluate clock context password = .ok found)
    (violation : Violation) :
    violation ∈ found ↔ violation = .expired ∧ policy.ExpiresRegardless clock context password := by
  rw [policy.mem_iff_of_evaluate_eq_ok run]
  cases violation <;> simp [AppliesTo, ExpiresRegardless, good, and_left_comm]

private theorem evaluate_of_hasGoodStrength (dated : context.HasUniversalForms clock)
    (good : policy.HasGoodStrength password) :
    (¬ policy.ExpiresRegardless clock context password →
      policy.evaluate clock context password = .ok []) ∧
    (policy.ExpiresRegardless clock context password →
      policy.evaluate clock context password = .ok [.expired]) := by
  have fit : policy.AsksForAge context password → context.HasUniversalForms clock := fun _ => dated
  obtain ⟨found, run⟩ := evaluate_returns fit
  have members := mem_iff_of_hasGoodStrength good run
  rw [run]
  constructor
  · intro spared
    congr 1
    rw [List.eq_nil_iff_forall_not_mem]
    exact fun violation member => spared ((members violation).1 member).2
  · intro expires
    rw [policy.eq_filter_of_evaluate_eq_ok run]
    simp only [members, expires, and_true]
    rfl

private theorem evaluate_of_grace (positive : 0 < policy.graceLength.toNat)
    (long : policy.graceLength.toNat ≤ password.length) :
    ∃ found, policy.evaluate clock context password = .ok found ∧ .expired ∉ found := by
  have fit : policy.AsksForAge context password → context.HasUniversalForms clock :=
    fun asks => absurd ⟨positive, long⟩ asks.graceless
  obtain ⟨found, run⟩ := evaluate_returns fit
  refine ⟨found, run, fun member => ?_⟩
  obtain ⟨_, _, moment, _, graceless, _⟩ := (policy.mem_iff_of_evaluate_eq_ok run .expired).1 member
  exact graceless ⟨positive, long⟩

end Outcome

/-- What the notes in a checklist promise, marked or not. If there is a checklist, the note that
strong passwords are exempt is in it just if a least length and a threshold of strength are
required. Then, as long as the times can be told in universal time, a password that reaches the
threshold is reported for nothing; only if the policy makes exempt passwords expire and this one
has, expiry alone is reported. The note that long passwords do not expire is there just if
passwords expire and a grace length is given, and then no password of that length is reported as
expired, whatever the times are. -/
theorem notes_are_kept (policy : Policy) (violated : Option (List Violation)) :
    (policy.Tells violated exemptionWords ↔ policy.HasWritableCounts ∧
      0 < policy.minLength.toNat ∧ 0 < policy.goodStrength.toNat) ∧
    (0 < policy.minLength.toNat → 0 < policy.goodStrength.toNat → ∀ clock context password,
      context.HasUniversalForms clock →
      (policy.goodStrength.toNat : ℚ) ≤ Strength.estimate policy.estimator password →
        (¬ policy.ExpiresRegardless clock context password →
          policy.evaluate clock context password = .ok []) ∧
        (policy.ExpiresRegardless clock context password →
          policy.evaluate clock context password = .ok [.expired])) ∧
    (policy.Tells violated graceWords ↔ policy.HasWritableCounts ∧
      0 < policy.expirationDays.toNat ∧ 0 < policy.graceLength.toNat) ∧
    (0 < policy.expirationDays.toNat → 0 < policy.graceLength.toNat → ∀ clock context password,
      policy.graceLength.toNat ≤ password.length →
        ∃ found, policy.evaluate clock context password = .ok found ∧ .expired ∉ found) := by
  refine ⟨policy.tells_exemption_iff violated, ?_, policy.tells_grace_iff violated, ?_⟩
  · intro _ enabled clock context password dated reached
    exact evaluate_of_hasGoodStrength dated ⟨enabled, reached⟩
  · intro _ enabled clock context password long
    exact evaluate_of_grace enabled long

theorem notes_are_kept_eightWeeks :
    let gentle : Policy := { oneDay with graceLength := .number 16 }
    let stern : Policy := { oneDay with expirationOverrides := .flag true }
    let changed : Moment := ⟨2 * Moment.microsPerDay, some (-3600000000), by decide, by decide⟩
    let clock : Moment := ⟨58 * Moment.microsPerDay, none, by decide, by simp⟩
    let password : Text := List.replicate 20 'a'
    Context.HasUniversalForms ⟨some changed, none⟩ clock ∧
      (20 : ℚ) ≤ Strength.estimate .length password ∧
      (gentle.Tells none exemptionWords ∧
        ¬ gentle.ExpiresRegardless clock ⟨some changed, none⟩ password ∧
        gentle.evaluate clock ⟨some changed, none⟩ password = .ok []) ∧
      (stern.Tells none exemptionWords ∧
        stern.ExpiresRegardless clock ⟨some changed, none⟩ password ∧
        stern.evaluate clock ⟨some changed, none⟩ password = .ok [.expired]) ∧
      gentle.Tells none graceWords ∧
        ∃ found, gentle.evaluate clock ⟨some changed, none⟩ (List.replicate 16 'a') = .ok found ∧
          .expired ∉ found := by
  intro gentle stern changed clock password
  have dated : Context.HasUniversalForms ⟨some changed, none⟩ clock :=
    Context.hasUniversalForms_of_changed (by decide) (by decide)
  have strong : (20 : ℚ) ≤ Strength.estimate .length password :=
    (Strength.reaches_iff .length 20 password).1 (by decide)
  have spared : ¬ gentle.ExpiresRegardless clock ⟨some changed, none⟩ password := fun expires =>
    absurd expires.1 (by decide)
  have late : stern.ExpiresRegardless clock ⟨some changed, none⟩ password :=
    ⟨rfl, Nat.zero_lt_one, changed, rfl, by decide, by decide⟩
  have writable : gentle.HasWritableCounts := by
    constructor <;> decide +kernel
  have writableToo : stern.HasWritableCounts := by
    constructor <;> decide +kernel
  obtain ⟨shown, exempt, graceShown, grace⟩ := notes_are_kept gentle none
  obtain ⟨shownToo, expires, _⟩ := notes_are_kept stern none
  exact ⟨dated, strong,
    ⟨shown.2 ⟨writable, by decide, by decide⟩, spared,
      (exempt (by decide) (by decide) clock _ password dated strong).1 spared⟩,
    ⟨shownToo.2 ⟨writableToo, by decide, by decide⟩, late,
      (expires (by decide) (by decide) clock _ password dated strong).2 late⟩,
    graceShown.2 ⟨writable, by decide, by decide⟩,
    grace (by decide) (by decide) clock _ _ (by decide)⟩

/-- The note says that twenty letters are exempt from all other requirements, and they have
expired. -/
theorem exemption_note_fails_eightWeeks :
    let stern : Policy := { oneDay with expirationOverrides := .flag true }
    let changed : Moment := ⟨2 * Moment.microsPerDay, some (-3600000000), by decide, by decide⟩
    let clock : Moment := ⟨58 * Moment.microsPerDay, none, by decide, by simp⟩
    let password : Text := List.replicate 20 'a'
    stern.Tells none exemptionWords ∧ Context.HasUniversalForms ⟨some changed, none⟩ clock ∧
      (stern.goodStrength.toNat : ℚ) ≤ Strength.estimate stern.estimator password ∧
      stern.evaluate clock ⟨some changed, none⟩ password = .ok [.expired] := by
  intro stern changed clock password
  have dated : Context.HasUniversalForms ⟨some changed, none⟩ clock :=
    Context.hasUniversalForms_of_changed (by decide) (by decide)
  have strong : (stern.goodStrength.toNat : ℚ) ≤ Strength.estimate stern.estimator password :=
    (Strength.reaches_iff .length 20 password).1 (by decide)
  have expires : stern.ExpiresRegardless clock ⟨some changed, none⟩ password :=
    ⟨rfl, Nat.zero_lt_one, changed, rfl, by decide, by decide⟩
  have writable : stern.HasWritableCounts := by
    constructor <;> decide +kernel
  exact ⟨(stern.tells_exemption_iff none).2 ⟨writable, by decide, by decide⟩, dated, strong,
    (evaluate_of_hasGoodStrength dated ⟨by decide, strong⟩).2 expires⟩

end PasswordAudit.Policy
