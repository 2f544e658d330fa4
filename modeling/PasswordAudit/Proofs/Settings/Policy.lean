import PasswordAudit.Proofs.Policy.Draft
import PasswordAudit.Settings.Policy

/-! What becomes of settings. The step that fails decides about the failure: the files, the rules,
or the draft of both, of which settings leave little to be wrong. -/
namespace PasswordAudit.Settings

variable (settings : Settings)

def HasOrderedLengths : Prop := settings.maxLength = 0 ∨ settings.minLength ≤ settings.maxLength

private theorem one_le_of_mem_maxRepeating (limit : Count)
    (member : limit ∈ settings.maxRepeating.map Count.number) : 1 ≤ limit.toNat := by
  obtain ⟨n, given, rfl⟩ := Option.map_eq_some_iff.1 member
  exact settings.repeating_pos n given

def described (rules : List (Rule Nat)) (lexicon : Lexicon) (ordered : settings.HasOrderedLengths)
    (enough : settings.minCharacteristics ≤ rules.length) : Policy where
  minLength := .number settings.minLength
  maxLength := .number settings.maxLength
  rules := rules.map (Rule.map Count.number)
  minCharacteristics := .number settings.minCharacteristics
  maxRepeating := settings.maxRepeating.map Count.number
  lexicon := lexicon
  substringMatch := .flag settings.substringMatch
  goodStrength := .number settings.goodStrength
  estimator := settings.estimator
  expirationDays := .number settings.expirationDays
  graceLength := .number settings.graceLength
  expirationOverrides := .flag settings.expirationOverrides
  lengths_le := ordered
  characteristics_le := by rw [List.length_map]; exact enough
  repeating_pos := settings.one_le_of_mem_maxRepeating

theorem check_draft_of_ordered (rules : List (Rule Nat)) (lexicon : Lexicon)
    (ordered : settings.HasOrderedLengths) (enough : settings.minCharacteristics ≤ rules.length) :
    (settings.draft rules lexicon).check =
      .ok (settings.described rules lexicon ordered enough) := by
  rw [Draft.check_eq_ok_iff]
  simp only [Policy.toDraft, draft, described, List.map_map, Option.map_map]
  rfl

/-- Settings hold counts and a known estimator, so only what ties the fields together can be wrong
with their draft. -/
theorem check_draft_eq_error_iff (rules : List (Rule Nat)) (lexicon : Lexicon)
    (fault : Policy.Fault) :
    (settings.draft rules lexicon).check = .error fault ↔
      (¬ settings.HasOrderedLengths ∧ fault = .lengthsCrossed) ∨
      (settings.HasOrderedLengths ∧ rules.length < settings.minCharacteristics ∧
        fault = .tooManyCharacteristics (.number settings.minCharacteristics) rules.length) := by
  have estimator : Draft.readEstimator (.text settings.estimator.name) = .ok settings.estimator :=
    (Draft.readEstimator_eq_ok_iff _ _).2 rfl
  have counts : ∀ field (n : Nat), Draft.readCount field (.int n) = .ok (.number n) :=
    fun field n => (Draft.readCount_eq_ok_iff field _ _).2 rfl
  by_cases ordered : settings.HasOrderedLengths
  · by_cases few : rules.length < settings.minCharacteristics
    · have failed : (settings.draft rules lexicon).check = .error
          (.tooManyCharacteristics (.number settings.minCharacteristics) rules.length) := by
        simp only [Draft.check, draft, estimator, counts, bind, Except.bind, List.length_map]
        exact (dif_pos ordered).trans (dif_neg (Nat.not_le.2 few))
      rw [failed]
      simp [ordered, few, eq_comm]
    · rw [settings.check_draft_of_ordered rules lexicon ordered (Nat.le_of_not_lt few)]
      simp [ordered, few]
  · have failed : (settings.draft rules lexicon).check = .error .lengthsCrossed := by
      simp only [Draft.check, draft, estimator, counts, bind, Except.bind]
      exact dif_neg ordered
    rw [failed]
    simp [ordered, eq_comm]

theorem policyWith_eq_error_iff (lexicon : Lexicon) (failure : Failure) :
    settings.policyWith lexicon = .error failure ↔
      (∃ fault, Rule.readOrDefault (some settings.characterRules) = .error fault ∧
        failure = .rules fault) ∨
      ∃ rules, Rule.readOrDefault (some settings.characterRules) = .ok rules ∧
        ∃ fault, (settings.draft rules lexicon).check = .error fault ∧
          failure = .policy fault := by
  rw [policyWith, Except.bind_eq_error_iff]
  simp only [Except.mapError_eq_ok_iff, Except.mapError_eq_error_iff, @eq_comm _ failure]

theorem policy_eq_error_iff (read : Lexicon.GrowingReader) (failure : Failure) :
    (settings.policy read).2 = .error failure ↔
      (∃ fault, (settings.loadLexicon read).2 = .error fault ∧ failure = .lexicon fault) ∨
      ∃ lexicon, (settings.loadLexicon read).2 = .ok lexicon ∧
        ((∃ fault, Rule.readOrDefault (some settings.characterRules) = .error fault ∧
          failure = .rules fault) ∨
        ∃ rules, Rule.readOrDefault (some settings.characterRules) = .ok rules ∧
          ∃ fault, (settings.draft rules lexicon).check = .error fault ∧
            failure = .policy fault) := by
  simp only [← policyWith_eq_error_iff]
  unfold policy
  cases settings.loadLexicon read with
  | mk events result => cases result <;> simp [eq_comm]

theorem policy_eq_ok {read : Lexicon.GrowingReader} {policy : Policy}
    (made : (settings.policy read).2 = .ok policy) :
    ∃ rules lexicon ordered enough, policy = settings.described rules lexicon ordered enough := by
  unfold Settings.policy at made
  cases loaded : settings.loadLexicon read with
  | mk events result =>
    rw [loaded] at made
    cases result with
    | error fault => cases made
    | ok lexicon =>
      obtain ⟨rules, _, checked⟩ := (Except.bind_eq_ok_iff _ _ _).1 made
      have accepted := (Except.mapError_eq_ok_iff _ _ _).1 checked
      have sound : ∀ fault, (settings.draft rules lexicon).check ≠ .error fault := by
        intro fault failed
        cases accepted.symm.trans failed
      have ordered : settings.HasOrderedLengths := Classical.byContradiction fun crossed =>
        sound _ ((settings.check_draft_eq_error_iff _ _ _).2 (.inl ⟨crossed, rfl⟩))
      have enough : settings.minCharacteristics ≤ rules.length := Nat.le_of_not_lt fun few =>
        sound _ ((settings.check_draft_eq_error_iff _ _ _).2 (.inr ⟨ordered, few, rfl⟩))
      have same := settings.check_draft_of_ordered rules lexicon ordered enough
      exact ⟨rules, lexicon, ordered, enough, Except.ok.inj (accepted.symm.trans same)⟩

end PasswordAudit.Settings
