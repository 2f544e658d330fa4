import PasswordAudit.Proofs.Lexicon.Load
import PasswordAudit.Proofs.Rule.RoundTrip
import PasswordAudit.Proofs.Settings.Policy

/-! The failures of a configuration. Each that has a code has one from 1 to 6. What fails without a
code is told exactly, step by step as a policy is made from settings. -/
namespace PasswordAudit

namespace Failure

private theorem number_of_code? {failure : Failure} {code : FailureCode}
    (coded : failure.code? = some code) : 1 ≤ code.number ∧ code.number ≤ 6 := by
  have particular : code ≠ .base := by
    rintro rfl
    unfold code? at coded
    split at coded <;> simp at coded
  cases code with
  | base => exact absurd rfl particular
  | _ => decide

private theorem code?_lexicon_eq_none_iff (fault : Lexicon.LoadFault) :
    code? (.lexicon fault) = none ↔ fault = .nulInPath := by
  cases fault <;> simp [code?]

private theorem code?_rules_eq_none_iff (fault : Rule.Fault) :
    code? (.rules fault) = none ↔ ∃ digits, fault = .oversizedCount digits := by
  cases fault <;> simp [code?]

private theorem code?_tooManyCharacteristics_eq_none_iff (wanted rules : Nat) :
    code? (.policy (.tooManyCharacteristics (.number wanted) rules)) = none ↔
      4300 < (Decimal.natural wanted).length := by
  have tellable : (Policy.Fault.tooManyCharacteristics (.number wanted) rules).isTellable = true ↔
      (Decimal.natural wanted).length ≤ 4300 := decide_eq_true_iff
  rw [code?, ite_eq_right_iff, tellable, ← Nat.not_le]
  simp

end Failure

namespace Settings

variable (settings : Settings)

private theorem policy_of_long_numeral {kind : CharacterClass} {numeral : Text}
    (noFiles : settings.dictionaries = [])
    (given : settings.characterRules = kind.name ++ ':' :: numeral)
    (digits : ∀ c ∈ numeral, c.isDigit = true) (long : 4300 < numeral.length)
    (read : Lexicon.GrowingReader) :
    (settings.policy read).2 = .error (.rules (.oversizedCount numeral.length)) := by
  have loaded : ∃ lexicon, (settings.loadLexicon read).2 = .ok lexicon := by
    rw [loadLexicon, noFiles]
    exact ⟨_, rfl⟩
  obtain ⟨lexicon, loaded⟩ := loaded
  have unread := Rule.readOrDefault_of_long_numeral kind digits long
  rw [← given] at unread
  exact (settings.policy_eq_error_iff read _).2 (.inr ⟨lexicon, loaded, .inl ⟨_, unread, rfl⟩⟩)

/-- The ways to fail without a code: a path with a NUL is met, or a count has too many digits to be
read, or a number has too many to be told. -/
inductive FailsUncoded (read : Lexicon.GrowingReader) : Prop
  | nulInPath {before after : List Text} {source : Text} {found : List Text}
      (paths : settings.dictionaries = before ++ source :: after)
      (loaded : (Lexicon.gather read [] before).2 = .ok found) (nul : '\x00' ∈ source)
  | oversizedCount {lexicon : Lexicon} {before after : List Text} {piece : Text} {digits : Nat}
      (loaded : (settings.loadLexicon read).2 = .ok lexicon)
      (given : Text.isAllBlank settings.characterRules = false)
      (pieces : List.splitOn ',' settings.characterRules = before ++ piece :: after)
      (good : ∀ earlier ∈ before, ∃ rule, Rule.Reads earlier rule)
      (refuses : Rule.Refuses piece (.oversizedCount digits))
  | unwritableNumber {lexicon : Lexicon} {rules : List (Rule Nat)}
      (loaded : (settings.loadLexicon read).2 = .ok lexicon)
      (readable : Rule.readOrDefault (some settings.characterRules) = .ok rules)
      (ordered : settings.HasOrderedLengths)
      (exceeds : rules.length < settings.minCharacteristics)
      (long : 4300 < (Decimal.natural settings.minCharacteristics).length)

private theorem loadLexicon_eq_nulInPath_iff (read : Lexicon.GrowingReader) :
    (settings.loadLexicon read).2 = .error .nulInPath ↔
      ∃ before source after, settings.dictionaries = before ++ source :: after ∧
        (∃ found, (Lexicon.gather read [] before).2 = .ok found) ∧ '\x00' ∈ source := by
  rw [loadLexicon, Lexicon.load_eq_error_iff, Lexicon.gather_eq_nulInPath_iff]

theorem FailsUncoded.failure {settings : Settings} {read : Lexicon.GrowingReader}
    (fails : settings.FailsUncoded read) :
    ∃ failure : Failure, (settings.policy read).2 = .error failure ∧ failure.code? = none := by
  simp only [policy_eq_error_iff]
  cases fails with
  | nulInPath paths loaded nul =>
    have failed := (settings.loadLexicon_eq_nulInPath_iff read).2 ⟨_, _, _, paths, ⟨_, loaded⟩, nul⟩
    exact ⟨_, .inl ⟨_, failed, rfl⟩, rfl⟩
  | oversizedCount loaded given pieces good refuses =>
    have unread := (Rule.readOrDefault_eq_error_iff _ _).2 ⟨given, _, _, _, pieces, good, refuses⟩
    exact ⟨_, .inr ⟨_, loaded, .inl ⟨_, unread, rfl⟩⟩, rfl⟩
  | @unwritableNumber lexicon rules loaded readable ordered exceeds long =>
    have refused := (settings.check_draft_eq_error_iff rules lexicon _).2
      (.inr ⟨ordered, exceeds, rfl⟩)
    exact ⟨_, .inr ⟨_, loaded, .inr ⟨_, readable, _, refused, rfl⟩⟩,
      (Failure.code?_tooManyCharacteristics_eq_none_iff _ _).2 long⟩

theorem failsUncoded_iff (read : Lexicon.GrowingReader) :
    settings.FailsUncoded read ↔
      ∃ failure : Failure, (settings.policy read).2 = .error failure ∧ failure.code? = none := by
  refine ⟨FailsUncoded.failure, ?_⟩
  rintro ⟨failure, failed, uncoded⟩
  -- The three causes are the three steps: the files, the rules, and the draft of both.
  rcases (settings.policy_eq_error_iff read failure).1 failed with
    ⟨fault, unloaded, rfl⟩ | ⟨lexicon, loaded, ⟨fault, unread, rfl⟩ |
      ⟨rules, readable, fault, refused, rfl⟩⟩
  · obtain rfl := (Failure.code?_lexicon_eq_none_iff fault).1 uncoded
    obtain ⟨before, source, after, paths, ⟨found, earlier⟩, nul⟩ :=
      (settings.loadLexicon_eq_nulInPath_iff read).1 unloaded
    exact .nulInPath paths earlier nul
  · obtain ⟨digits, rfl⟩ := (Failure.code?_rules_eq_none_iff fault).1 uncoded
    obtain ⟨given, before, piece, after, pieces, good, refuses⟩ :=
      (Rule.readOrDefault_eq_error_iff _ _).1 unread
    exact .oversizedCount loaded given pieces good refuses
  · rcases (settings.check_draft_eq_error_iff rules lexicon fault).1 refused with
      ⟨_, rfl⟩ | ⟨ordered, exceeds, rfl⟩
    · cases uncoded
    · exact .unwritableNumber loaded readable ordered exceeds
        ((Failure.code?_tooManyCharacteristics_eq_none_iff _ _).1 uncoded)

/-- Settings give a policy or a failure with a code from 1 to 6, whatever the files hold, just if
none of the ways to fail without a code is taken. -/
theorem keeps_to_codes_iff (settings : Settings) (read : Lexicon.GrowingReader) :
    ((∃ policy, (settings.policy read).2 = .ok policy) ∨
      ∃ failure code, (settings.policy read).2 = .error failure ∧ failure.code? = some code ∧
        1 ≤ code.number ∧ code.number ≤ 6) ↔
    ¬ settings.FailsUncoded read := by
  rw [failsUncoded_iff]
  cases (settings.policy read).2 with
  | ok policy => simp
  | error failure =>
    cases coded : failure.code? with
    | none => simp [coded]
    | some code => simp [coded, Failure.number_of_code? coded]

theorem keeps_to_codes_fails_longCount :
    ∃ settings, Settings.read [("PASSWORD_CHARACTER_RULES",
        .text ("Digit:" ++ List.replicate 4301 '1'))] = .ok settings ∧
      (settings.policy fun _ _ => .error .absent).2 = .error (.rules (.oversizedCount 4301)) ∧
      (Failure.rules (.oversizedCount 4301)).code? = none := by
  have size : (List.replicate 4301 '1').length = 4301 := List.length_replicate
  have digits : ∀ c ∈ List.replicate 4301 '1', c.isDigit = true := by
    intro c member
    rw [List.eq_of_mem_replicate member]
    decide
  generalize List.replicate 4301 '1' = numeral at size digits ⊢
  refine ⟨_, rfl, ?_, rfl⟩
  rw [← size]
  exact @policy_of_long_numeral _ .digit numeral rfl rfl digits (by rw [size]; decide) _

end Settings
end PasswordAudit
