import PasswordAudit.Proofs.CommandLine.Exit
import PasswordAudit.Proofs.Settings.Failures
import PasswordAudit.Proofs.Settings.Reading

/-! Runs that only show the requirements, in any environment. Nothing but the configuration can fail
then, and all that it is given are texts; so of the ways to fail without a code few are left. -/
namespace PasswordAudit

theorem Log.Level.ofName?_eq_none_iff (name : Text) :
    Log.Level.ofName? name = none ↔ ∀ level : Log.Level, level.name ≠ name := by
  have known : ∀ level : Log.Level, level ∈ Log.Level.all := by
    intro level
    cases level <;> decide
  simp [Log.Level.ofName?, known]

namespace CommandLine

/-- The ways in which showing the requirements ends without an exit code: the level from which on
events are told is none, or a count of the rules has too many digits. -/
inductive Escapes (world : World) : Prop
  | unknownLevel {settings : Settings}
      (readable : Settings.read (world.environment.map fun (name, text) => (name, .text text)) =
        .ok settings)
      (quiet : settings.debug = false)
      (unknown : ∀ level : Log.Level, level.name ≠ settings.logLevel) : Escapes world
  | oversizedCount {settings : Settings} {lexicon : Lexicon} {before after : List Text}
      {piece : Text} {digits : Nat}
      (readable : Settings.read (world.environment.map fun (name, text) => (name, .text text)) =
        .ok settings)
      (heard : settings.debug = true ∨ ∃ level : Log.Level, level.name = settings.logLevel)
      (loaded : (settings.loadLexicon fun _ => world.files.read).2 = .ok lexicon)
      (given : Text.isAllBlank settings.characterRules = false)
      (pieces : List.splitOn ',' settings.characterRules = before ++ piece :: after)
      (good : ∀ earlier ∈ before, ∃ rule, Rule.Reads earlier rule)
      (refuses : Rule.Refuses piece (.oversizedCount digits)) : Escapes world

private theorem logLevel_eq_error_iff (settings : Settings) (failure : Failure) :
    logLevel settings = .error failure ↔
      settings.debug = false ∧ (∀ level : Log.Level, level.name ≠ settings.logLevel) ∧
        failure = .unknownLevel settings.logLevel := by
  rw [← Log.Level.ofName?_eq_none_iff]
  unfold logLevel
  cases settings.debug with
  | true => simp
  | false => cases Log.Level.ofName? settings.logLevel <;> simp [eq_comm]

private theorem logLevel_eq_ok_iff (settings : Settings) :
    (∃ level, logLevel settings = .ok level) ↔
      settings.debug = true ∨ ∃ level : Log.Level, level.name = settings.logLevel := by
  have failing := logLevel_eq_error_iff settings (.unknownLevel settings.logLevel)
  cases outcome : logLevel settings with
  | ok level =>
    rw [outcome] at failing
    simp only [reduceCtorEq, false_iff, and_true, not_and, not_forall, not_not] at failing
    refine iff_of_true ⟨level, rfl⟩ ?_
    cases loud : settings.debug with
    | true => exact .inl rfl
    | false => exact .inr (failing loud)
  | error failure =>
    obtain ⟨quiet, unknown, _⟩ := (logLevel_eq_error_iff settings failure).1 outcome
    simp [quiet, unknown]

variable {arguments : Arguments} {world : World}

private theorem configuration_of_ne_check (other : arguments.action ≠ .check) :
    configuration arguments world =
      (Settings.read (world.environment.map fun (name, text) =>
        (name, .text text))).mapError Failure.settings >>= fun settings =>
      logLevel settings >>= fun _ => (settings.policy fun _ => world.files.read).2 := by
  have quiet : ∀ settings, logging arguments world settings =
      logLevel settings >>= fun level => .ok ⟨level, none⟩ := by
    intro settings
    simp only [logging, other, if_false]
    rfl
  unfold configuration
  simp only [quiet, bind_assoc]
  rfl

private theorem exit_of_ne_check (other : arguments.action ≠ .check) :
    ((runWith arguments world).exit = .ok 0 ∨ (runWith arguments world).exit = .ok 2) ↔
      ¬ ∃ failure, configuration arguments world = .error failure ∧ failure.code? = none := by
  cases made : configuration arguments world with
  | ok policy =>
    have concluded := conclude_of_configured made
    rcases act_of_ne_check other world policy with
      ⟨shown, ended⟩ | ⟨failure, unlisted, _⟩
    · rw [ended, conclude, Prod.mk.injEq] at concluded
      simp [← concluded.1]
    · obtain ⟨shown, listing⟩ :=
        (Policy.exists_checklist_iff none).2 (hasWritableCounts_of_configured made)
      cases unlisted.symm.trans ((checklistText_eq_ok_iff _ _ _).2 ⟨shown, listing, rfl⟩)
  | error failure =>
    have concluded := conclude_of_unconfigured made
    cases coded : failure.code? with
    | none =>
      rw [conclude_error_of_uncoded coded, Prod.mk.injEq] at concluded
      simp [← concluded.1, coded]
    | some kind =>
      rw [conclude_error_of_code coded, Prod.mk.injEq] at concluded
      simp [← concluded.1, coded]

private theorem escapes_iff (nulFree : ∀ entry ∈ world.environment, '\x00' ∉ entry.2)
    (other : arguments.action ≠ .check) :
    Escapes world ↔
      ∃ failure, configuration arguments world = .error failure ∧ failure.code? = none := by
  simp only [configuration_of_ne_check other, Except.bind_eq_error_iff,
    Except.mapError_eq_error_iff, Except.mapError_eq_ok_iff]
  constructor
  · rintro (⟨readable, quiet, unknown⟩ | ⟨readable, heard, loaded, given, pieces, good, refuses⟩)
    · exact ⟨_, .inr ⟨_, readable, .inl ((logLevel_eq_error_iff _ _).2 ⟨quiet, unknown, rfl⟩)⟩, rfl⟩
    · obtain ⟨level, told⟩ := (logLevel_eq_ok_iff _).2 heard
      obtain ⟨failure, failed, uncoded⟩ :=
        (Settings.FailsUncoded.oversizedCount loaded given pieces good refuses).failure
      exact ⟨failure, .inr ⟨_, readable, .inr ⟨level, told, failed⟩⟩, uncoded⟩
  · rintro ⟨failure, ⟨issues, _, rfl⟩ | ⟨settings, readable, stopped | ⟨level, told, failed⟩⟩,
      uncoded⟩
    · cases uncoded
    · obtain ⟨quiet, unknown, _⟩ := (logLevel_eq_error_iff _ _).1 stopped
      exact .unknownLevel readable quiet unknown
    · -- Texts give no path with a NUL and no number that is too long to be told.
      cases (settings.failsUncoded_iff _).2 ⟨failure, failed, uncoded⟩ with
      | nulInPath paths _ nul =>
        obtain ⟨entry, given, there⟩ :=
          Settings.mem_of_mem_dictionaries readable (by rw [paths]; simp) nul
        exact absurd there (nulFree entry given)
      | oversizedCount loaded given pieces good refuses =>
        exact .oversizedCount readable ((logLevel_eq_ok_iff _).1 ⟨level, told⟩) loaded given pieces
          good refuses
      | unwritableNumber _ _ _ _ long =>
        have short := (Settings.hasWritableCounts_of_read readable).minCharacteristics
        exact absurd (of_decide_eq_true short) (Nat.not_le.2 long)

/-- In an environment of texts without a NUL, showing the requirements ends with the exit code 0 or
2 unless one of two settings is wrong in a way that is not told as an error: the level of the log
is no level, or a count of the rules has more than 4300 digits. -/
theorem requirements_exit_iff (world : World)
    (nulFree : ∀ entry ∈ world.environment, '\x00' ∉ entry.2) :
    ((run ["--requirements"] world).exit = .ok 0 ∨ (run ["--requirements"] world).exit = .ok 2) ↔
      ¬ Escapes world := by
  have other : Action.requirements ≠ .check := by decide
  rw [@run_of_read ⟨.requirements, none, none⟩ world _ rfl, exit_of_ne_check other,
    @escapes_iff ⟨.requirements, none, none⟩ world nulFree other]

def oneSetting (name text : Text) : World := .ofTexts [(name, text)] []

theorem requirements_exit_iff_missingFile :
    (∀ entry ∈ (oneSetting "PASSWORD_DICTIONARIES" "words.txt").environment, '\x00' ∉ entry.2) ∧
      (run ["--requirements"] (oneSetting "PASSWORD_DICTIONARIES" "words.txt")).exit = .ok 2 ∧
      ¬ Escapes (oneSetting "PASSWORD_DICTIONARIES" "words.txt") := by
  have nulFree : ∀ entry ∈ (oneSetting "PASSWORD_DICTIONARIES" "words.txt").environment,
      '\x00' ∉ entry.2 := by decide
  have two : (run ["--requirements"] (oneSetting "PASSWORD_DICTIONARIES" "words.txt")).exit =
      .ok 2 := by rfl
  exact ⟨nulFree, two, (requirements_exit_iff _ nulFree).1 (.inr two)⟩

/-- A level that is none is a setting that is wrong, but no error is told of it. -/
theorem requirements_exit_fails_verbose :
    (∀ entry ∈ (oneSetting "LOG_LEVEL" "verbose").environment, '\x00' ∉ entry.2) ∧
      (run ["--requirements"] (oneSetting "LOG_LEVEL" "verbose")).exit =
        .error (.unknownLevel "verbose") :=
  ⟨by decide, by rfl⟩

end CommandLine
end PasswordAudit
