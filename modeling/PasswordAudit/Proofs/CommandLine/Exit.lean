import PasswordAudit.CommandLine.Run
import PasswordAudit.Pattern.Fill
import PasswordAudit.Proofs.Checklist
import PasswordAudit.Proofs.CommandLine.Arguments
import PasswordAudit.Proofs.Settings.Policy
import PasswordAudit.Proofs.Settings.Reading

/-! What the exit code of a run tells. A run first makes its policy and then acts on it: a code of 2
is for a failure on the way to the policy, and a code of 1 for a password that violates it. Only two
hyphens are another password on the command line than in the input. -/
namespace PasswordAudit.CommandLine

/-- The policy of a run, or the first failure on the way to it. -/
def configuration (arguments : Arguments) (world : World) : Except Failure Policy := do
  let settings ← (Settings.read (world.environment.map fun (name, text) =>
    (name, .text text))).mapError Failure.settings
  let logging ← logging arguments world settings
  (settings.policy (logging.reader world.files)).2

/-- A run is its configuration, then its action. -/
private theorem conclude_runWith (arguments : Arguments) (world : World) :
    conclude (configuration arguments world >>= fun policy =>
        (act arguments world policy).outcome) =
      ((runWith arguments world).exit, (runWith arguments world).output,
        (runWith arguments world).errors) := by
  unfold runWith configuration
  cases Settings.read (world.environment.map fun (name, text) => (name, .text text)) with
  | error issues => rfl
  | ok settings =>
    dsimp only [Except.mapError, bind, Except.bind]
    cases logging arguments world settings with
    | error failure => rfl
    | ok logging =>
      dsimp only
      unfold configureAndAct
      cases settings.policy (logging.reader world.files) with
      | mk events made => cases made <;> rfl

theorem conclude_error_of_code {failure : Failure} {kind : FailureCode}
    (coded : failure.code? = some kind) :
    conclude (.error failure) = (.ok 2, [], failure.detail kind ++ "\n") := by
  simp only [conclude, coded]

theorem conclude_error_of_uncoded {failure : Failure} (uncoded : failure.code? = none) :
    conclude (.error failure) = (.error failure, [], []) := by
  simp only [conclude, uncoded]

variable {arguments : Arguments} {world : World}

theorem conclude_of_unconfigured {failure : Failure}
    (failed : configuration arguments world = .error failure) :
    conclude (.error failure) = ((runWith arguments world).exit, (runWith arguments world).output,
      (runWith arguments world).errors) := by
  have concluded := conclude_runWith arguments world
  rw [failed] at concluded
  exact concluded

theorem conclude_of_configured {policy : Policy}
    (made : configuration arguments world = .ok policy) :
    conclude (act arguments world policy).outcome = ((runWith arguments world).exit,
      (runWith arguments world).output, (runWith arguments world).errors) := by
  have concluded := conclude_runWith arguments world
  rw [made] at concluded
  exact concluded

theorem run_of_read {words : List Text} (valid : Arguments.read words = .ok arguments) :
    run words world = runWith arguments world := by
  rw [run, valid]

theorem checklistText_eq_ok_iff (policy : Policy) (violated : Option (List Violation))
    (text : Text) :
    checklistText policy violated = .ok text ↔ ∃ shown, policy.checklist violated = .ok shown ∧
      text = Requirement.render shown ++ "\n".toList := by
  unfold checklistText
  cases policy.checklist violated with
  | error fault => simp
  | ok shown => simp [eq_comm]

private theorem code?_of_checklistText_eq_error {policy : Policy}
    {violated : Option (List Violation)}
    {failure : Failure} (failed : checklistText policy violated = .error failure) :
    failure.code? = none := by
  unfold checklistText at failed
  split at failed <;> cases failed
  rfl

theorem act_of_ne_check (other : arguments.action ≠ .check) (world : World) (policy : Policy) :
    (∃ shown, (act arguments world policy).outcome = .ok (0, shown, [])) ∨
    ∃ failure, checklistText policy none = .error failure ∧
      (act arguments world policy).outcome = .error failure := by
  unfold act
  cases action : arguments.action with
  | check => exact absurd action other
  | requirements =>
    cases checklistText policy none with
    | error failure => exact .inr ⟨failure, rfl, rfl⟩
    | ok shown => exact .inl ⟨shown, rfl⟩
  | rules => exact .inl ⟨_, rfl⟩

private theorem act_of_check (check : arguments.action = .check) (policy : Policy) :
    act arguments world policy = checkPassword policy world.clock arguments.changed
      (passwordOf arguments world.input) := by
  rw [act, check]

/-- To check a password is to inspect it and then to show the checklist. -/
private theorem checkPassword_outcome (policy : Policy) (clock : Moment)
    (changed : Option (Given Moment)) (password : Given Text) :
    (checkPassword policy clock changed password).outcome =
      ((inspect policy clock changed password).2.mapError Failure.check >>= fun found =>
        checklistText policy (some found) >>= fun text =>
          .ok (if found = [] then 0 else 1, text,
            if found = [] then [] else Violation.messages found ++ "\n".toList)) := by
  unfold checkPassword
  cases inspect policy clock changed password with
  | mk exempt outcome =>
    cases outcome with
    | error fault => rfl
    | ok found => cases found <;> rfl

private theorem checkPassword_eq_ok {policy : Policy} {clock : Moment}
    {changed : Option (Given Moment)} {password : Given Text} {code : Nat} {output errors : Text}
    (ended : (checkPassword policy clock changed password).outcome = .ok (code, output, errors)) :
    ∃ found shown, (inspect policy clock changed password).2 = .ok found ∧
      policy.checklist (some found) = .ok shown ∧ code = (if found = [] then 0 else 1) ∧
      output = Requirement.render shown ++ "\n".toList := by
  rw [checkPassword_outcome] at ended
  obtain ⟨found, inspected, later⟩ := (Except.bind_eq_ok_iff _ _ _).1 ended
  obtain ⟨text, listed, last⟩ := (Except.bind_eq_ok_iff _ _ _).1 later
  obtain ⟨shown, listing, rfl⟩ := (checklistText_eq_ok_iff _ _ _).1 listed
  cases last
  exact ⟨found, shown, (Except.mapError_eq_ok_iff _ _ _).1 inspected, listing, rfl, rfl⟩

theorem hasWritableCounts_of_configured {policy : Policy}
    (made : configuration arguments world = .ok policy) : policy.HasWritableCounts := by
  obtain ⟨settings, readable, later⟩ := (Except.bind_eq_ok_iff _ _ _).1 made
  obtain ⟨logging, _, described⟩ := (Except.bind_eq_ok_iff _ _ _).1 later
  obtain ⟨rules, lexicon, ordered, enough, rfl⟩ := settings.policy_eq_ok described
  have writable :=
    Settings.hasWritableCounts_of_read ((Except.mapError_eq_ok_iff _ _ _).1 readable)
  exact {
    minLength := writable.minLength
    goodStrength := fun _ => writable.goodStrength
    maxLength := writable.maxLength
    minCharacteristics := writable.minCharacteristics
    maxRepeating := fun limit member => by
      obtain ⟨n, given, rfl⟩ := Option.map_eq_some_iff.1 member
      exact writable.maxRepeating n given
    expirationDays := writable.expirationDays
    graceLength := fun _ => writable.graceLength }

private theorem code?_of_act_eq_error {policy : Policy} {failure : Failure}
    (failed : (act arguments world policy).outcome = .error failure) : failure.code? = none := by
  by_cases check : arguments.action = .check
  · rw [act_of_check check, checkPassword_outcome] at failed
    rcases (Except.bind_eq_error_iff _ _ _).1 failed with uninspected | ⟨found, _, later⟩
    · obtain ⟨fault, _, rfl⟩ := (Except.mapError_eq_error_iff _ _ _).1 uninspected
      rfl
    · rcases (Except.bind_eq_error_iff _ _ _).1 later with unlisted | ⟨text, _, last⟩
      · exact code?_of_checklistText_eq_error unlisted
      · cases last
  · rcases act_of_ne_check check world policy with ⟨shown, ended⟩ | ⟨other, unlisted, ended⟩
    · cases ended.symm.trans failed
    · cases ended.symm.trans failed
      exact code?_of_checklistText_eq_error unlisted

/-- A run has an exit code just if its configuration has failed with a code or its action has come
to an end. -/
private theorem exit_eq_ok {code : Nat} (ran : (runWith arguments world).exit = .ok code) :
    (∃ failure kind, configuration arguments world = .error failure ∧ failure.code? = some kind ∧
      code = 2 ∧ (runWith arguments world).output = []) ∨
    ∃ policy errors, configuration arguments world = .ok policy ∧
      (act arguments world policy).outcome =
        .ok (code, (runWith arguments world).output, errors) := by
  cases made : configuration arguments world with
  | error failure =>
    have concluded := conclude_of_unconfigured made
    cases coded : failure.code? with
    | none =>
      rw [conclude_error_of_uncoded coded, Prod.mk.injEq, ran] at concluded
      cases concluded.1
    | some kind =>
      rw [conclude_error_of_code coded, Prod.mk.injEq, Prod.mk.injEq, ran] at concluded
      obtain ⟨two, silent, _⟩ := concluded
      exact .inl ⟨failure, kind, rfl, coded, (Except.ok.inj two).symm, silent.symm⟩
  | ok policy =>
    have concluded := conclude_of_configured made
    cases ended : (act arguments world policy).outcome with
    | error failure =>
      rw [ended, conclude_error_of_uncoded (code?_of_act_eq_error ended), Prod.mk.injEq, ran]
        at concluded
      cases concluded.1
    | ok shown =>
      obtain ⟨number, output, errors⟩ := shown
      rw [ended, conclude, Prod.mk.injEq, Prod.mk.injEq, ran] at concluded
      obtain ⟨same, shown, _⟩ := concluded
      refine .inr ⟨policy, errors, rfl, ?_⟩
      rw [ended, Except.ok.inj same, shown]

private theorem requires_of_mem_inspect {policy : Policy} {clock : Moment}
    {changed : Option (Given Moment)} {password : Given Text} {found : List Violation}
    (run : (inspect policy clock changed password).2 = .ok found) :
    ∀ violation ∈ found, policy.Requires violation := by
  cases password with
  | value text => exact policy.requires_of_mem_survey run
  | blank =>
    change policy.blankViolations changed clock = .ok found at run
    unfold Policy.blankViolations at run
    split at run
    · exact policy.requires_of_mem_survey run
    · cases run

/-- The password that is checked: the one that is given as an argument, or else the first line of
the input. -/
inductive Names (arguments : Arguments) (input : Text) : Given Text → Prop
  | attached {password : Given Text} (given : arguments.password = some password) :
      Names arguments input password
  | read {line : Text} (unset : arguments.password = none)
      (first : Text.IsFirstLine line input) : Names arguments input (.value line)

private theorem names_iff (arguments : Arguments) (input : Text) (password : Given Text) :
    Names arguments input password ↔ passwordOf arguments input = password := by
  unfold passwordOf
  constructor
  · rintro (given | ⟨unset, first⟩)
    · rw [given, Option.getD_some]
    · rw [unset, Option.getD_none, (Text.firstLine_eq_iff _ _).2 first]
  · rintro rfl
    cases given : arguments.password with
    | some password => exact .attached given
    | none => exact .read given (Text.isFirstLine_firstLine input)

private theorem runWith_of_password {piped : Arguments} {password input : Text} (world : World)
    (unset : piped.password = none)
    (first : Text.IsFirstLine password input) :
    runWith { piped with password := some (.value password) } world =
      runWith piped { world with input := input } := by
  have acted : ∀ policy, act { piped with password := some (.value password) } world policy =
      act piped { world with input := input } policy := by
    intro policy
    have same : passwordOf { piped with password := some (.value password) } world.input =
        passwordOf piped input := ((names_iff piped input _).1 (.read unset first)).symm
    simp only [act, same]
  have configured : ∀ read settings,
      configureAndAct { piped with password := some (.value password) } world read settings =
        configureAndAct piped { world with input := input } read settings := by
    intro read settings
    simp only [configureAndAct, acted]
  unfold runWith
  simp only [configured]
  rfl

/-- What the exit code of a run with these arguments tells, together with what it shows. The code
is 2, and nothing is shown, just if the settings, the lexicon, the rules or the policy fail with a
code. Otherwise it is 0, unless a password is checked: then it is 1 just if the evaluation found a
violation, and just if a line is shown as failed. -/
structure TellsOutcome (arguments : Arguments) (world : World) (code : Nat) (output : Text) :
    Prop where
  failed : code = 2 ↔
    ∃ failure kind, configuration arguments world = .error failure ∧ failure.code? = some kind
  silent : code = 2 → output = []
  unchecked : code ≠ 2 → arguments.action ≠ .check → code = 0
  checked : code ≠ 2 → arguments.action = .check → ∃ policy password found,
    configuration arguments world = .ok policy ∧ Names arguments world.input password ∧
    (inspect policy world.clock arguments.changed password).2 = .ok found ∧
    (∀ text changed, password = .value text → arguments.changed = changed.map .value →
      policy.evaluate world.clock ⟨changed, none⟩ text = .ok found) ∧
    code = (if found = [] then 0 else 1) ∧
    (code = 1 ↔ ∃ line ∈ Text.lines output, "[fail]".toList <+: line)

private theorem tellsOutcome_of_unconfigured {failure : Failure} {kind : FailureCode}
    (failed : configuration arguments world = .error failure)
    (coded : failure.code? = some kind) : TellsOutcome arguments world 2 [] where
  failed := iff_of_true rfl ⟨failure, kind, failed, coded⟩
  silent := fun _ => rfl
  unchecked := fun other => absurd rfl other
  checked := fun other => absurd rfl other

private theorem not_failed_of_configured {policy : Policy}
    (made : configuration arguments world = .ok policy) :
    ¬ ∃ failure kind, configuration arguments world = .error failure ∧
      failure.code? = some kind := by
  rintro ⟨failure, _, failed, _⟩
  rw [made] at failed
  cases failed

private theorem tellsOutcome_of_ne_check {policy : Policy} (other : arguments.action ≠ .check)
    (made : configuration arguments world = .ok policy) (output : Text) :
    TellsOutcome arguments world 0 output where
  failed := iff_of_false (by decide) (not_failed_of_configured made)
  silent := fun two => absurd two (by decide)
  unchecked := fun _ _ => rfl
  checked := fun _ check => absurd check other

private theorem tellsOutcome_of_check {policy : Policy} {found : List Violation}
    {shown : List Requirement}
    (check : arguments.action = .check) (made : configuration arguments world = .ok policy)
    (inspected : (inspect policy world.clock arguments.changed
      (passwordOf arguments world.input)).2 = .ok found)
    (listing : policy.checklist (some found) = .ok shown) :
    TellsOutcome arguments world (if found = [] then 0 else 1)
      (Requirement.render shown ++ "\n".toList) := by
  have counted : (if found = [] then 0 else 1) ≠ 2 := by split <;> decide
  have marked : (if found = [] then 0 else 1) = 1 ↔
      ∃ violation ∈ found, policy.Requires violation := by
    have required := requires_of_mem_inspect inspected
    cases found with
    | nil => simp
    | cons violation others =>
      exact iff_of_true rfl ⟨violation, List.mem_cons_self ..,
        required violation (List.mem_cons_self ..)⟩
  refine ⟨iff_of_false counted (not_failed_of_configured made), fun two => absurd two counted,
    fun _ other => absurd check other, fun _ _ => ⟨policy, passwordOf arguments world.input, found,
      made, (names_iff _ _ _).2 rfl, inspected, ?_, rfl, ?_⟩⟩
  · intro text changed typed dated
    rw [typed, dated] at inspected
    exact inspected
  · rw [marked, Policy.exists_failLine_iff listing]

/-- Valid arguments that lead to an exit code tell the outcome by it. Moreover a password without
line endings, unless it is two hyphens, can be attached to its option or come as the first line of
the input, and the run is the same. -/
theorem exit_tells_outcome (world : World) :
    (∀ words arguments code, Arguments.read words = .ok arguments →
      (run words world).exit = .ok code →
        TellsOutcome arguments world code (run words world).output) ∧
    (∀ before after password input given piped, '\n' ∉ password → '\r' ∉ password →
      password ≠ ['-', '-'] → Text.HasFirstLine password input →
      Arguments.read (before ++ passwordArgument password :: after) = .ok given →
      Arguments.read (before ++ after) = .ok piped → piped.password = none →
        run (before ++ passwordArgument password :: after) world =
          run (before ++ after) { world with input := input }) := by
  constructor
  · intro words arguments code valid ran
    rw [run_of_read valid] at ran ⊢
    rcases exit_eq_ok ran with ⟨failure, kind, failed, coded, rfl, silent⟩ |
      ⟨policy, errors, made, ended⟩
    · rw [silent]
      exact tellsOutcome_of_unconfigured failed coded
    · by_cases check : arguments.action = .check
      · rw [act_of_check check] at ended
        obtain ⟨found, shown, inspected, listing, rfl, printed⟩ := checkPassword_eq_ok ended
        rw [printed]
        exact tellsOutcome_of_check check made inspected listing
      · rcases act_of_ne_check check world policy with
          ⟨shown, zero⟩ | ⟨failure, _, failed⟩
        · cases zero.symm.trans ended
          exact tellsOutcome_of_ne_check check made _
        · cases failed.symm.trans ended
  · intro before after password input given piped feedFree returnFree plain starts attached without
      unset
    have first : Text.IsFirstLine password input :=
      ⟨feedFree, fun last => returnFree (List.mem_of_getLast? last), starts⟩
    rw [run_of_read attached, run_of_read without,
      read_insert_password plain attached without unset]
    exact runWith_of_password world unset first

def World.ofTexts (environment : List (Text × Text)) (input : Text) : World where
  environment
  files := FileTree.ofList [] []
  input
  clock := Moment.first
  fileName := fun pattern => Pattern.fill pattern Moment.first

def hyphens : World :=
  .ofTexts [("PASSWORD_MIN_LENGTH", "1"), ("PASSWORD_NUMBER_OF_CHARACTERISTICS", "0"),
    ("LOG_FILE_PATTERN", "policy.log")] "--\n"

set_option maxRecDepth 4000 in
private theorem configuration_hyphens :
    ∃ policy, configuration ⟨.check, none, none⟩ hyphens = .ok policy ∧
      policy.minLength = .number 1 ∧ policy.maxLength = .number 0 ∧
      policy.minCharacteristics = .number 0 ∧ policy.maxRepeating = none ∧
      policy.lexicon = Lexicon.ofWords [] [] false ∧ policy.expirationDays = .number 0 ∧
      policy.goodStrength = .number 20 ∧ policy.estimator = .length :=
  ⟨_, by rfl, by rfl, by rfl, by rfl, by rfl, by rfl, by rfl, by rfl, by rfl⟩

private theorem exit_of_inspect {policy : Policy} {found : List Violation}
    (check : arguments.action = .check) (made : configuration arguments world = .ok policy)
    (inspected : (inspect policy world.clock arguments.changed
      (passwordOf arguments world.input)).2 = .ok found) :
    (runWith arguments world).exit = .ok (if found = [] then 0 else 1) := by
  obtain ⟨shown, listing⟩ :=
    (Policy.exists_checklist_iff (some found)).2 (hasWritableCounts_of_configured made)
  have listed := (checklistText_eq_ok_iff _ _ _).2 ⟨shown, listing, rfl⟩
  have concluded := conclude_of_configured made
  rw [act_of_check check, checkPassword_outcome, inspected] at concluded
  change conclude (checklistText policy (some found) >>= _) = _ at concluded
  rw [listed] at concluded
  exact (congrArg Prod.fst concluded).symm

private theorem checks_hyphens {policy : Policy}
    (made : configuration ⟨.check, none, none⟩ hyphens = .ok policy) :
    policy.checks (policy.expiryChecks none hyphens.clock) false = [.minLength (.int 1)] ∧
      policy.estimator = .length ∧ policy.isExempt "--".toList = false := by
  obtain ⟨same, made', least, most, kinds, runs, words, days, strength, estimator⟩ :=
    configuration_hyphens
  cases made.symm.trans made'
  have noWords : policy.usesLexicon = false := by
    rw [Policy.usesLexicon, words]
    simp [Lexicon.isEmpty, Lexicon.ofWords, Lexicon.kept, Text.distinct, Text.sorted,
      Text.dropRepeats]
  refine ⟨?_, estimator, ?_⟩
  · simp [Policy.checks, Policy.compositionChecks, Policy.expiryChecks, least, most, kinds, runs,
      noWords, days, Count.isZero, Count.toNat, Count.toValue]
  · rw [Policy.isExempt, estimator, strength]
    decide

private theorem exit_hyphens_in_input : (run ["--check"] hyphens).exit = .ok 0 := by
  obtain ⟨policy, made, _⟩ := configuration_hyphens
  obtain ⟨checks, _, weak⟩ := checks_hyphens made
  have fine : policy.violations none hyphens.clock "--".toList = .ok [] := by
    rw [Policy.violations, weak, checks]
    rfl
  exact @exit_of_inspect ⟨.check, none, none⟩ hyphens policy _ rfl made fine

private theorem exit_hyphens_attached :
    (run ["--check", passwordArgument "--"] hyphens).exit = .ok 1 := by
  obtain ⟨policy, made, _⟩ := configuration_hyphens
  obtain ⟨checks, estimator, _⟩ := checks_hyphens made
  have short : policy.blankViolations none hyphens.clock = .ok [.tooShort] := by
    rw [Policy.blankViolations, checks, estimator, if_pos (by simp)]
    rfl
  exact @exit_of_inspect ⟨.check, some .blank, none⟩ hyphens policy _ rfl made short

theorem exit_tells_outcome_hyphens :
    (run ["--check"] hyphens).exit = .ok 0 ∧
      (¬ ∃ line ∈ Text.lines (run ["--check"] hyphens).output, "[fail]".toList <+: line) ∧
      run ["--check", passwordArgument "-"] hyphens =
        run ["--check"] { hyphens with input := "-\r\n" } := by
  obtain ⟨codes, ways⟩ := exit_tells_outcome hyphens
  have passed := codes ["--check"] ⟨.check, none, none⟩ 0 rfl exit_hyphens_in_input
  obtain ⟨_, _, _, _, _, _, _, _, shown⟩ := passed.checked (by decide) rfl
  refine ⟨exit_hyphens_in_input, fun failed => absurd (shown.2 failed) (by decide), ?_⟩
  exact ways ["--check"] [] "-" "-\r\n" ⟨.check, some (.value "-"), none⟩ ⟨.check, none, none⟩
    (by decide) (by decide) (by decide) (.feed 1 []) rfl rfl rfl

/-- The same password, in the same world, passes in the input and fails when it is attached to its
option. -/
theorem exit_tells_outcome_fails_hyphens :
    '\n' ∉ "--".toList ∧ '\r' ∉ "--".toList ∧ Text.HasFirstLine "--".toList hyphens.input ∧
      (run ["--check", passwordArgument "--"] hyphens).exit = .ok 1 ∧
      (run ["--check"] hyphens).exit = .ok 0 :=
  ⟨by decide, by decide, .feed 0 [], exit_hyphens_attached, exit_hyphens_in_input⟩

end PasswordAudit.CommandLine
