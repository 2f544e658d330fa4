import PasswordAudit.Proofs.Inspection.Survey

/-! Runs of an inspector, which gets checks and passwords in any order. An inspection depends on the
checks that were added before it and on nothing else: neither what earlier inspections found nor how
they ended leaves a trace in its result. Adding checks leaves what was found as it is. -/
namespace PasswordAudit.Inspector

inductive Call
  | add (check : Check)
  | inspect (password : Text)

def perform (inspector : Inspector) : Call → Inspector
  | .add check => inspector.add check
  | .inspect password => (inspector.inspect password).1

def run (calls : List Call) : Inspector := calls.foldl perform empty

def Call.check? : Call → Option Check
  | .add check => some check
  | .inspect _ => none

def added (calls : List Call) : List Check := calls.filterMap Call.check?

private theorem checks_perform (inspector : Inspector) (call : Call) :
    (inspector.perform call).checks = inspector.checks ++ call.check?.toList := by
  cases call with
  | add check => rfl
  | inspect password => exact (List.append_nil _).symm

private theorem checks_foldl_perform (calls : List Call) (inspector : Inspector) :
    (calls.foldl perform inspector).checks = inspector.checks ++ added calls := by
  induction calls generalizing inspector with
  | nil => exact (List.append_nil _).symm
  | cons call rest ih =>
    rw [List.foldl_cons, ih, checks_perform, List.append_assoc]
    cases call <;> rfl

private theorem checks_run (calls : List Call) : (run calls).checks = added calls :=
  checks_foldl_perform calls empty

private theorem found_foldl_add (checks : List Check) (inspector : Inspector) :
    ((checks.map Call.add).foldl perform inspector).found = inspector.found := by
  induction checks generalizing inspector with
  | nil => rfl
  | cons check rest ih => exact ih (inspector.add check)

private theorem inspect_eq_of_checks_eq {first second : Inspector}
    (same : first.checks = second.checks)
    (password : Text) : first.inspect password = second.inspect password := by
  simp only [inspect, same]

section Inspection

variable (inspector : Inspector) (password : Text)

private theorem inspect_found :
    (inspector.inspect password).1.found =
      (failures (·.passes password)
        (inspector.checks.takeWhile (answers (·.passes password)))).eraseDups := by
  rw [← foldl_note_nil, ← survey_found]
  rfl

private theorem inspect_outcome :
    (inspector.inspect password).2 =
      (survey (·.passes password) inspector.checks []).2.map fun _ =>
        (inspector.inspect password).1.found.isEmpty := rfl

private theorem inspect_returns_iff :
    (∃ valid, (inspector.inspect password).2 = .ok valid) ↔
      ∀ check ∈ inspector.checks, answers (·.passes password) check = true := by
  rw [← survey_outcome_iff _ inspector.checks [], inspect_outcome]
  cases (survey (·.passes password) inspector.checks []).2 <;> simp [Except.map]

private theorem inspect_valid {valid : Bool}
    (returned : (inspector.inspect password).2 = .ok valid) :
    valid = true ↔ (inspector.inspect password).1.found = [] := by
  rw [inspect_outcome] at returned
  cases surveyed : (survey (·.passes password) inspector.checks []).2 with
  | error fault => simp [surveyed, Except.map] at returned
  | ok =>
    rw [surveyed] at returned
    cases returned
    exact List.isEmpty_iff

private theorem inspect_found_of_returned {valid : Bool}
    (returned : (inspector.inspect password).2 = .ok valid) :
    (inspector.inspect password).1.found =
      (failures (·.passes password) inspector.checks).eraseDups := by
  have answered := (inspect_returns_iff inspector password).1 ⟨valid, returned⟩
  rw [inspect_found, List.takeWhile_eq_self_iff.2 answered]

private theorem inspect_of_first_error {before after : List Check} {check : Check}
    {fault : CheckFault} (split : inspector.checks = before ++ check :: after)
    (answered : ∀ earlier ∈ before, answers (·.passes password) earlier = true)
    (failed : check.passes password = .error fault) :
    (inspector.inspect password).2 = .error fault ∧
      (inspector.inspect password).1.found =
        (failures (·.passes password) before).eraseDups := by
  constructor
  · rw [inspect_outcome, split, survey_outcome_of_first_error _ answered failed]
    rfl
  · have silent : answers (·.passes password) check = false := by simp [answers, failed]
    rw [inspect_found, split, List.takeWhile_append_of_pos answered,
      List.takeWhile_cons_of_neg (by simp [silent]), List.append_nil]

end Inspection

private theorem mem_failures_of_perm {first second : List Check} (reordered : first.Perm second)
    (passes : Check → Except CheckFault Bool) (violation : Violation) :
    violation ∈ failures passes first ↔ violation ∈ failures passes second :=
  ((reordered.filter _).map _).mem_iff

private theorem inspect_of_reordered {first second : Inspector}
    (reordered : first.checks.Perm second.checks) {password : Text}
    (answered : ∀ check ∈ second.checks, answers (·.passes password) check = true) :
    (first.inspect password).2 = (second.inspect password).2 ∧
      ∀ violation, violation ∈ (first.inspect password).1.found ↔
        violation ∈ (second.inspect password).1.found := by
  obtain ⟨valid, returned⟩ := (inspect_returns_iff second password).2 answered
  obtain ⟨other, alsoReturned⟩ := (inspect_returns_iff first password).2
    fun check member => answered check (reordered.subset member)
  have alike : ∀ violation, violation ∈ (first.inspect password).1.found ↔
      violation ∈ (second.inspect password).1.found := by
    intro violation
    rw [inspect_found_of_returned first password alsoReturned,
      inspect_found_of_returned second password returned, List.mem_eraseDups, List.mem_eraseDups,
      mem_failures_of_perm reordered]
  have verdict : other = valid := by
    rw [Bool.eq_iff_iff, inspect_valid first password alsoReturned,
      inspect_valid second password returned, List.eq_nil_iff_forall_not_mem,
      List.eq_nil_iff_forall_not_mem]
    exact forall_congr' fun violation => not_congr (alike violation)
  rw [returned, alsoReturned, verdict]
  exact ⟨rfl, alike⟩

/-- An inspection after any run of calls. If it returns, it has found the violations of the failing
checks, each at its first occurrence, and its verdict is whether there are any. It returns just if
all checks answer. If one does not, what the checks before the first such one found is kept. No
earlier inspection has an influence, the checks stay as they were added, and adding more leaves what
was found. In another order the same checks give the same verdict and the same set of violations. -/
theorem inspection_depends_on_added_checks (calls : List Call) (password : Text) :
    let next := ((run calls).inspect password).1
    let outcome := ((run calls).inspect password).2
    run (calls ++ [.inspect password]) = next ∧ next.checks = added calls ∧
      (∀ valid, outcome = .ok valid →
        next.found = (failures (·.passes password) (added calls)).eraseDups ∧
          (valid = true ↔ next.found = [])) ∧
      ((∃ valid, outcome = .ok valid) ↔
        ∀ check ∈ added calls, ∃ fine, check.passes password = .ok fine) ∧
      (∀ before check after fault, added calls = before ++ check :: after →
        (∀ earlier ∈ before, ∃ fine, earlier.passes password = .ok fine) →
        check.passes password = .error fault →
          outcome = .error fault ∧
            next.found = (failures (·.passes password) before).eraseDups) ∧
      (∀ others : List Call, added others = added calls →
        (run others).inspect password = (next, outcome)) ∧
      (∀ checks : List Check, (run (calls ++ checks.map .add)).found = (run calls).found) ∧
      ∀ others : List Call, (added others).Perm (added calls) →
        (∀ check ∈ added calls, ∃ fine, check.passes password = .ok fine) →
          ((run others).inspect password).2 = outcome ∧
            ∀ violation, violation ∈ ((run others).inspect password).1.found ↔
              violation ∈ next.found := by
  intro next outcome
  have registered := checks_run calls
  simp only [← answers_iff (fun check : Check => check.passes password)]
  refine ⟨?_, registered, ?_, ?_, ?_, ?_, ?_, ?_⟩
  · rw [run, List.foldl_append]
    rfl
  · intro valid returned
    rw [← registered]
    exact ⟨inspect_found_of_returned _ password returned, inspect_valid _ password returned⟩
  · rw [← registered]
    exact inspect_returns_iff _ password
  · intro before check after fault split answered failed
    exact inspect_of_first_error _ password (registered.trans split) answered failed
  · intro others same
    exact inspect_eq_of_checks_eq (((checks_run others).trans same).trans registered.symm) password
  · intro checks
    rw [run, List.foldl_append]
    exact found_foldl_add checks (run calls)
  · intro others reordered answered
    rw [← checks_run others, ← registered] at reordered
    rw [← registered] at answered
    exact inspect_of_reordered reordered answered

/-- A missing limit cannot be compared with, so the last check is not reached. -/
theorem inspection_depends_on_added_checks_noLimit :
    let calls : List Call :=
      [.add (.minLength (.int 9)), .inspect "abcdefghi", .add (.maxLength .null),
        .add (.maxRepeating (.int 1))]
    let fault : CheckFault := .incomparable ⟨.atMost, "NoneType"⟩
    (added calls = [.minLength (.int 9)] ++ .maxLength .null :: [.maxRepeating (.int 1)] ∧
      (∀ earlier ∈ [Check.minLength (.int 9)], ∃ fine, earlier.passes "xx" = .ok fine) ∧
      (Check.maxLength .null).passes "xx" = .error fault) ∧
      ((run calls).inspect "xx").2 = .error fault ∧
        ((run calls).inspect "xx").1.found = [.tooShort] := by
  intro calls fault
  have split : added calls =
      [.minLength (.int 9)] ++ .maxLength .null :: [.maxRepeating (.int 1)] := rfl
  have answered : ∀ earlier ∈ [Check.minLength (.int 9)], ∃ fine,
      earlier.passes "xx" = .ok fine := by
    intro earlier member
    rw [List.mem_singleton.1 member]
    exact ⟨false, rfl⟩
  have failed : (Check.maxLength .null).passes "xx" = .error fault := rfl
  obtain ⟨_, _, _, _, stops, _⟩ := inspection_depends_on_added_checks calls "xx"
  obtain ⟨outcome, found⟩ := stops _ _ _ _ split answered failed
  exact ⟨⟨split, answered, failed⟩, outcome, found.trans rfl⟩

end PasswordAudit.Inspector
