import Mathlib.Data.List.TakeWhile
import PasswordAudit.Inspection.Inspector

/-! What a survey of checks gives, said without its loop: the violations of the checks that fail
before the first one without an answer, each once and in order, and an outcome that depends on the
answers alone. -/
namespace PasswordAudit.Inspector

variable (passes : Check → Except CheckFault Bool)

def answers (check : Check) : Bool :=
  match passes check with
  | .ok _ => true
  | .error _ => false

def fails (check : Check) : Bool :=
  match passes check with
  | .ok fine => !fine
  | .error _ => false

theorem answers_iff (check : Check) :
    answers passes check = true ↔ ∃ fine, passes check = .ok fine := by
  unfold answers
  cases passes check with
  | error fault => simp
  | ok fine => simp

/-- The violations of failing checks, repeats included. -/
def failures (checks : List Check) : List Violation :=
  (checks.filter (fails passes)).map Check.violation

theorem survey_found (checks : List Check) (found : List Violation) :
    (survey passes checks found).1 =
      (failures passes (checks.takeWhile (answers passes))).foldl note found := by
  induction checks generalizing found with
  | nil => rfl
  | cons check rest ih =>
    rw [survey]
    cases outcome : passes check with
    | error fault =>
      simp [answers, outcome, failures]
    | ok fine =>
      cases fine with
      | true => simp [ih, answers, fails, outcome, failures]
      | false => simp [ih, answers, fails, outcome, failures]

theorem survey_outcome_iff (checks : List Check) (found : List Violation) :
    (survey passes checks found).2 = .ok () ↔ ∀ check ∈ checks, answers passes check = true := by
  induction checks generalizing found with
  | nil => simp [survey]
  | cons check rest ih =>
    rw [survey]
    cases outcome : passes check with
    | error fault => simp [answers, outcome]
    | ok fine =>
      cases fine with
      | true => simp [ih, answers, outcome]
      | false => simp [ih, answers, outcome]

theorem survey_outcome_of_first_error {before : List Check} {check : Check} {fault : CheckFault}
    (answered : ∀ earlier ∈ before, answers passes earlier = true)
    (failed : passes check = .error fault) (after : List Check) (found : List Violation) :
    (survey passes (before ++ check :: after) found).2 = .error fault := by
  induction before generalizing found with
  | nil => simp [survey, failed]
  | cons first rest ih =>
    obtain ⟨fine, outcome⟩ := (answers_iff passes first).1 (answered first (List.mem_cons_self ..))
    have later := ih fun earlier member => answered earlier (List.mem_cons_of_mem _ member)
    rw [List.cons_append, survey, outcome]
    cases fine with
    | true => exact later found
    | false => exact later (note found first.violation)

private theorem foldl_note (noted more : List Violation) :
    more.foldl note noted =
      noted ++ (more.filter fun violation => !noted.contains violation).eraseDups := by
  induction more generalizing noted with
  | nil => simp
  | cons violation rest ih =>
    by_cases known : violation ∈ noted
    · have step : note noted violation = noted := by simp [note, known]
      rw [List.foldl_cons, step, ih, List.filter_cons_of_neg (by simp [known])]
    · have step : note noted violation = noted ++ [violation] := by simp [note, known]
      rw [List.foldl_cons, step, ih, List.filter_cons_of_pos (by simp [known]),
        List.eraseDups_cons, List.filter_filter, List.append_assoc, List.singleton_append]
      congr 3
      apply List.filter_congr
      intro other _
      rw [Bool.eq_iff_iff]
      simp [and_comm]

theorem foldl_note_nil (more : List Violation) : more.foldl note [] = more.eraseDups := by
  have fresh : more.filter (fun violation => !([] : List Violation).contains violation) = more :=
    List.filter_eq_self.2 fun _ _ => rfl
  rw [foldl_note, fresh, List.nil_append]

theorem eraseDups_of_nodup {kinds : List Violation} (distinct : kinds.Nodup) :
    kinds.eraseDups = kinds := by
  induction distinct with
  | nil => rfl
  | @cons violation rest fresh _ ih =>
    have kept : rest.filter (fun other => !other == violation) = rest := by
      rw [List.filter_eq_self]
      intro other member
      simpa using (fresh other member).symm
    rw [List.eraseDups_cons, kept, ih]

/-- Where each check guards against a violation of its own, those of the failing checks are picked
out of the list of violations. -/
theorem failures_filterMap (guard : Violation → Option Check)
    (labelled : ∀ violation check, guard violation = some check → check.violation = violation)
    (kinds : List Violation) :
    failures passes (kinds.filterMap guard) =
      kinds.filter fun violation => (guard violation).any (fails passes) := by
  induction kinds with
  | nil => rfl
  | cons violation rest ih =>
    rw [failures] at ih
    cases guarded : guard violation with
    | none => simp [failures, guarded, ih]
    | some check =>
      have label := labelled violation check guarded
      cases failing : fails passes check with
      | false => simp [failures, guarded, failing, ih]
      | true => simp [failures, guarded, failing, ih, label]

/-- A pass through checks gives a result just if all of them answer. -/
theorem violations_eq_ok_iff (checks : List Check) (found : List Violation) :
    violations passes checks = .ok found ↔
      (∀ check ∈ checks, answers passes check = true) ∧
        found = (failures passes checks).foldl note [] := by
  have surveyed := survey_found passes checks []
  have outcome := survey_outcome_iff passes checks []
  unfold violations
  cases result : survey passes checks [] with
  | mk noted ending =>
    rw [result] at surveyed outcome
    cases ending with
    | error fault =>
      have silent : ¬ ∀ check ∈ checks, answers passes check = true := by simpa using outcome
      simp [silent]
    | ok =>
      have answered : ∀ check ∈ checks, answers passes check = true := outcome.1 rfl
      rw [List.takeWhile_eq_self_iff.2 answered] at surveyed
      simp only [Except.ok.injEq]
      rw [← surveyed]
      exact ⟨fun same => ⟨answered, same.symm⟩, fun both => both.2.symm⟩

theorem violations_of_first_error {before : List Check} {check : Check} {fault : CheckFault}
    (answered : ∀ earlier ∈ before, answers passes earlier = true)
    (failed : passes check = .error fault) (after : List Check) :
    violations passes (before ++ check :: after) = .error fault := by
  have outcome := survey_outcome_of_first_error passes answered failed after []
  unfold violations
  cases result : survey passes (before ++ check :: after) [] with
  | mk noted ending =>
    rw [result] at outcome
    cases outcome
    rfl

end PasswordAudit.Inspector
