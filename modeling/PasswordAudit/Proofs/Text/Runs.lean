import Mathlib.Data.List.Infix
import PasswordAudit.Inspection.Check

/-! Runs of equal characters against stretches of a text. The grouping into runs looks only at
neighbours; here it is shown to find the longest stretch of one character, wherever that stands. -/
namespace PasswordAudit.Text

def leadingRun (c : Char) : List (Char × Nat) → Nat
  | [] => 0
  | (d, n) :: _ => if c = d then n else 0

def HasRunAbove (c : Char) (n : Nat) (runs : List (Char × Nat)) : Prop :=
  ∃ run ∈ runs, run.1 = c ∧ n < run.2

private theorem leadingRun_runs_cons (c d : Char) (rest : Text) :
    leadingRun c (runs (d :: rest)) = if c = d then leadingRun c (runs rest) + 1 else 0 := by
  rw [runs]
  cases runs rest with
  | nil => by_cases same : c = d <;> simp [leadingRun, same]
  | cons run more =>
    obtain ⟨e, n⟩ := run
    by_cases same : c = d
    · subst same
      by_cases next : c = e <;> simp [leadingRun, next]
    · by_cases next : d = e
      · subst next
        simp [leadingRun, same]
      · simp [leadingRun, same, next]

private theorem hasRunAbove_runs_cons (c d : Char) (n : Nat) (rest : Text) :
    HasRunAbove c n (runs (d :: rest)) ↔
      (c = d ∧ n ≤ leadingRun c (runs rest)) ∨ HasRunAbove c n (runs rest) := by
  rw [runs]
  cases runs rest with
  | nil => simp [HasRunAbove, leadingRun, eq_comm]
  | cons run more =>
    obtain ⟨e, m⟩ := run
    by_cases next : d = e
    · subst next
      simp only [HasRunAbove, leadingRun, if_true, List.exists_mem_cons_iff]
      by_cases same : c = d
      · subst same
        simp only [if_true, true_and]
        rw [← or_assoc]
        refine or_congr_left ⟨fun above => Or.inl (by omega), fun above => by omega⟩
      · simp [same, Ne.symm same]
    · simp only [HasRunAbove, leadingRun, next, if_false, List.exists_mem_cons_iff]
      by_cases same : c = d
      · subst same
        simp [next]
      · simp [same, Ne.symm same]

private theorem replicate_prefix_iff (c : Char) (n : Nat) (text : Text) :
    List.replicate n c <+: text ↔ n ≤ leadingRun c (runs text) := by
  induction text generalizing n with
  | nil => simp [runs, leadingRun]
  | cons d rest ih =>
    cases n with
    | zero => simp
    | succ n =>
      rw [List.replicate_succ, List.cons_prefix_cons, ih, leadingRun_runs_cons]
      by_cases same : c = d <;> simp [same]

/-- A stretch of more than `n` copies begins at the front, where it belongs to the first run, or
lies in the rest. -/
private theorem replicate_isInfix_iff (c : Char) (n : Nat) (text : Text) :
    List.replicate (n + 1) c <:+: text ↔ HasRunAbove c n (runs text) := by
  induction text with
  | nil => simp [runs, HasRunAbove]
  | cons d rest ih =>
    rw [List.infix_cons_iff, ih, hasRunAbove_runs_cons, List.replicate_succ, List.cons_prefix_cons,
      replicate_prefix_iff]

private theorem lt_max?_getD_iff (n : Nat) (lengths : List Nat) :
    n < lengths.max?.getD 0 ↔ ∃ length ∈ lengths, n < length := by
  cases greatest : lengths.max? with
  | none => simp [List.max?_eq_none_iff.1 greatest]
  | some m =>
    obtain ⟨member, upper⟩ := List.max?_eq_some_iff.1 greatest
    rw [Option.getD_some]
    constructor
    · intro above
      exact ⟨m, member, above⟩
    · rintro ⟨length, listed, above⟩
      exact Nat.lt_of_lt_of_le above (upper length listed)

theorem lt_longestRun_iff (n : Nat) (text : Text) :
    n < longestRun text ↔ ∃ c, isBlank c = false ∧ List.replicate (n + 1) c <:+: text := by
  simp only [longestRun, lt_max?_getD_iff, replicate_isInfix_iff, HasRunAbove, List.mem_map,
    List.mem_filter, Bool.not_eq_true']
  constructor
  · rintro ⟨_, ⟨run, ⟨member, inked⟩, rfl⟩, above⟩
    exact ⟨run.1, inked, run, member, rfl, above⟩
  · rintro ⟨_, inked, run, member, rfl, above⟩
    exact ⟨run.2, ⟨run, ⟨member, inked⟩, rfl⟩, above⟩

end PasswordAudit.Text
