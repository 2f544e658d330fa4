import PasswordAudit.Inspection.Check

/-! Inspectors collect checks and apply them to passwords. All checks run, in the order in which
they were added, and each kind of violation is reported once. A check without an answer ends an
inspection; what was found before it is kept. -/
namespace PasswordAudit

structure Inspector where
  checks : List Check
  found : List Violation

namespace Inspector

def empty : Inspector := ⟨[], []⟩

def add (inspector : Inspector) (check : Check) : Inspector :=
  { inspector with checks := inspector.checks ++ [check] }

def note (found : List Violation) (violation : Violation) : List Violation :=
  if found.contains violation then found else found ++ [violation]

/-- Goes through the checks, and stops at the first without an answer. -/
def survey (passes : Check → Except CheckFault Bool) :
    List Check → List Violation → List Violation × Except CheckFault Unit
  | [], found => (found, .ok ())
  | check :: rest, found =>
    match passes check with
    | .error fault => (found, .error fault)
    | .ok true => survey passes rest found
    | .ok false => survey passes rest (note found check.violation)

def inspect (inspector : Inspector) (password : Text) : Inspector × Except CheckFault Bool :=
  let (found, outcome) := survey (·.passes password) inspector.checks []
  ({ inspector with found }, outcome.map fun _ => found.isEmpty)

def violations (passes : Check → Except CheckFault Bool) (checks : List Check) :
    Except CheckFault (List Violation) :=
  match survey passes checks [] with
  | (_, .error fault) => .error fault
  | (found, .ok _) => .ok found

end Inspector
end PasswordAudit
