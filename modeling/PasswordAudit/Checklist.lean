import PasswordAudit.Evaluation

/-! The checklist of a policy: a line for each requirement that it makes, in the order in which
violations are reported, marked by what an evaluation found. -/
namespace PasswordAudit

structure Requirement where
  violation : Violation
  /-- Unknown before an evaluation. -/
  satisfied : Option Bool
  text : Text

namespace Policy

def exemptionNote (policy : Policy) : Except Count.Fault Text :=
  if policy.goodStrength.isZero then .ok []
  else do
    let strength ← policy.goodStrength.write
    return match policy.estimator with
      | .length =>
        " (passwords of at least " ++ strength
          ++ " characters are exempt from all other requirements)"
      | .entropy =>
        " (passwords with estimated strength of at least " ++ strength
          ++ " bits are exempt from all other requirements)"

def graceNote (policy : Policy) : Except Count.Fault Text :=
  if policy.graceLength.isZero then .ok []
  else do
    let length ← policy.graceLength.write
    return " (passwords of at least " ++ length ++ " characters do not expire)"

def phraseUnlessZero (count : Count) (before after : Text) (note : Except Count.Fault Text) :
    Except Count.Fault (Option Text) :=
  if count.isZero then .ok none
  else do
    let number ← count.write
    let noted ← note
    return some (before ++ number ++ after ++ noted)

def wording (policy : Policy) : Violation → Except Count.Fault (Option Text)
  | .tooShort => phraseUnlessZero policy.minLength "At least " " characters" policy.exemptionNote
  | .tooLong => phraseUnlessZero policy.maxLength "At most " " characters" (.ok [])
  | .insufficientCharacteristics =>
    phraseUnlessZero policy.minCharacteristics "At least " " of the following: "
      (.ok (Rule.phrase policy.rules))
  | .repeatedCharacters => match policy.maxRepeating with
    | none => .ok none
    | some limit => do
      let number ← limit.write
      return some ("No more than " ++ number ++ " repeating characters in a row")
  | .dictionaryMatch => .ok (if policy.usesLexicon then some "No dictionary words" else none)
  | .expired =>
    phraseUnlessZero policy.expirationDays "Changed at least every " " days" policy.graceNote

def wordings (policy : Policy) : List Violation → Except Count.Fault (List (Violation × Text))
  | [] => .ok []
  | violation :: rest => do
    let text ← policy.wording violation
    let others ← policy.wordings rest
    return (text.map (violation, ·)).toList ++ others

/-- The checklist, marked if it is known what was violated. There is none if one of its numbers
cannot be written. -/
def checklist (policy : Policy) (violated : Option (List Violation)) :
    Except Count.Fault (List Requirement) := do
  let texts ← policy.wordings Violation.all
  return texts.map fun (violation, text) =>
    ⟨violation, violated.map fun found => !found.contains violation, text⟩

end Policy

namespace Requirement

def mark (requirement : Requirement) : Text :=
  match requirement.satisfied with
  | none => "[ ]"
  | some true => "[ok]"
  | some false => "[fail]"

def line (requirement : Requirement) : Text := requirement.mark ++ " " ++ requirement.text

def render (requirements : List Requirement) : Text :=
  List.intercalate "\n" (requirements.map line)

end Requirement
end PasswordAudit
