import PasswordAudit.Inspection.Inspector
import PasswordAudit.Log
import PasswordAudit.Policy.Basic

/-! Evaluating a password by a policy. A password of good strength is exempt from all requirements
but expiry, and from that too unless the policy says otherwise. -/
namespace PasswordAudit

/-- When the password was last changed, and the time to compare with if it is not the current one.
-/
structure Context where
  changed : Option Moment
  now : Option Moment

namespace Context

def blank : Context := ⟨none, none⟩

end Context

namespace Policy

def isExempt (policy : Policy) (password : Text) : Bool :=
  !policy.goodStrength.isZero &&
    Strength.reaches policy.estimator policy.goodStrength.toNat password

def compositionChecks (policy : Policy) : List Check :=
  (if policy.minLength.isZero then [] else [.minLength policy.minLength.toValue])
    ++ (if policy.maxLength.isZero then [] else [.maxLength policy.maxLength.toValue])
    ++ (if policy.minCharacteristics.isZero then []
        else [.minCharacteristics (policy.rules.map (Rule.map Count.toValue))
          policy.minCharacteristics.toValue])
    ++ (policy.maxRepeating.map fun limit => Check.maxRepeating limit.toValue).toList
    ++ (if policy.usesLexicon then
        [if policy.substringMatch.holds then .holdsNoWord policy.lexicon
          else .isNoWord policy.lexicon]
        else [])

def expiryChecks (policy : Policy) (changed : Option (Given Moment)) (now : Moment) :
    List Check :=
  if policy.expirationDays.isZero then []
  else [.notExpired policy.expirationDays.toValue changed now policy.graceLength.toValue]

def checks (policy : Policy) (expiry : List Check) (exempt : Bool) : List Check :=
  if exempt then if policy.expirationOverrides.holds then expiry else []
  else policy.compositionChecks ++ expiry

def violations (policy : Policy) (changed : Option (Given Moment)) (now : Moment)
    (password : Text) : Except CheckFault (List Violation) :=
  Inspector.violations (·.passes password)
    (policy.checks (policy.expiryChecks changed now) (policy.isExempt password))

def evaluate (policy : Policy) (clock : Moment) (context : Context) (password : Text) :
    Except CheckFault (List Violation) :=
  policy.violations (context.changed.map .value) (context.now.getD clock) password

/-- What is told of an evaluation with that outcome. Nothing is inspected, and so nothing told of
it, if the password is exempt from expiry as well. -/
def evaluationEvents (policy : Policy) (exempt : Bool)
    (outcome : Except CheckFault (List Violation)) : List Log.Event :=
  let inspected := !exempt || policy.expirationOverrides.holds
  (if exempt then [.exempted] else [])
    ++ match outcome with
      | .error _ => []
      | .ok found => if inspected then [.violationsFound found] else []

/-- What a blank violates. It has no length, so it is never exempt, and there is no estimate of its
entropy. -/
def blankViolations (policy : Policy) (changed : Option (Given Moment)) (now : Moment) :
    Except CheckFault (List Violation) :=
  if policy.goodStrength.isZero || policy.estimator = .length then
    Inspector.violations Check.passesBlank
      (policy.checks (policy.expiryChecks changed now) false)
  else .error .blankSearched

end Policy
end PasswordAudit
