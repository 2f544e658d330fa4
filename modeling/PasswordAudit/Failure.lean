import PasswordAudit.Inspection.Check
import PasswordAudit.Lexicon.Load
import PasswordAudit.Pattern.Fault
import PasswordAudit.Policy.Draft
import PasswordAudit.Settings.Report

/-! All that can go wrong, in one type. The failures of a configuration have a code and are told
with it; the others have none, and end what was under way. -/
namespace PasswordAudit

inductive FailureCode
  | base
  | rulesSyntax
  | unknownClass
  | invalidCount
  | policyInvariant
  | lexiconLoad
  | settings
  deriving DecidableEq

namespace FailureCode

def all : List FailureCode :=
  [base, rulesSyntax, unknownClass, invalidCount, policyInvariant, lexiconLoad, settings]

def number : FailureCode → Nat
  | base => 0
  | rulesSyntax => 1
  | unknownClass => 2
  | invalidCount => 3
  | policyInvariant => 4
  | lexiconLoad => 5
  | settings => 6

def label : FailureCode → Text
  | base => "BASE_ERROR"
  | rulesSyntax => "CHARACTER_RULES_SYNTAX_ERROR"
  | unknownClass => "UNKNOWN_CHARACTER_CLASS_ERROR"
  | invalidCount => "INVALID_CHARACTER_COUNT_ERROR"
  | policyInvariant => "POLICY_INVARIANT_ERROR"
  | lexiconLoad => "DICTIONARY_LOAD_ERROR"
  | settings => "POLICY_SETTINGS_ERROR"

def name : FailureCode → Text
  | base => "ConfigError"
  | rulesSyntax => "CharacterRulesSyntaxError"
  | unknownClass => "UnknownCharacterClassError"
  | invalidCount => "InvalidCharacterCountError"
  | policyInvariant => "PolicyInvariantError"
  | lexiconLoad => "DictionaryLoadError"
  | settings => "PolicySettingsError"

end FailureCode

structure FailureKind where
  name : Text
  code : Value

inductive FailureKind.Fault
  | nulInName
  | codeMissing
  deriving DecidableEq

namespace FailureKind

def Fault.message : Fault → Text
  | .nulInName => "type name must not contain null characters"
  | .codeMissing => "code must be set"

def declare (name : Text) (code : Option Value) : Except Fault FailureKind :=
  if name.contains '\x00' then .error .nulInName
  else match code with
    | some code => .ok ⟨name, code⟩
    | none => .error .codeMissing

def detail (kind : FailureKind) (message : Text) : Text :=
  kind.name ++ " [" ++ kind.code.plain ++ "]: " ++ message

end FailureKind

def FailureCode.kind (code : FailureCode) : FailureKind := ⟨code.name, .int code.number⟩

inductive Failure
  | rules (fault : Rule.Fault)
  | policy (fault : Policy.Fault)
  | lexicon (fault : Lexicon.LoadFault)
  | settings (issues : List Settings.Issue)
  | check (fault : CheckFault)
  | count (fault : Count.Fault)
  | unknownLevel (name : Text)
  | logPattern (fault : Pattern.Fault)
  | logFile (fault : OpenFault)

/-- The message of a fault names values, and an integer in one of them may be too long to write. -/
def Policy.Fault.isTellable : Policy.Fault → Bool
  | .unknownEstimator value => value.isWritable
  | .notInteger _ value => value.isWritable
  | .tooManyCharacteristics wanted _ => wanted.isWritable
  | _ => true

namespace Failure

/-- A fault of a policy that cannot be told is no longer known as one. -/
def code? : Failure → Option FailureCode
  | .rules (.malformed _) => some .rulesSyntax
  | .rules (.unknownClass _) => some .unknownClass
  | .rules (.invalidCount _ _) => some .invalidCount
  | .rules (.oversizedCount _) => none
  | .policy fault => if fault.isTellable then some .policyInvariant else none
  | .lexicon (.unreadable _ _) => some .lexiconLoad
  | .lexicon .nulInPath => none
  | .settings _ => some .settings
  | .check _ => none
  | .count _ => none
  | .unknownLevel _ => none
  | .logPattern _ => none
  | .logFile _ => none

def message : Failure → Text
  | .rules fault => fault.message
  | .policy fault => if fault.isTellable then fault.message else Decimal.unwritableMessage
  | .lexicon fault => fault.message
  | .settings issues => Settings.report issues
  | .check fault => fault.message
  | .count fault => fault.message
  | .unknownLevel name => "Level '" ++ name ++ "' does not exist"
  | .logPattern fault => fault.message
  | .logFile fault => fault.message

def detail (failure : Failure) (code : FailureCode) : Text :=
  code.kind.detail failure.message

end Failure
end PasswordAudit
