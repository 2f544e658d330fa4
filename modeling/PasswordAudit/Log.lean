import PasswordAudit.Decimal.Whole
import PasswordAudit.Policy.Count
import PasswordAudit.Rule.Notation
import PasswordAudit.Text.Quoted
import PasswordAudit.Violation

/-! What is worth telling while policies are made and used. Each event has a level, and a listener
hears the events at its own level and above. -/
namespace PasswordAudit.Log

inductive Level
  | trace
  | debug
  | info
  | success
  | warning
  | error
  | critical
  deriving DecidableEq

namespace Level

def all : List Level := [trace, debug, info, success, warning, error, critical]

def name : Level → Text
  | trace => "TRACE"
  | debug => "DEBUG"
  | info => "INFO"
  | success => "SUCCESS"
  | warning => "WARNING"
  | error => "ERROR"
  | critical => "CRITICAL"

def severity : Level → Nat
  | trace => 5
  | debug => 10
  | info => 20
  | success => 25
  | warning => 30
  | error => 40
  | critical => 50

def ofName? (name : Text) : Option Level := all.find? (·.name == name)

end Level

inductive Event
  | rulesGiven (text : Option Text)
  | wordsLoaded (count : Nat) (source : Text)
  | wordsDropped (count : Nat)
  | exempted
  | violationsFound (violations : List Violation)
  | policyUpdated (minLength maxLength : Count) (rules : List (Rule Count))
      (minCharacteristics : Count) (words : Nat)

namespace Event

def level : Event → Level
  | rulesGiven _ => .debug
  | wordsLoaded _ _ => .info
  | wordsDropped _ => .warning
  | exempted => .debug
  | violationsFound _ => .debug
  | policyUpdated .. => .info

def message : Event → Text
  | rulesGiven text =>
    "Character rules config string: " ++ ((text.map Text.quoted).getD "None".toList)
  | wordsLoaded count source =>
    "Loaded " ++ Decimal.natural count ++ " words from `" ++ source ++ "`"
  | wordsDropped count =>
    "Dropped " ++ Decimal.natural count ++ " duplicated dictionary words"
  | exempted => "Password has good strength, other checks are waived"
  | violationsFound violations =>
    "Password violations: [" ++ List.intercalate ", " (violations.map Violation.tag) ++ "]"
  | policyUpdated minLength maxLength rules minCharacteristics words =>
    "Password policy updated: min_length=" ++ minLength.text
      ++ ", max_length=" ++ maxLength.text
      ++ ", character_rules=" ++ Text.quoted (Rule.write Count.text rules)
      ++ ", min_characteristics=" ++ minCharacteristics.text
      ++ ", dictionary_words=" ++ Decimal.natural words

end Event

def heard (level : Level) (events : List Event) : List Event :=
  events.filter fun event => level.severity ≤ event.level.severity

end PasswordAudit.Log
