import PasswordAudit.Lexicon.Search
import PasswordAudit.Rule.Basic
import PasswordAudit.Time.Moment
import PasswordAudit.Value.Comparison
import PasswordAudit.Violation

/-! The checks that a password goes through. The number that a check compares with is a value of any
kind, and one that is no number leaves the check without an answer. So does a time that has no
universal form. -/
namespace PasswordAudit

def Text.runs : Text → List (Char × Nat)
  | [] => []
  | c :: rest => match runs rest with
    | [] => [(c, 1)]
    | (d, n) :: more => if c = d then (d, n + 1) :: more else (c, 1) :: (d, n) :: more

/-- Blanks break runs and form none. -/
def Text.longestRun (text : Text) : Nat :=
  (((runs text).filter fun run => !isBlank run.1).map (·.2)).max?.getD 0

/-- What is handed over where a value is due: the value, or a blank, which has no characters and is
no time. -/
inductive Given (α : Type)
  | value (a : α)
  | blank

inductive CheckFault
  | time (fault : TimeFault)
  | incomparable (fault : Incomparable)
  | blankSearched
  | blankFolded
  | blankLookedUp
  | blankTime
  deriving DecidableEq

def CheckFault.message : CheckFault → Text
  | .time fault => fault.message
  | .incomparable fault => fault.message
  | .blankSearched => "expected string or bytes-like object, got 'list'"
  | .blankFolded => "'list' object has no attribute 'casefold'"
  | .blankLookedUp => "unhashable type: 'list'"
  | .blankTime => "'list' object has no attribute 'tzinfo'"

inductive Check
  | minLength (length : Value)
  | maxLength (length : Value)
  | minCharacteristics (rules : List (Rule Value)) (needed : Value)
  | maxRepeating (limit : Value)
  | holdsNoWord (lexicon : Lexicon)
  | isNoWord (lexicon : Lexicon)
  | notExpired (days : Value) (changed : Option (Given Moment)) (now : Moment) (grace : Value)

namespace Check

def violation : Check → Violation
  | .minLength _ => .tooShort
  | .maxLength _ => .tooLong
  | .minCharacteristics .. => .insufficientCharacteristics
  | .maxRepeating _ => .repeatedCharacters
  | .holdsNoWord _ => .dictionaryMatch
  | .isNoWord _ => .dictionaryMatch
  | .notExpired .. => .expired

def reaches (n : Int) (least : Value) : Except CheckFault Bool :=
  (Relation.atLeast.compare n least).mapError .incomparable

def keepsTo (n : Int) (most : Value) : Except CheckFault Bool :=
  (Relation.atMost.compare n most).mapError .incomparable

/-- How many rules are met: the password holds at least as many characters of the class as the rule
asks for. -/
def metCount (password : Text) : List (Rule Value) → Except CheckFault Nat
  | [] => .ok 0
  | rule :: rest => do
    let met ← reaches (rule.kind.count password) rule.count
    let others ← metCount password rest
    return others + met.toNat

def ageInDays (changed : Given Moment) (now : Moment) : Except CheckFault Int :=
  match changed with
  | .value moment => (Moment.ageInDays moment now).mapError .time
  | .blank => .error .blankTime

/-- No grace is given where none is asked for. -/
def hasGrace (length : Nat) (grace : Value) : Except CheckFault Bool :=
  if grace.holds then reaches length grace else .ok false

/-- A password does not expire after zero days, nor without a time of change, nor if it is long
enough for grace. The age is asked for only then. -/
def isFresh (days : Value) (changed : Option (Given Moment)) (now : Moment) (grace : Value)
    (length : Nat) : Except CheckFault Bool :=
  match changed with
  | none => .ok true
  | some changed =>
    if days.isZero then .ok true
    else do
      let spared ← hasGrace length grace
      if spared then return true
      let age ← ageInDays changed now
      keepsTo age days

def passes (check : Check) (password : Text) : Except CheckFault Bool :=
  match check with
  | .minLength length => reaches password.length length
  | .maxLength length => keepsTo password.length length
  | .minCharacteristics rules needed => do
    let met ← metCount password rules
    reaches met needed
  | .maxRepeating limit => keepsTo (Text.longestRun password) limit
  | .holdsNoWord lexicon => .ok (!lexicon.containsAny password)
  | .isNoWord lexicon => .ok (!lexicon.equalsAny password)
  | .notExpired days changed now grace => isFresh days changed now grace password.length

/-- A blank passes for a password without characters as long as only its length counts. -/
def passesBlank : Check → Except CheckFault Bool
  | .minLength length => reaches 0 length
  | .maxLength length => keepsTo 0 length
  | .minCharacteristics [] needed => reaches 0 needed
  | .minCharacteristics (_ :: _) _ => .error .blankSearched
  | .maxRepeating limit => keepsTo 0 limit
  | .holdsNoWord lexicon =>
    if lexicon.isEmpty || lexicon.caseSensitive then .ok true else .error .blankFolded
  | .isNoWord lexicon =>
    if lexicon.caseSensitive then .error .blankLookedUp else .error .blankFolded
  | .notExpired days changed now grace => isFresh days changed now grace 0

end Check
end PasswordAudit
