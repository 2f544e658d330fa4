import PasswordAudit.Failure
import PasswordAudit.Log
import PasswordAudit.Settings.Reading

/-! Settings: named values, from an environment or given directly, that configure a policy and how
its use is told. Names that are not settings are passed over, and all issues are reported together,
in the order of the settings. -/
namespace PasswordAudit

structure Settings where
  debug : Bool
  logLevel : Text
  logFilePattern : Text
  minLength : Nat
  maxLength : Nat
  characterRules : Text
  minCharacteristics : Nat
  maxRepeating : Option Nat
  dictionaries : List Text
  caseSensitive : Bool
  substringMatch : Bool
  goodStrength : Nat
  estimator : Estimator
  expirationDays : Nat
  graceLength : Nat
  expirationOverrides : Bool
  repeating_pos : ∀ limit ∈ maxRepeating, 1 ≤ limit

namespace Settings

def names : List Text :=
  ["DEBUG".toList, "LOG_LEVEL".toList, "LOG_FILE_PATTERN".toList, "PASSWORD_MIN_LENGTH".toList,
    "PASSWORD_MAX_LENGTH".toList, "PASSWORD_CHARACTER_RULES".toList,
    "PASSWORD_NUMBER_OF_CHARACTERISTICS".toList, "PASSWORD_MAX_REPEATING_CHARACTERS".toList,
    "PASSWORD_DICTIONARIES".toList, "PASSWORD_DICTIONARY_CASE_SENSITIVE".toList,
    "PASSWORD_DICTIONARY_SUBSTRING_MATCH".toList, "PASSWORD_GOOD_STRENGTH".toList,
    "PASSWORD_STRENGTH_ESTIMATOR".toList, "PASSWORD_EXPIRATION_DAYS".toList,
    "PASSWORD_EXPIRATION_GRACE_LENGTH".toList, "PASSWORD_EXPIRATION_OVERRIDES_STRENGTH".toList]

abbrev Source := List (Text × Value)

def given (source : Source) (name : Text) : Option Value :=
  (source.find? (·.1 == name)).map (·.2)

/-- A setting that is not given has its default, and a default needs no reading. -/
def setting {α : Type} (source : Source) (name : Text) (read : Value → Except IssueKind α)
    (default : α) : Except (List Issue) α :=
  match given source name with
  | none => .ok default
  | some value => (read value).mapError fun kind => [⟨name, none, kind, value⟩]

def count (source : Source) (name : Text) (default : Nat) : Except (List Issue) Nat :=
  setting source name (fun value => (readNatural 0 value).map (·.1)) default

def pathList (source : Source) (name : Text) : Except (List Issue) (List Text) :=
  match given source name with
  | none => .ok []
  | some value => (readPaths value).mapError (·.map fun (place, kind, input) =>
      ⟨name, place, kind, input⟩)

def issuesOf {α : Type} : Except (List Issue) α → List Issue
  | .ok _ => []
  | .error issues => issues

def read (source : Source) : Except (List Issue) Settings :=
  let debug := setting source "DEBUG" readFlag false
  let logLevel := setting source "LOG_LEVEL" readText "INFO"
  let logFilePattern :=
    setting source "LOG_FILE_PATTERN" readText "logs/password_policy_\x7btime:DD-MM-YYYY\x7d.log"
  let minLength := count source "PASSWORD_MIN_LENGTH" 6
  let maxLength := count source "PASSWORD_MAX_LENGTH" 0
  let characterRules := setting source "PASSWORD_CHARACTER_RULES" readText []
  let minCharacteristics := count source "PASSWORD_NUMBER_OF_CHARACTERISTICS" 2
  let maxRepeating :=
    setting source "PASSWORD_MAX_REPEATING_CHARACTERS" readLimit noLimit
  let dictionaries := pathList source "PASSWORD_DICTIONARIES"
  let caseSensitive := setting source "PASSWORD_DICTIONARY_CASE_SENSITIVE" readFlag false
  let substringMatch := setting source "PASSWORD_DICTIONARY_SUBSTRING_MATCH" readFlag true
  let goodStrength := count source "PASSWORD_GOOD_STRENGTH" 20
  let estimator := setting source "PASSWORD_STRENGTH_ESTIMATOR" readEstimator .length
  let expirationDays := count source "PASSWORD_EXPIRATION_DAYS" 0
  let graceLength := count source "PASSWORD_EXPIRATION_GRACE_LENGTH" 0
  let expirationOverrides := setting source "PASSWORD_EXPIRATION_OVERRIDES_STRENGTH" readFlag false
  let issues := issuesOf debug ++ issuesOf logLevel ++ issuesOf logFilePattern
    ++ issuesOf minLength ++ issuesOf maxLength ++ issuesOf characterRules
    ++ issuesOf minCharacteristics ++ issuesOf maxRepeating ++ issuesOf dictionaries
    ++ issuesOf caseSensitive ++ issuesOf substringMatch ++ issuesOf goodStrength
    ++ issuesOf estimator ++ issuesOf expirationDays ++ issuesOf graceLength
    ++ issuesOf expirationOverrides
  let settings : Except (List Issue) Settings := do
    let limit ← maxRepeating
    return {
      debug := ← debug, logLevel := ← logLevel, logFilePattern := ← logFilePattern
      minLength := ← minLength, maxLength := ← maxLength
      characterRules := ← characterRules, minCharacteristics := ← minCharacteristics
      maxRepeating := limit.1, dictionaries := ← dictionaries
      caseSensitive := ← caseSensitive, substringMatch := ← substringMatch
      goodStrength := ← goodStrength, estimator := ← estimator
      expirationDays := ← expirationDays, graceLength := ← graceLength
      expirationOverrides := ← expirationOverrides, repeating_pos := limit.2 }
  settings.mapError fun _ => issues

end Settings
end PasswordAudit
