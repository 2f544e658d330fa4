import PasswordAudit.Settings.Basic

/-! The policy that settings describe. The lexicon is loaded first, then the rules are read, and the
draft of both with the other settings is checked last; each step is told. -/
namespace PasswordAudit.Settings

def draft (settings : Settings) (rules : List (Rule Nat)) (lexicon : Lexicon) : Draft where
  minLength := .int settings.minLength
  maxLength := .int settings.maxLength
  rules := rules.map (Rule.map fun (count : Nat) => Value.int count)
  minCharacteristics := .int settings.minCharacteristics
  maxRepeating := (settings.maxRepeating.map fun (limit : Nat) => Value.int limit).getD .null
  lexicon := lexicon
  substringMatch := .flag settings.substringMatch
  goodStrength := .int settings.goodStrength
  estimator := .text settings.estimator.name
  expirationDays := .int settings.expirationDays
  graceLength := .int settings.graceLength
  expirationOverrides := .flag settings.expirationOverrides

def policyWith (settings : Settings) (lexicon : Lexicon) : Except Failure Policy := do
  let rules ← (Rule.readOrDefault (some settings.characterRules)).mapError Failure.rules
  ((settings.draft rules lexicon).check).mapError Failure.policy

def loadLexicon (settings : Settings) (read : Lexicon.GrowingReader) :
    List Log.Event × Except Lexicon.LoadFault Lexicon :=
  Lexicon.load read settings.dictionaries settings.caseSensitive

def policy (settings : Settings) (read : Lexicon.GrowingReader) :
    List Log.Event × Except Failure Policy :=
  match settings.loadLexicon read with
  | (events, .error fault) => (events, .error (.lexicon fault))
  | (events, .ok lexicon) =>
    (events ++ [.rulesGiven (some settings.characterRules)], settings.policyWith lexicon)

end PasswordAudit.Settings
