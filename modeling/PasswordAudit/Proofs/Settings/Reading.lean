import PasswordAudit.Proofs.Decimal.Whole
import PasswordAudit.Proofs.Except
import PasswordAudit.Proofs.Text.Cut
import PasswordAudit.Proofs.Text.Strip
import PasswordAudit.Settings.Basic

/-! Settings against the values that they are read from. Each is read from the value under its own
name. When the values are texts, paths have no characters but those of the text that lists them, and
an integer has no more digits than are read. -/
namespace PasswordAudit.Settings

private theorem mem_of_mem_splitPaths {text path : Text} (listed : path ∈ splitPaths text)
    {c : Char} (member : c ∈ path) : c ∈ text := by
  obtain ⟨piece, cut, rfl⟩ := List.mem_map.1 (List.mem_filter.1 listed).1
  exact Text.mem_of_mem_splitOn cut (Text.mem_of_mem_strip member)

namespace IntegerText

private theorem denotes_digitsValue {digits : Text} (filled : digits ≠ [])
    (plain : ∀ c ∈ digits, c.isDigit = true) : Text.Denotes digits (digitsValue digits) := by
  rw [Text.denotes_iff]
  refine ⟨Text.isDecimal_of_isDigit filled plain, List.foldl_ext _ _ _ fun value c member => ?_⟩
  rw [Text.digitValue?_of_isDigit (plain c member)]
  rfl

private theorem length_natural_le_of_readDigits {text : Text} {n : Nat}
    (run : readDigits text = .ok n) :
    (Decimal.natural n).length ≤ digitLimit := by
  simp only [readDigits] at run
  split at run
  · cases run
    decide +kernel
  split at run
  · cases run
  next start =>
  split at run
  · cases run
  next short =>
  split at run
  · cases run
  · cases run
    have plain : ∀ c ∈ text.takeWhile Char.isDigit, c.isDigit = true := by
      intro c member
      simpa using List.all_eq_true.1 List.all_takeWhile c member
    have filled : text.takeWhile Char.isDigit ≠ [] := by
      cases text with
      | nil => simp [startsNumber] at start
      | cons c rest =>
        have digit : c.isDigit = true := by
          simp only [startsNumber, Bool.not_eq_true, Bool.not_eq_false', Bool.and_eq_true] at start
          exact start.1
        simp [digit]
    exact (Decimal.length_natural_le_of_denotes (denotes_digitsValue filled plain)).trans
      (Nat.le_of_not_lt short)

private theorem length_natural_le_of_readPlain {text : Text} {n : Int}
    (run : readPlain text = .ok n) :
    (Decimal.natural n.natAbs).length ≤ digitLimit := by
  unfold readPlain at run
  split at run
  · obtain ⟨whole, lifted, rfl⟩ := (Except.map_eq_ok_iff _ _ _).1 run
    obtain ⟨m, digits, same⟩ := (Except.bind_eq_ok_iff _ _ _).1 lifted
    cases same
    simpa using length_natural_le_of_readDigits digits
  · obtain ⟨m, digits, rfl⟩ := (Except.map_eq_ok_iff _ _ _).1 run
    exact length_natural_le_of_readDigits digits

theorem length_natural_le_of_read {text : Text} {n : Int} (run : read text = .ok n) :
    (Decimal.natural n.natAbs).length ≤ digitLimit := by
  unfold read at run
  split at run
  · unfold readTidied at run
    split at run
    · cases run
    · exact length_natural_le_of_readPlain ((Except.mapError_eq_ok_iff _ _ _).1 run)
  · exact length_natural_le_of_readPlain run

end IntegerText

private theorem given_eq_some {environment : List (Text × Text)} {name : Text} {value : Value}
    (found : given (environment.map fun (name, text) => (name, .text text)) name = some value) :
    ∃ text, (name, text) ∈ environment ∧ value = .text text := by
  obtain ⟨entry, first, rfl⟩ := Option.map_eq_some_iff.1 found
  obtain ⟨⟨other, text⟩, member, rfl⟩ := List.mem_map.1 (List.mem_of_find?_eq_some first)
  obtain rfl : other = name := by simpa using List.find?_some first
  exact ⟨text, member, rfl⟩

/-- Every setting is what the source gives under its name, or the default for it. -/
structure Follows (settings : Settings) (source : Source) : Prop where
  debug : setting source "DEBUG" readFlag false = .ok settings.debug
  logLevel : setting source "LOG_LEVEL" readText "INFO" = .ok settings.logLevel
  logFilePattern : setting source "LOG_FILE_PATTERN" readText
    "logs/password_policy_\x7btime:DD-MM-YYYY\x7d.log" = .ok settings.logFilePattern
  minLength : count source "PASSWORD_MIN_LENGTH" 6 = .ok settings.minLength
  maxLength : count source "PASSWORD_MAX_LENGTH" 0 = .ok settings.maxLength
  characterRules :
    setting source "PASSWORD_CHARACTER_RULES" readText [] = .ok settings.characterRules
  minCharacteristics :
    count source "PASSWORD_NUMBER_OF_CHARACTERISTICS" 2 = .ok settings.minCharacteristics
  maxRepeating : setting source "PASSWORD_MAX_REPEATING_CHARACTERS" readLimit noLimit =
    .ok ⟨settings.maxRepeating, settings.repeating_pos⟩
  dictionaries : pathList source "PASSWORD_DICTIONARIES" = .ok settings.dictionaries
  caseSensitive : setting source "PASSWORD_DICTIONARY_CASE_SENSITIVE" readFlag false =
    .ok settings.caseSensitive
  substringMatch : setting source "PASSWORD_DICTIONARY_SUBSTRING_MATCH" readFlag true =
    .ok settings.substringMatch
  goodStrength : count source "PASSWORD_GOOD_STRENGTH" 20 = .ok settings.goodStrength
  estimator :
    setting source "PASSWORD_STRENGTH_ESTIMATOR" readEstimator .length = .ok settings.estimator
  expirationDays : count source "PASSWORD_EXPIRATION_DAYS" 0 = .ok settings.expirationDays
  graceLength : count source "PASSWORD_EXPIRATION_GRACE_LENGTH" 0 = .ok settings.graceLength
  expirationOverrides : setting source "PASSWORD_EXPIRATION_OVERRIDES_STRENGTH" readFlag false =
    .ok settings.expirationOverrides

theorem read_eq_ok_iff (source : Source) (settings : Settings) :
    read source = .ok settings ↔ settings.Follows source := by
  constructor
  · intro run
    unfold read at run
    simp only [Except.mapError_eq_ok_iff, Except.bind_eq_ok_iff] at run
    obtain ⟨limit, repeating, _, debug, _, logLevel, _, logFilePattern, _, minLength, _, maxLength,
      _, characterRules, _, minCharacteristics, _, dictionaries, _, caseSensitive, _,
      substringMatch, _, goodStrength, _, estimator, _, expirationDays, _, graceLength, _,
      expirationOverrides, same⟩ := run
    cases same
    exact ⟨debug, logLevel, logFilePattern, minLength, maxLength, characterRules,
      minCharacteristics, repeating, dictionaries, caseSensitive, substringMatch, goodStrength,
      estimator, expirationDays, graceLength, expirationOverrides⟩
  · intro follows
    unfold read
    simp only [follows.debug, follows.logLevel, follows.logFilePattern, follows.minLength,
      follows.maxLength, follows.characterRules, follows.minCharacteristics, follows.maxRepeating,
      follows.dictionaries, follows.caseSensitive, follows.substringMatch, follows.goodStrength,
      follows.estimator, follows.expirationDays, follows.graceLength, follows.expirationOverrides]
    rfl

variable {environment : List (Text × Text)} {settings : Settings}

theorem mem_of_mem_dictionaries
    (run : read (environment.map fun (name, text) => (name, .text text)) = .ok settings)
    {path : Text} (listed : path ∈ settings.dictionaries) {c : Char} (member : c ∈ path) :
    ∃ entry ∈ environment, c ∈ entry.2 := by
  have paths := ((read_eq_ok_iff _ _).1 run).dictionaries
  unfold pathList at paths
  split at paths
  · rw [← Except.ok.inj paths] at listed
    cases listed
  · next value found =>
    obtain ⟨text, entry, rfl⟩ := given_eq_some found
    rw [← Except.ok.inj paths] at listed
    exact ⟨_, entry, mem_of_mem_splitPaths listed member⟩

private theorem isWritable_of_readNatural {least : Nat} {text : Text}
    {number : { n : Nat // least ≤ n }}
    (run : readNatural least (.text text) = .ok number) : Decimal.isWritable number.1 = true := by
  unfold readNatural readInteger at run
  split at run
  · cases run
  · next n integer =>
    split at run
    · next enough =>
      cases run
      have size := IntegerText.length_natural_le_of_read integer
      have whole : n.natAbs = n.toNat := by omega
      rw [whole] at size
      exact decide_eq_true size
    · cases run

private theorem isWritable_of_count {name : Text} {default n : Nat}
    (counted : count (environment.map fun (name, text) => (name, .text text)) name default = .ok n)
    (small : Decimal.isWritable default = true) : Decimal.isWritable n = true := by
  unfold count setting at counted
  split at counted
  · rwa [← Except.ok.inj counted]
  · next value found =>
    obtain ⟨text, _, rfl⟩ := given_eq_some found
    obtain ⟨number, natural, rfl⟩ :=
      (Except.map_eq_ok_iff _ _ _).1 ((Except.mapError_eq_ok_iff _ _ _).1 counted)
    exact isWritable_of_readNatural natural

private theorem isWritable_of_readLimit {text : Text} {limit : Limit}
    (run : readLimit (.text text) = .ok limit) : ∀ n ∈ limit.1, Decimal.isWritable n = true := by
  simp only [readLimit] at run
  split at run
  · cases run
    exact nofun
  · obtain ⟨number, natural, rfl⟩ := (Except.map_eq_ok_iff _ _ _).1 run
    rintro n ⟨⟩
    exact isWritable_of_readNatural natural

structure HasWritableCounts (settings : Settings) : Prop where
  minLength : Decimal.isWritable settings.minLength = true
  maxLength : Decimal.isWritable settings.maxLength = true
  minCharacteristics : Decimal.isWritable settings.minCharacteristics = true
  maxRepeating : ∀ limit ∈ settings.maxRepeating, Decimal.isWritable limit = true
  goodStrength : Decimal.isWritable settings.goodStrength = true
  expirationDays : Decimal.isWritable settings.expirationDays = true
  graceLength : Decimal.isWritable settings.graceLength = true

theorem hasWritableCounts_of_read
    (run : read (environment.map fun (name, text) => (name, .text text)) = .ok settings) :
    settings.HasWritableCounts := by
  have follows := (read_eq_ok_iff _ _).1 run
  have limit : ∀ limit ∈ settings.maxRepeating, Decimal.isWritable limit = true := by
    have given := follows.maxRepeating
    unfold setting at given
    split at given
    · rw [← (Subtype.mk.inj (Except.ok.inj given) : noLimit.1 = _)]
      exact nofun
    · next value found =>
      obtain ⟨text, _, rfl⟩ := given_eq_some found
      exact isWritable_of_readLimit ((Except.mapError_eq_ok_iff _ _ _).1 given)
  exact {
    minLength := isWritable_of_count follows.minLength (by decide +kernel)
    maxLength := isWritable_of_count follows.maxLength (by decide +kernel)
    minCharacteristics := isWritable_of_count follows.minCharacteristics (by decide +kernel)
    maxRepeating := limit
    goodStrength := isWritable_of_count follows.goodStrength (by decide +kernel)
    expirationDays := isWritable_of_count follows.expirationDays (by decide +kernel)
    graceLength := isWritable_of_count follows.graceLength (by decide +kernel) }

end PasswordAudit.Settings
