import PasswordAudit.Lexicon.Basic
import PasswordAudit.Policy.Count
import PasswordAudit.Rule.Basic
import PasswordAudit.Strength

/-! Policies: what is asked of a password. A count of zero switches its requirement off, and so do a
missing limit on repetition and an empty lexicon. The lengths do not cross, no more rules have to
be met than there are, and a limit on repetition leaves room for one character. -/
namespace PasswordAudit

structure Policy where
  minLength : Count
  maxLength : Count
  rules : List (Rule Count)
  minCharacteristics : Count
  maxRepeating : Option Count
  lexicon : Lexicon
  /-- Whether a password must not even hold a word; otherwise it must not be one. -/
  substringMatch : Value
  /-- The strength from which on a password is exempt from the other requirements. -/
  goodStrength : Count
  estimator : Estimator
  expirationDays : Count
  /-- The length from which on a password does not expire. -/
  graceLength : Count
  /-- Whether an exempt password expires all the same. -/
  expirationOverrides : Value
  lengths_le : maxLength.toNat = 0 ∨ minLength.toNat ≤ maxLength.toNat
  characteristics_le : minCharacteristics.toNat ≤ rules.length
  repeating_pos : ∀ limit ∈ maxRepeating, 1 ≤ limit.toNat

namespace Policy

def isRepeatingLimited (policy : Policy) : Bool := policy.maxRepeating.isSome

def usesLexicon (policy : Policy) : Bool := !policy.lexicon.isEmpty

/-- The policy to start from. An empty lexicon is replaced by a fresh one. -/
def preset (lexicon : Lexicon) : Policy where
  minLength := .number 6
  maxLength := .number 0
  rules := Rule.oneLetterOneDigit.map (Rule.map .number)
  minCharacteristics := .number 2
  maxRepeating := none
  lexicon := if lexicon.isEmpty then Lexicon.empty else lexicon
  substringMatch := .flag true
  goodStrength := .number 20
  estimator := .length
  expirationDays := .number 0
  graceLength := .number 0
  expirationOverrides := .flag false
  lengths_le := .inl rfl
  characteristics_le := Nat.le_refl 2
  repeating_pos := Count.no_limit_pos

end Policy
end PasswordAudit
