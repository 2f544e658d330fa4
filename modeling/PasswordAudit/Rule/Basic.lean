import PasswordAudit.CharacterClass

/-! Composition rules: a character class and how many characters of it a password has to hold. The
count is a parameter, because a rule is read, drafted and enforced with different kinds of count. -/
namespace PasswordAudit

structure Rule (α : Type) where
  kind : CharacterClass
  count : α
  deriving DecidableEq

namespace Rule

def map {α β : Type} (f : α → β) (rule : Rule α) : Rule β := ⟨rule.kind, f rule.count⟩

def oneLetterOneDigit : List (Rule Nat) := [⟨.alphabetical, 1⟩, ⟨.digit, 1⟩]

def oneOfEach : List (Rule Nat) := [⟨.upperCase, 1⟩, ⟨.lowerCase, 1⟩, ⟨.digit, 1⟩, ⟨.special, 1⟩]

/-- A phrase for the characters that rules ask for. Only two sizes of a list have one. -/
def phrase {α : Type} (rules : List (Rule α)) : Text :=
  match rules.length with
  | 2 => "a letter and a number"
  | 4 => "uppercase, lowercase, numeric, or special characters"
  | _ => "UNKNOWN"

end Rule
end PasswordAudit
