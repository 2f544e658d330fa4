import PasswordAudit.Text.Blank
import PasswordAudit.Text.CaseFold

/-! Character classes. Letters and digits are those of ASCII; every other character that is not
blank is special, so upper case, lower case, digits, special characters and blanks share out all
characters. -/
namespace PasswordAudit

inductive CharacterClass
  | alphabetical
  | digit
  | upperCase
  | lowerCase
  | special
  deriving DecidableEq

namespace CharacterClass

def all : List CharacterClass := [.alphabetical, .digit, .upperCase, .lowerCase, .special]

def name : CharacterClass → Text
  | .alphabetical => "Alphabetical"
  | .digit => "Digit"
  | .upperCase => "UpperCase"
  | .lowerCase => "LowerCase"
  | .special => "Special"

/-- The class of that name, in any mix of cases. -/
def ofName? (name : Text) : Option CharacterClass :=
  all.find? fun kind => Text.fold kind.name == Text.fold name

def ofExactName? (name : Text) : Option CharacterClass :=
  all.find? (·.name == name)

def holds : CharacterClass → Char → Bool
  | .alphabetical, c => c.isAlpha
  | .digit, c => c.isDigit
  | .upperCase, c => c.isUpper
  | .lowerCase, c => c.isLower
  | .special, c => !c.isAlpha && !c.isDigit && !Text.isBlank c

def count (kind : CharacterClass) (text : Text) : Nat := text.countP kind.holds

def pattern : CharacterClass → Text
  | .alphabetical => "[a-zA-Z]"
  | .digit => "[0-9]"
  | .upperCase => "[A-Z]"
  | .lowerCase => "[a-z]"
  | .special => "[^a-zA-Z0-9\\s]"

end CharacterClass
end PasswordAudit
