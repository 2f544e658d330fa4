import PasswordAudit.Text.Basic

/-! The ways in which a password can break a policy, in the order in which they are reported. -/
namespace PasswordAudit

inductive Violation
  | tooShort
  | tooLong
  | insufficientCharacteristics
  | repeatedCharacters
  | dictionaryMatch
  | expired
  deriving DecidableEq

namespace Violation

def all : List Violation :=
  [.tooShort, .tooLong, .insufficientCharacteristics, .repeatedCharacters, .dictionaryMatch,
    .expired]

def rank : Violation → Nat
  | .tooShort => 0
  | .tooLong => 1
  | .insufficientCharacteristics => 2
  | .repeatedCharacters => 3
  | .dictionaryMatch => 4
  | .expired => 5

def name : Violation → Text
  | .tooShort => "TOO_SHORT"
  | .tooLong => "TOO_LONG"
  | .insufficientCharacteristics => "INSUFFICIENT_CHARACTERISTICS"
  | .repeatedCharacters => "REPEATED_CHARACTERS"
  | .dictionaryMatch => "DICTIONARY_MATCH"
  | .expired => "EXPIRED"

def ofName? (name : Text) : Option Violation := all.find? (·.name == name)

def message : Violation → Text
  | .tooShort => "Password must be longer"
  | .tooLong => "Password should be shorter"
  | .insufficientCharacteristics => "Password must contain more kinds of characters"
  | .repeatedCharacters => "Password must contain fewer consecutive repeating characters"
  | .dictionaryMatch => "Password must not contain dictionary word"
  | .expired => "Password is expired"

def messages (violations : List Violation) : Text :=
  List.intercalate " " (violations.map message)

def tag (violation : Violation) : Text :=
  "<ErrorKind." ++ violation.name ++ ": '" ++ violation.name ++ "'>"

end Violation
end PasswordAudit
