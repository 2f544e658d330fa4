import PasswordAudit.Lexicon.Basic

/-! Searching a password for the words of a lexicon. Whether it is a word is looked up; whether it
holds one is found by looking up each of its stretches that is as long as a word can be. -/
namespace PasswordAudit.Lexicon

def equalsAny (lexicon : Lexicon) (password : Text) : Bool :=
  lexicon.words.contains (normalize lexicon.caseSensitive password)

def fittingLengths (lexicon : Lexicon) (room : Nat) : List Nat :=
  List.range' lexicon.shortest (min lexicon.longest room + 1 - lexicon.shortest)

def containsAny (lexicon : Lexicon) (password : Text) : Bool :=
  let text := normalize lexicon.caseSensitive password
  !lexicon.isEmpty && (lexicon.fittingLengths text.length).any fun length =>
    (Text.windows length text).any lexicon.words.contains

end PasswordAudit.Lexicon
