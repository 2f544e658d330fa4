import PasswordAudit.Text.Blank
import PasswordAudit.Text.CaseFold
import PasswordAudit.Text.Distinct

/-! Lexicons: words that a password must not be or hold. The words are distinct and in order, none
is empty, and the lengths of the shortest and the longest are remembered, so that a search looks
only at stretches of a password that a word can fill. Unless case matters, words are kept folded. -/
namespace PasswordAudit

/-- The form in which words and passwords are compared. -/
def normalize (caseSensitive : Bool) (text : Text) : Text :=
  if caseSensitive then text else Text.fold text

structure Lexicon where
  words : List Text
  sources : List Text
  caseSensitive : Bool
  shortest : Nat
  longest : Nat
  ascending : words.Pairwise fun a b => Text.before a b = true
  words_ne_nil : ∀ w ∈ words, w ≠ []
  shortest_eq : shortest = (words.map List.length).min?.getD 0
  longest_eq : longest = (words.map List.length).max?.getD 0

namespace Lexicon

def kept (words : List Text) (caseSensitive : Bool) : List Text :=
  Text.distinct ((words.filter (!·.isEmpty)).map (normalize caseSensitive))

theorem mem_kept {words : List Text} {caseSensitive : Bool} {w : Text} :
    w ∈ kept words caseSensitive ↔ ∃ v ∈ words, v ≠ [] ∧ normalize caseSensitive v = w := by
  simp [kept, Text.mem_distinct, and_assoc]

private theorem kept_ne_nil (words : List Text) (caseSensitive : Bool) :
    ∀ w ∈ kept words caseSensitive, w ≠ [] := by
  intro w member
  obtain ⟨v, _, nonempty, rfl⟩ := mem_kept.1 member
  unfold normalize
  split
  · exact nonempty
  · exact Text.fold_ne_nil nonempty

def ofWords (words sources : List Text) (caseSensitive : Bool) : Lexicon where
  words := kept words caseSensitive
  sources := sources
  caseSensitive := caseSensitive
  shortest := ((kept words caseSensitive).map List.length).min?.getD 0
  longest := ((kept words caseSensitive).map List.length).max?.getD 0
  ascending := Text.distinct_ascending _
  words_ne_nil := kept_ne_nil words caseSensitive
  shortest_eq := rfl
  longest_eq := rfl

def empty : Lexicon := ofWords [] [] false

/-- A line that is blank or starts with a number sign holds no word. -/
def isEntry (line : Text) : Bool :=
  match line with
  | [] => false
  | c :: _ => c != '#'

def entries (lines : List Text) : List Text := (lines.map Text.strip).filter isEntry

def ofEntries (lines sources : List Text) (caseSensitive : Bool) : Lexicon :=
  ofWords (entries lines) sources caseSensitive

def size (lexicon : Lexicon) : Nat := lexicon.words.length

def isEmpty (lexicon : Lexicon) : Bool := lexicon.words.isEmpty

def same (a b : Lexicon) : Bool :=
  a.words == b.words && a.sources == b.sources && a.caseSensitive == b.caseSensitive

end Lexicon
end PasswordAudit
