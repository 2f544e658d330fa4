import Mathlib.Data.List.Dedup
import Mathlib.Data.List.Sort
import PasswordAudit.Proofs.Lexicon.Search

/-! A lexicon is known by its words. They are in strict order, so there is one way to list them, and
lexicons with the same words that treat case alike find the same. -/
namespace PasswordAudit

namespace Text

instance : Std.Irrefl fun a b : Text => before a b = true :=
  ⟨fun a lower => by simp [before_irrefl] at lower⟩

instance : Std.Antisymm fun a b : Text => before a b = true :=
  ⟨fun a b lower upper => by simpa [before_irrefl] using before_trans lower upper⟩

theorem length_distinct (texts : List Text) : (distinct texts).length = texts.dedup.length := by
  apply List.Perm.length_eq
  rw [List.perm_ext_iff_of_nodup (distinct_ascending texts).nodup (List.nodup_dedup texts)]
  intro text
  rw [mem_distinct, List.mem_dedup]

end Text

namespace Lexicon

theorem words_eq_iff (a b : Lexicon) :
    a.words = b.words ↔ ∀ word, word ∈ a.words ↔ word ∈ b.words :=
  ⟨fun same word => by rw [same], a.ascending.eq_of_mem_iff b.ascending⟩

theorem eq_of_words_eq {a b : Lexicon} (words : a.words = b.words) (sources : a.sources = b.sources)
    (caseSensitive : a.caseSensitive = b.caseSensitive) : a = b := by
  obtain ⟨_, _, _, shortest, longest, _, _, shortest_eq, longest_eq⟩ := a
  obtain ⟨_, _, _, shortest', longest', _, _, shortest_eq', longest_eq'⟩ := b
  cases words
  cases sources
  cases caseSensitive
  cases shortest_eq.trans shortest_eq'.symm
  cases longest_eq.trans longest_eq'.symm
  rfl

theorem equalsAny_eq_of_words_eq {a b : Lexicon} (words : a.words = b.words)
    (caseSensitive : a.caseSensitive = b.caseSensitive) (password : Text) :
    a.equalsAny password = b.equalsAny password := by
  rw [equalsAny, equalsAny, words, caseSensitive]

theorem containsAny_eq_of_words_eq {a b : Lexicon} (words : a.words = b.words)
    (caseSensitive : a.caseSensitive = b.caseSensitive) (password : Text) :
    a.containsAny password = b.containsAny password := by
  rw [Bool.eq_iff_iff, containsAny_iff, containsAny_iff, words, caseSensitive]

end Lexicon
end PasswordAudit
