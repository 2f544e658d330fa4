import Mathlib.Order.Bounds.Defs
import PasswordAudit.Proofs.Lexicon.Union

/-! Building a lexicon settles its words. In whatever way it is built, the words it keeps are those
that it would keep again. Folding comes after everything else, and may make words longer or alike;
but it leaves none empty, makes no blank ends and no comments, and the bounds on lengths are taken
from the folded words. -/
namespace PasswordAudit.Lexicon

/-- The bounds are lengths of words, unless there are no words, and the words are what becomes of
them when a lexicon is built of them. -/
structure IsNormal (lexicon : Lexicon) : Prop where
  filled : ∀ word ∈ lexicon.words, word ≠ []
  normal : ∀ word ∈ lexicon.words, normalize lexicon.caseSensitive word = word
  shortest : lexicon.words ≠ [] →
    IsLeast {length | ∃ word ∈ lexicon.words, word.length = length} lexicon.shortest
  longest : lexicon.words ≠ [] →
    IsGreatest {length | ∃ word ∈ lexicon.words, word.length = length} lexicon.longest
  shortest_eq_zero : lexicon.shortest = 0 ↔ lexicon.words = []
  longest_eq_zero : lexicon.longest = 0 ↔ lexicon.words = []
  rebuilt : ofWords lexicon.words lexicon.sources lexicon.caseSensitive = lexicon

/-- No word is a comment or has blanks at its ends, and the words given as lines are the same
words. -/
structure HoldsEntries (lexicon : Lexicon) : Prop where
  first : ∀ word ∈ lexicon.words, ∀ c ∈ word.head?, c ≠ '#' ∧ Text.isBlank c = false
  last : ∀ word ∈ lexicon.words, ∀ c ∈ word.getLast?, Text.isBlank c = false
  rebuilt : ofEntries lexicon.words lexicon.sources lexicon.caseSensitive = lexicon

private theorem isLeast_shortest (lexicon : Lexicon) (filled : lexicon.words ≠ []) :
    IsLeast {length | ∃ word ∈ lexicon.words, word.length = length} lexicon.shortest := by
  refine ⟨?_, ?_⟩
  · cases found : (lexicon.words.map List.length).min? with
    | none => exact absurd (List.map_eq_nil_iff.1 (List.min?_eq_none_iff.1 found)) filled
    | some least =>
      rw [lexicon.shortest_eq, found, Option.getD_some]
      exact List.mem_map.1 (List.min?_mem found)
  · rintro length ⟨word, member, rfl⟩
    exact lexicon.shortest_le member

private theorem isGreatest_longest (lexicon : Lexicon) (filled : lexicon.words ≠ []) :
    IsGreatest {length | ∃ word ∈ lexicon.words, word.length = length} lexicon.longest := by
  refine ⟨?_, ?_⟩
  · cases found : (lexicon.words.map List.length).max? with
    | none => exact absurd (List.map_eq_nil_iff.1 (List.max?_eq_none_iff.1 found)) filled
    | some greatest =>
      rw [lexicon.longest_eq, found, Option.getD_some]
      exact List.mem_map.1 (List.max?_mem found)
  · rintro length ⟨word, member, rfl⟩
    exact lexicon.le_longest member

private theorem eq_zero_iff_of_length (lexicon : Lexicon) {bound : Nat}
    (vacant : lexicon.words = [] → bound = 0)
    (attained : lexicon.words ≠ [] → ∃ word ∈ lexicon.words, word.length = bound) :
    bound = 0 ↔ lexicon.words = [] := by
  refine ⟨fun zero => ?_, vacant⟩
  by_contra filled
  obtain ⟨word, member, length⟩ := attained filled
  exact lexicon.words_ne_nil word member (List.eq_nil_of_length_eq_zero (length.trans zero))

private theorem ofWords_self {lexicon : Lexicon}
    (normal : ∀ word ∈ lexicon.words, normalize lexicon.caseSensitive word = word) :
    ofWords lexicon.words lexicon.sources lexicon.caseSensitive = lexicon := by
  refine eq_of_words_eq ((words_eq_iff _ _).2 fun word => ?_) rfl rfl
  change word ∈ kept lexicon.words lexicon.caseSensitive ↔ word ∈ lexicon.words
  rw [mem_kept]
  constructor
  · rintro ⟨form, member, _, rfl⟩
    rwa [normal form member]
  · intro member
    exact ⟨word, member, lexicon.words_ne_nil word member, normal word member⟩

private theorem isNormal_of_normal {lexicon : Lexicon}
    (normal : ∀ word ∈ lexicon.words, normalize lexicon.caseSensitive word = word) :
    lexicon.IsNormal where
  filled := lexicon.words_ne_nil
  normal := normal
  shortest := lexicon.isLeast_shortest
  longest := lexicon.isGreatest_longest
  shortest_eq_zero := by
    refine lexicon.eq_zero_iff_of_length (fun vacant => ?_) fun filled =>
      (lexicon.isLeast_shortest filled).1
    rw [lexicon.shortest_eq, vacant]
    rfl
  longest_eq_zero := by
    refine lexicon.eq_zero_iff_of_length (fun vacant => ?_) fun filled =>
      (lexicon.isGreatest_longest filled).1
    rw [lexicon.longest_eq, vacant]
    rfl
  rebuilt := ofWords_self normal

private theorem isNormal_ofWords (words sources : List Text) (caseSensitive : Bool) :
    (ofWords words sources caseSensitive).IsNormal := by
  refine isNormal_of_normal fun word member => ?_
  obtain ⟨form, _, _, rfl⟩ := mem_kept.1 member
  exact normalize_normalize caseSensitive form

private theorem isOwnEntry_of_mem_words {lines sources : List Text} {caseSensitive : Bool}
    {word : Text}
    (member : word ∈ (ofEntries lines sources caseSensitive).words) : IsOwnEntry word := by
  obtain ⟨form, listed, _, rfl⟩ := mem_kept.1 member
  exact (isOwnEntry_of_mem_entries listed).normalize caseSensitive

private theorem holdsEntries_ofEntries (lines sources : List Text) (caseSensitive : Bool) :
    (ofEntries lines sources caseSensitive).HoldsEntries where
  first := by
    intro word member c front
    have unmarked := ((isOwnEntry_iff word).1 (isOwnEntry_of_mem_words member)).2.1 c front
    exact ⟨fun sign => unmarked (.inr sign), Bool.eq_false_iff.2 fun blank => unmarked (.inl blank)⟩
  last := fun word member => ((isOwnEntry_iff word).1 (isOwnEntry_of_mem_words member)).2.2
  rebuilt := by
    rw [ofEntries, entries_eq_self_of_own fun word member => isOwnEntry_of_mem_words member]
    exact (isNormal_ofWords (entries lines) sources caseSensitive).rebuilt

/-- A lexicon built of words keeps those that are not empty, one built of lines those that the lines
hold, all in the form in which they are compared. Either is in order, and so is what is loaded from
files; the words of lines and files are no comments and have no blanks at their ends. -/
theorem building_settles_words (sources : List Text) (caseSensitive : Bool) :
    (∀ words : List Text, (ofWords words sources caseSensitive).IsNormal ∧
      ∀ word, word ∈ (ofWords words sources caseSensitive).words ↔
        ∃ form ∈ words, form ≠ [] ∧ normalize caseSensitive form = word) ∧
    (∀ lines : List Text, (ofEntries lines sources caseSensitive).IsNormal ∧
      (ofEntries lines sources caseSensitive).HoldsEntries ∧
      ∀ word, word ∈ (ofEntries lines sources caseSensitive).words ↔
        ∃ line ∈ lines, holdsWord line = true ∧
          normalize caseSensitive (Text.strip line) = word) ∧
    ∀ (read : GrowingReader) (lexicon : Lexicon),
      (load read sources caseSensitive).2 = .ok lexicon →
        lexicon.IsNormal ∧ lexicon.HoldsEntries := by
  refine ⟨fun words => ⟨isNormal_ofWords words sources caseSensitive, fun word => mem_kept⟩,
    fun lines => ⟨isNormal_ofWords _ sources caseSensitive,
      holdsEntries_ofEntries lines sources caseSensitive, fun word => ?_⟩, ?_⟩
  · rw [mem_words_ofEntries, wordForms]
    simp only [List.mem_map, List.mem_filter, and_assoc]
  · intro read lexicon loaded
    obtain ⟨found, _, rfl⟩ := (load_eq_ok_iff _ _ _ _).1 loaded
    exact ⟨isNormal_ofWords _ sources caseSensitive,
      holdsEntries_ofEntries found sources caseSensitive⟩

def ligatures : GrowingReader := fun _ _ => .ok (Text.Utf8.encode " \uFB01\n# fl\nFI\n")

/-- Folding makes one word of the two, and it is longer than one of them was. -/
theorem building_settles_words_ligatures :
    ∃ lexicon, (load ligatures [['a']] false).2 = .ok lexicon ∧ lexicon.words = ["fi".toList] ∧
      lexicon.shortest = 2 ∧ lexicon.IsNormal ∧ lexicon.HoldsEntries := by
  have readable : HasLines (ligatures []) ['a'] [" \uFB01", "# fl", "FI"] :=
    ⟨by decide, _, rfl, by decide⟩
  let lexicon := ofEntries (entries [" \uFB01", "# fl", "FI"]) [['a']] false
  have loaded : (load ligatures [['a']] false).2 = .ok lexicon := by
    rw [load_singleton readable]
  have words : lexicon.words = ["fi".toList] := by
    have forms : wordForms (entries [" \uFB01", "# fl", "FI"]) false =
        ["fi".toList, "fi".toList] := by decide +kernel
    refine lexicon.ascending.eq_of_mem_iff (List.pairwise_singleton ..) fun word => ?_
    rw [mem_words_ofEntries, forms]
    simp
  have shortest : lexicon.shortest = 2 := by
    rw [lexicon.shortest_eq, words]
    rfl
  exact ⟨lexicon, loaded, words, shortest,
    (building_settles_words [['a']] false).2.2 ligatures lexicon loaded⟩

end PasswordAudit.Lexicon
