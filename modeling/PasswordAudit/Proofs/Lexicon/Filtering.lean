import PasswordAudit.Proofs.Lexicon.Load
import PasswordAudit.Proofs.Lexicon.Search

/-! Filtering lines twice, and before or after folding. Folding keeps blanks and number signs and
makes no new ones, so a line has the same blanks at its ends before and after, and is a comment
before just if it is one after. Loading filters each file, then all entries together, and folds what
is left; nothing is lost where it filters again, and nothing would change if it folded first. -/
namespace PasswordAudit

namespace Text

private theorem fold_of_blanks {text : Text} (blank : ∀ c ∈ text, isBlank c = true) :
    fold text = text :=
  fold_eq_self fun c member => foldPoint_of_isMark (.inl (blank c member))

private theorem strip_fold (text : Text) : strip (fold text) = fold (strip text) := by
  obtain ⟨before, after, whole, left, right, first, last⟩ := strips_strip text
  refine strip_eq_of_strips ⟨before, after, ?_, left, right, ?_, ?_⟩
  · calc fold text = fold (before ++ strip text ++ after) := congrArg fold whole
      _ = fold before ++ fold (strip text) ++ fold after := by rw [fold_append, fold_append]
      _ = before ++ fold (strip text) ++ after := by rw [fold_of_blanks left, fold_of_blanks right]
  · intro c front
    refine Bool.eq_false_iff.2 fun blank => ?_
    simp [first c (isMark_of_mem_head?_fold front (.inl blank))] at blank
  · intro c back
    refine Bool.eq_false_iff.2 fun blank => ?_
    simp [last c (isMark_of_mem_getLast?_fold back (.inl blank))] at blank

private theorem mem_head?_fold_iff (text : Text) {c : Char} (mark : IsMark c) :
    c ∈ (fold text).head? ↔ c ∈ text.head? := by
  refine ⟨fun front => isMark_of_mem_head?_fold front mark, fun front => ?_⟩
  obtain ⟨rest, rfl⟩ := List.head?_eq_some_iff.1 (Option.mem_def.1 front)
  rw [fold, List.flatMap_cons, foldPoint_of_isMark mark]
  rfl

end Text

namespace Lexicon

private theorem isEntry_fold (text : Text) : isEntry (Text.fold text) = isEntry text := by
  have unsigned : ∀ word : Text, (∀ c ∈ word.head?, c ≠ '#') ↔ '#' ∉ word.head? := by
    intro word
    exact ⟨fun other sign => other '#' sign rfl, fun other c front same => other (same ▸ front)⟩
  have filled : Text.fold text ≠ [] ↔ text ≠ [] := by
    refine ⟨?_, Text.fold_ne_nil⟩
    rintro some rfl
    exact some rfl
  rw [Bool.eq_iff_iff, isEntry_iff, isEntry_iff, filled, unsigned, unsigned,
    Text.mem_head?_fold_iff text (.inr rfl)]

private theorem entries_map_fold (lines : List Text) :
    entries (lines.map Text.fold) = (entries lines).map Text.fold := by
  have stripped : Text.strip ∘ Text.fold = Text.fold ∘ Text.strip := funext Text.strip_fold
  have entry : isEntry ∘ Text.fold = isEntry := funext isEntry_fold
  calc entries (lines.map Text.fold)
    _ = ((lines.map Text.strip).map Text.fold).filter isEntry := by
      rw [entries, List.map_map, stripped, List.map_map]
    _ = ((lines.map Text.strip).filter isEntry).map Text.fold := by rw [List.filter_map, entry]

private theorem count_entries (lines : List Text) (word : Text) :
    (entries lines).count word =
      lines.countP fun line => Text.strip line == word && holdsWord line := by
  rw [entries_eq, List.count, List.countP_map, List.countP_filter]
  rfl

private theorem entries_of_gathered {read : GrowingReader} {told : List Log.Event}
    {sources found : List Text} (gathered : (gather read told sources).2 = .ok found) :
    entries found = found :=
  entries_eq_self (isWord_of_mem_gathered gathered)

/-- Filtering keeps the lines that hold a word, each stripped, in their order and as often as they
are there. It makes no difference whether it is done once or twice, to all lines or to the parts of
a list, and before or after folding. The entries gathered from files are filtered again without
loss. -/
theorem filtering_commutes_with_folding :
    (∀ lines : List Text, entries lines = (lines.filter holdsWord).map Text.strip ∧
      ∀ word, (entries lines).count word =
        lines.countP fun line => Text.strip line == word && holdsWord line) ∧
    (∀ lines : List Text, entries (entries lines) = entries lines) ∧
    (∀ first second : List Text, entries (first ++ second) = entries first ++ entries second) ∧
    (∀ lines : List Text, entries (lines.map Text.fold) = (entries lines).map Text.fold) ∧
    ∀ (read : GrowingReader) (told : List Log.Event) (sources found : List Text),
      (gather read told sources).2 = .ok found → entries found = found :=
  ⟨fun lines => ⟨entries_eq lines, count_entries lines⟩, entries_entries, entries_append,
    entries_map_fold, fun _ _ _ _ => entries_of_gathered⟩

/-- A word written as one ligature, a comment and the word in capitals, with blanks around them.
Both words are entries, and folded they are the same word twice. -/
theorem filtering_commutes_with_folding_ligature :
    let lines : List Text := ["\t\uFB01 ", " # FI", "\u00A0FI"]
    let list : GrowingReader := fun _ _ => .ok (Text.Utf8.encode "\t\uFB01 \n # FI\n\u00A0FI\n")
    (gather list [] [['a']]).2 = .ok (entries lines) ∧
      entries (entries lines) = entries lines ∧
      entries (lines.map Text.fold) = ["fi".toList, "fi".toList] := by
  intro lines list
  obtain ⟨_, _, _, folds, again⟩ := filtering_commutes_with_folding
  have readable : HasLines (list []) ['a'] lines := ⟨by decide, _, rfl, by decide⟩
  have gathered : (gather list [] [['a']]).2 = .ok (entries lines) := by
    rw [gather_cons_of_ok readable.readEntries]
    simp [gather, Except.map]
  refine ⟨gathered, again list [] [['a']] (entries lines) gathered, ?_⟩
  rw [folds]
  decide +kernel

end Lexicon
end PasswordAudit
