import Mathlib.Data.List.Infix
import PasswordAudit.Lexicon.Search

/-! Searching by stretches finds exactly the words that a password holds. The stretches tried have
the lengths from the shortest word to the longest, measured after folding, so no word that fits
into the folded password is left out. -/
namespace PasswordAudit

namespace Text

private theorem mem_windows (length : Nat) (stretch text : Text) :
    stretch ∈ windows length text ↔ stretch.length = length ∧ stretch <:+: text := by
  induction text with
  | nil =>
    rw [windows, List.infix_nil]
    split
    · next zero => simp [zero]
    · next some =>
      refine iff_of_false List.not_mem_nil ?_
      rintro ⟨rfl, rfl⟩
      exact some rfl
  | cons c rest ih =>
    have first : stretch.length = length ∧ stretch <+: c :: rest ↔
        ((c :: rest).take length).length = length ∧ stretch = (c :: rest).take length := by
      rw [List.prefix_iff_eq_take]
      constructor
      · rintro ⟨rfl, same⟩
        exact ⟨congrArg List.length same.symm, same⟩
      · rintro ⟨full, rfl⟩
        exact ⟨full, by rw [full]⟩
    rw [List.infix_cons_iff, and_or_left, first, ← ih, windows]
    split
    · next full => simp only [List.mem_cons, full, true_and]
    · next short => simp only [short, false_and, false_or]

theorem fold_append (first second : Text) : fold (first ++ second) = fold first ++ fold second :=
  List.flatMap_append

end Text

/-- Characters are folded one by one, so a stretch of a text stays a stretch of it. -/
private theorem normalize_mono (caseSensitive : Bool) {stretch text : Text}
    (inside : stretch <:+: text) :
    normalize caseSensitive stretch <:+: normalize caseSensitive text := by
  obtain ⟨before, after, rfl⟩ := inside
  cases caseSensitive with
  | true => exact ⟨before, after, rfl⟩
  | false =>
    refine ⟨Text.fold before, Text.fold after, ?_⟩
    simp only [normalize, Bool.false_eq_true, if_false, Text.fold_append]

namespace Lexicon

theorem shortest_le (lexicon : Lexicon) {word : Text} (member : word ∈ lexicon.words) :
    lexicon.shortest ≤ word.length := by
  rw [lexicon.shortest_eq]
  exact List.min?_getD_le_of_mem (List.mem_map_of_mem member)

theorem le_longest (lexicon : Lexicon) {word : Text} (member : word ∈ lexicon.words) :
    word.length ≤ lexicon.longest := by
  rw [lexicon.longest_eq]
  exact List.le_max?_getD_of_mem (List.mem_map_of_mem member)

private theorem length_mem_fittingLengths (lexicon : Lexicon) {word : Text} {room : Nat}
    (member : word ∈ lexicon.words) (fits : word.length ≤ room) :
    word.length ∈ lexicon.fittingLengths room := by
  have lower := lexicon.shortest_le member
  have upper := lexicon.le_longest member
  rw [fittingLengths, List.mem_range'_1]
  omega

private theorem not_isEmpty_of_mem (lexicon : Lexicon) {word : Text}
    (member : word ∈ lexicon.words) :
    lexicon.isEmpty = false := by
  rw [isEmpty, List.isEmpty_eq_false_iff]
  exact List.ne_nil_of_mem member

theorem equalsAny_iff (lexicon : Lexicon) (password : Text) :
    lexicon.equalsAny password = true ↔
      normalize lexicon.caseSensitive password ∈ lexicon.words := by
  rw [equalsAny, List.contains_iff_mem]

theorem containsAny_iff (lexicon : Lexicon) (password : Text) :
    lexicon.containsAny password = true ↔
      ∃ word ∈ lexicon.words, word <:+: normalize lexicon.caseSensitive password := by
  simp only [containsAny, Bool.and_eq_true, Bool.not_eq_true', List.any_eq_true,
    List.contains_iff_mem]
  constructor
  · rintro ⟨_, length, _, stretch, window, member⟩
    exact ⟨stretch, member, ((Text.mem_windows _ _ _).1 window).2⟩
  · rintro ⟨word, member, inside⟩
    have tried := lexicon.length_mem_fittingLengths member inside.length_le
    exact ⟨lexicon.not_isEmpty_of_mem member, word.length, tried, word,
      (Text.mem_windows _ _ _).2 ⟨rfl, inside⟩, member⟩

-- One ligature folds to the two letters of the word.
example : (ofWords ["fi"] [] false).containsAny "\uFB01" = true := by cbv

private theorem containsAny_mono (lexicon : Lexicon) {stretch password : Text}
    (inside : stretch <:+: password) (found : lexicon.containsAny stretch = true) :
    lexicon.containsAny password = true := by
  obtain ⟨word, member, within⟩ := (lexicon.containsAny_iff stretch).1 found
  exact (lexicon.containsAny_iff password).2
    ⟨word, member, within.trans (normalize_mono lexicon.caseSensitive inside)⟩

/-- For every lexicon, whatever its words were made from and whether case matters: the search by
stretches agrees with the plain meaning of holding a word. No password gets rid of a word by being
written into a longer one. -/
theorem containsAny_iff_holds_word (lexicon : Lexicon) (password : Text) :
    (lexicon.containsAny password = true ↔
      ∃ word ∈ lexicon.words, word <:+: normalize lexicon.caseSensitive password) ∧
    ∀ before after : Text, lexicon.containsAny password = true →
      lexicon.containsAny (before ++ password ++ after) = true :=
  ⟨lexicon.containsAny_iff password,
    fun before after => lexicon.containsAny_mono ⟨before, after, rfl⟩⟩

end Lexicon
end PasswordAudit
