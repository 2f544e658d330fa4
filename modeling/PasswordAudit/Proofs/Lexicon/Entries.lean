import PasswordAudit.Lexicon.Basic
import PasswordAudit.Proofs.Text.CaseFold
import PasswordAudit.Proofs.Text.Lines
import PasswordAudit.Proofs.Text.Strip

/-! The entries of lines, said line by line, and the texts that are entries of themselves. What was
an entry once stays one when it is filtered again or folded, so words can be gathered file by file
and a lexicon can be written out and read back. -/
namespace PasswordAudit.Lexicon

/-- A line that is neither blank nor a comment: the first character that is not blank is there, and
is no number sign. -/
def holdsWord (line : Text) : Bool := (line.find? fun c => !Text.isBlank c).any (· != '#')

private theorem isEntry_strip (line : Text) : isEntry (Text.strip line) = holdsWord line := by
  obtain ⟨before, after, whole, blankBefore, blankAfter, first, _⟩ := Text.strips_strip line
  have skipped : before.find? (fun c => !Text.isBlank c) = none := by
    simpa using blankBefore
  have ended : after.find? (fun c => !Text.isBlank c) = none := by
    simpa using blankAfter
  rw [holdsWord]
  cases core : Text.strip line with
  | nil =>
    rw [core] at whole
    rw [whole, List.find?_append, List.find?_append, skipped, ended]
    rfl
  | cons c rest =>
    rw [core] at whole first
    have inked : Text.isBlank c = false := first c rfl
    rw [whole, List.append_assoc, List.find?_append, skipped, List.cons_append, List.find?_cons]
    simp [inked, isEntry]

theorem entries_eq (lines : List Text) :
    entries lines = (lines.filter holdsWord).map Text.strip := by
  rw [entries, List.filter_map]
  congr 2
  funext line
  exact isEntry_strip line

theorem length_entries (lines : List Text) : (entries lines).length = lines.countP holdsWord := by
  rw [entries_eq, List.length_map, List.countP_eq_length_filter]

theorem entries_append (first second : List Text) :
    entries (first ++ second) = entries first ++ entries second := by
  simp [entries]

/-- A text that gathering leaves as it is. -/
structure IsOwnEntry (word : Text) : Prop where
  stripped : Text.strip word = word
  entry : isEntry word = true

/-- A text that loading leaves as it is, once it stands on a line. -/
structure IsWord (word : Text) : Prop where
  stripped : Text.strip word = word
  entry : isEntry word = true
  oneLine : word.IsOneLine

theorem isEntry_iff (word : Text) :
    isEntry word = true ↔ word ≠ [] ∧ ∀ c ∈ word.head?, c ≠ '#' := by
  cases word <;> simp [isEntry]

theorem isOwnEntry_iff (word : Text) :
    IsOwnEntry word ↔ word ≠ [] ∧ (∀ c ∈ word.head?, ¬ Text.IsMark c) ∧
      ∀ c ∈ word.getLast?, Text.isBlank c = false := by
  constructor
  · rintro ⟨stripped, entry⟩
    obtain ⟨first, last⟩ := (Text.strip_eq_self_iff word).1 stripped
    obtain ⟨filled, unsigned⟩ := (isEntry_iff word).1 entry
    refine ⟨filled, ?_, last⟩
    rintro c start (blank | sign)
    · simp [first c start] at blank
    · exact unsigned c start sign
  · rintro ⟨filled, first, last⟩
    refine ⟨(Text.strip_eq_self_iff word).2 ⟨fun c start => ?_, last⟩,
      (isEntry_iff word).2 ⟨filled, fun c start sign => first c start (.inr sign)⟩⟩
    exact Bool.eq_false_iff.2 fun blank => first c start (.inl blank)

theorem IsOwnEntry.fold {word : Text} (own : IsOwnEntry word) : IsOwnEntry (Text.fold word) := by
  obtain ⟨filled, first, last⟩ := (isOwnEntry_iff word).1 own
  refine (isOwnEntry_iff _).2 ⟨Text.fold_ne_nil filled, ?_, ?_⟩
  · intro c front mark
    exact first c (Text.isMark_of_mem_head?_fold front mark) mark
  · intro c back
    refine Bool.eq_false_iff.2 fun blank => ?_
    simp [last c (Text.isMark_of_mem_getLast?_fold back (.inl blank))] at blank

theorem IsOwnEntry.normalize {word : Text} (own : IsOwnEntry word) (caseSensitive : Bool) :
    IsOwnEntry (PasswordAudit.normalize caseSensitive word) := by
  cases caseSensitive with
  | true => exact own
  | false => exact own.fold

private theorem IsWord.isOwnEntry {word : Text} (kept : IsWord word) : IsOwnEntry word :=
  ⟨kept.stripped, kept.entry⟩

/-- Folding makes no line boundaries either. -/
theorem IsWord.fold {word : Text} (kept : IsWord word) : IsWord (Text.fold word) := by
  obtain ⟨stripped, entry⟩ := kept.isOwnEntry.fold
  refine ⟨stripped, entry, fun d member => Bool.eq_false_iff.2 fun boundary => ?_⟩
  obtain ⟨c, inside, folded⟩ := List.mem_flatMap.1 member
  have same := Text.eq_of_isMark_of_mem_foldPoint folded
    (.inl (Text.isBlank_of_isLineBoundary boundary))
  rw [same, kept.oneLine c inside] at boundary
  cases boundary

theorem IsWord.normalize {word : Text} (kept : IsWord word) (caseSensitive : Bool) :
    IsWord (PasswordAudit.normalize caseSensitive word) := by
  cases caseSensitive with
  | true => exact kept
  | false => exact kept.fold

theorem normalize_normalize (caseSensitive : Bool) (text : Text) :
    PasswordAudit.normalize caseSensitive (PasswordAudit.normalize caseSensitive text) =
      PasswordAudit.normalize caseSensitive text := by
  cases caseSensitive with
  | true => rfl
  | false => exact Text.fold_fold text

theorem entries_eq_self_of_own {words : List Text} (own : ∀ word ∈ words, IsOwnEntry word) :
    entries words = words := by
  rw [entries, List.map_congr_left fun word member => (own word member).stripped, List.map_id',
    List.filter_eq_self]
  exact fun word member => (own word member).entry

theorem entries_eq_self {words : List Text} (kept : ∀ word ∈ words, IsWord word) :
    entries words = words :=
  entries_eq_self_of_own fun word member => (kept word member).isOwnEntry

theorem isOwnEntry_of_mem_entries {lines : List Text} {word : Text}
    (member : word ∈ entries lines) : IsOwnEntry word := by
  obtain ⟨listed, entry⟩ := List.mem_filter.1 member
  obtain ⟨line, _, rfl⟩ := List.mem_map.1 listed
  exact ⟨Text.strip_strip line, entry⟩

theorem entries_entries (lines : List Text) : entries (entries lines) = entries lines :=
  entries_eq_self_of_own fun _ member => isOwnEntry_of_mem_entries member

theorem isWord_of_mem_entries {lines : List Text} (one : ∀ line ∈ lines, line.IsOneLine)
    {word : Text} (member : word ∈ entries lines) : IsWord word := by
  obtain ⟨stripped, entry⟩ := isOwnEntry_of_mem_entries member
  obtain ⟨line, there, rfl⟩ := List.mem_map.1 (List.mem_filter.1 member).1
  exact ⟨stripped, entry, fun c inside => one line there c (Text.mem_of_mem_strip inside)⟩

end PasswordAudit.Lexicon
