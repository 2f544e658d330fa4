import PasswordAudit.Proofs.Lexicon.Load

/-! The endings of lines. A file may end each of its lines with a line feed, a carriage return or
both, and the last one not at all. What is read may have fewer lines than were written, as a
carriage return takes a line feed after it along even where that ends an empty line of its own; but
an empty line holds no word, so the entries are the same in the same order. -/
namespace PasswordAudit

namespace Text

inductive Ending
  | feed
  | returnFeed
  | carriageReturn
  deriving DecidableEq

def Ending.text : Ending → Text
  | .feed => ['\n']
  | .returnFeed => ['\r', '\n']
  | .carriageReturn => ['\r']

/-- The lines one after the other, each with an ending of its own. The last may do without. -/
inductive Writes : List Text → Text → Prop
  | nothing : Writes [] []
  | unended (line : Text) : Writes [line] line
  | ended (line : Text) (ending : Ending) {others : List Text} {rest : Text}
      (later : Writes others rest) : Writes (line :: others) (line ++ ending.text ++ rest)

/-- Every ending is read as a line feed, but a carriage return takes a line feed after it along. -/
private theorem unifyNewlines_ending (ending : Ending) (rest : Text) :
    ∃ later, unifyNewlines (ending.text ++ rest) = '\n' :: unifyNewlines later ∧
      (rest = later ∨ rest = '\n' :: later) := by
  cases ending with
  | feed => exact ⟨rest, by simp [Ending.text, unifyNewlines], .inl rfl⟩
  | returnFeed => exact ⟨rest, by simp [Ending.text, unifyNewlines], .inl rfl⟩
  | carriageReturn =>
    by_cases taken : ∃ later, rest = '\n' :: later
    · obtain ⟨later, rfl⟩ := taken
      exact ⟨later, by simp [Ending.text, unifyNewlines], .inr rfl⟩
    · refine ⟨rest, ?_, .inl rfl⟩
      change unifyNewlines ('\r' :: rest) = _
      rw [unifyNewlines]
      · rfl
      · intro later _ same
        exact taken ⟨later, same⟩

theorem IsOneLine.returnFree {line : Text} (one : line.IsOneLine) : '\r' ∉ line := by
  intro inside
  exact absurd (one '\r' inside) (by decide)

end Text

namespace Lexicon

open Text (Ending Writes)

def textEntries (text : Text) : List Text := entries (Text.lines (Text.unifyNewlines text))

private theorem entries_cons (line : Text) (rest : List Text) :
    entries (line :: rest) = entries [line] ++ entries rest :=
  entries_append [line] rest

private theorem textEntries_feed (rest : Text) : textEntries ('\n' :: rest) = textEntries rest := by
  have empty : Text.lines ('\n' :: Text.unifyNewlines rest) =
      [] :: Text.lines (Text.unifyNewlines rest) := Text.lines_append_feed [] _ nofun
  have read : Text.unifyNewlines ('\n' :: rest) = '\n' :: Text.unifyNewlines rest := by
    simp [Text.unifyNewlines]
  rw [textEntries, read, empty, entries_cons]
  rfl

private theorem textEntries_ended {line : Text} (one : line.IsOneLine) (ending : Ending)
    (rest : Text) :
    textEntries (line ++ ending.text ++ rest) = entries [line] ++ textEntries rest := by
  obtain ⟨later, read, taken⟩ := Text.unifyNewlines_ending ending rest
  have same : textEntries later = textEntries rest := by
    rcases taken with rfl | rfl
    · rfl
    · exact (textEntries_feed later).symm
  rw [textEntries, List.append_assoc, Text.unifyNewlines_append one.returnFree, read,
    Text.lines_append_feed line _ one, entries_cons, ← same, textEntries]

private theorem textEntries_unended {line : Text} (one : line.IsOneLine) :
    textEntries line = entries [line] := by
  rw [textEntries, Text.unifyNewlines_eq_self one.returnFree]
  by_cases filled : line = []
  · subst filled
    rfl
  · rw [Text.lines_of_isOneLine line one filled]

private theorem textEntries_of_writes {lines : List Text} {written : Text}
    (writes : Writes lines written)
    (one : ∀ line ∈ lines, line.IsOneLine) : textEntries written = entries lines := by
  induction writes with
  | nothing => rfl
  | unended line => exact textEntries_unended (one line (List.mem_singleton_self line))
  | @ended line ending others rest later ih =>
    obtain ⟨first, further⟩ := List.forall_mem_cons.1 one
    rw [textEntries_ended first, ih further, ← entries_cons]

private theorem hasLines_of_encoded {read : FileReader} {path text : Text} (nulFree : '\x00' ∉ path)
    (stored : read path = .ok (Text.Utf8.encode text)) :
    HasLines read path (Text.lines (Text.unifyNewlines text)) :=
  ⟨nulFree, text, stored, rfl⟩

private theorem readEntries_of_encoded {read : FileReader} {path text : Text}
    (nulFree : '\x00' ∉ path) (stored : read path = .ok (Text.Utf8.encode text)) :
    readEntries read path = .ok (textEntries text) :=
  (hasLines_of_encoded nulFree stored).readEntries

/-- Two answers for a path are the same, but for the endings of the lines if there is a file. -/
inductive DifferInEndings :
    Except FileFault Text.Utf8.Octets → Except FileFault Text.Utf8.Octets → Prop
  | same (answer : Except FileFault Text.Utf8.Octets) : DifferInEndings answer answer
  | files {lines : List Text} {first second : Text} (one : ∀ line ∈ lines, line.IsOneLine)
      (writes : Writes lines first) (rewrites : Writes lines second) :
      DifferInEndings (.ok (Text.Utf8.encode first)) (.ok (Text.Utf8.encode second))

private theorem readEntries_eq_of_differInEndings {read again : FileReader} {path : Text}
    (alike : DifferInEndings (read path) (again path)) :
    readEntries read path = readEntries again path := by
  by_cases nul : '\x00' ∈ path
  · rw [(readEntries_eq_nulInPath_iff read path).2 nul,
      (readEntries_eq_nulInPath_iff again path).2 nul]
  · generalize first : read path = answer at alike
    generalize second : again path = other at alike
    cases alike with
    | same => rw [readEntries, readEntries, first, second]
    | files one writes rewrites =>
      rw [readEntries_of_encoded nul first, readEntries_of_encoded nul second,
        textEntries_of_writes writes one, textEntries_of_writes rewrites one]

private theorem gather_eq_of_differInEndings {read again : GrowingReader} {sources : List Text}
    (alike : ∀ told, ∀ source ∈ sources, DifferInEndings (read told source) (again told source))
    (told : List Log.Event) : gather read told sources = gather again told sources := by
  induction sources generalizing told with
  | nil => rfl
  | cons source rest ih =>
    have first := readEntries_eq_of_differInEndings (alike told source (List.mem_cons_self ..))
    have later := ih fun told other member => alike told other (List.mem_cons_of_mem _ member)
    simp only [gather, first, later]

/-- The endings of its lines make no difference to what is loaded from a file. The entries taken
from a file with these lines are the entries of the lines, in their order, and so many are told;
and files that differ in nothing but the endings of their lines, wherever they stand among others,
load alike: the same lexicon or the same fault, with the same events. -/
theorem endings_make_no_difference (read : GrowingReader) (caseSensitive : Bool) :
    (∀ told path lines written, '\x00' ∉ path → (∀ line ∈ lines, Text.IsOneLine line) →
      Writes lines written → read told path = .ok (Text.Utf8.encode written) →
        readEntries (read told) path = .ok (entries lines)) ∧
    (∀ path lines written, '\x00' ∉ path → (∀ line ∈ lines, Text.IsOneLine line) →
      Writes lines written → read [] path = .ok (Text.Utf8.encode written) →
        load read [path] caseSensitive =
          (.wordsLoaded (entries lines).length path ::
              droppedEvents (entries lines).length (ofEntries lines [path] caseSensitive),
            .ok (ofEntries lines [path] caseSensitive))) ∧
    ∀ again sources,
      (∀ told, ∀ source ∈ sources, DifferInEndings (read told source) (again told source)) →
        load read sources caseSensitive = load again sources caseSensitive := by
  refine ⟨?_, ?_, ?_⟩
  · intro told path lines written nulFree one writes stored
    rw [readEntries_of_encoded nulFree stored, textEntries_of_writes writes one]
  · intro path lines written nulFree one writes stored
    have found : entries (Text.lines (Text.unifyNewlines written)) = entries lines :=
      textEntries_of_writes writes one
    rw [load_singleton (hasLines_of_encoded nulFree stored), found, ofEntries_entries]
  · intro again sources alike
    simp only [load, gather_eq_of_differInEndings alike]

/-- Three lines of which the second is empty. Ended by a carriage return and a line feed in turn,
they are read as two. -/
theorem endings_make_no_difference_emptyLine :
    let lines : List Text := ["Weg", "", "Haus"]
    let returns : GrowingReader := fun _ _ => .ok (Text.Utf8.encode "Weg\r\nHaus")
    let feeds : GrowingReader := fun _ _ => .ok (Text.Utf8.encode "Weg\n\nHaus\n")
    ('\x00' ∉ ['a'] ∧ (∀ line ∈ lines, Text.IsOneLine line) ∧ Writes lines "Weg\r\nHaus" ∧
      Writes lines "Weg\n\nHaus\n" ∧
      ∀ told, ∀ source ∈ [['a']], DifferInEndings (returns told source) (feeds told source)) ∧
    Text.lines (Text.unifyNewlines "Weg\r\nHaus") = ["Weg".toList, "Haus".toList] ∧
    readEntries (returns []) ['a'] = .ok (entries lines) ∧
    load returns [['a']] false = load feeds [['a']] false ∧
    (load feeds [['a']] false).2 = .ok (ofEntries lines [['a']] false) := by
  intro lines returns feeds
  have one : ∀ line ∈ lines, Text.IsOneLine line := by decide
  have first : Writes lines "Weg\r\nHaus" :=
    .ended "Weg" .carriageReturn (.ended [] .feed (.unended "Haus"))
  have second : Writes lines "Weg\n\nHaus\n" :=
    .ended "Weg" .feed (.ended [] .feed (.ended "Haus" .feed .nothing))
  have alike : ∀ told, ∀ source ∈ [['a']],
      DifferInEndings (returns told source) (feeds told source) :=
    fun _ _ _ => .files one first second
  obtain ⟨taken, _, equal⟩ := endings_make_no_difference returns false
  obtain ⟨_, single, _⟩ := endings_make_no_difference feeds false
  exact ⟨⟨by decide, one, first, second, alike⟩, by decide,
    taken [] ['a'] lines _ (by decide) one first rfl, equal feeds [['a']] alike,
    congrArg Prod.snd (single ['a'] lines _ (by decide) one second rfl)⟩

end Lexicon
end PasswordAudit
