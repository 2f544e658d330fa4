import PasswordAudit.Proofs.Lexicon.Load
import PasswordAudit.Proofs.Lexicon.Words

/-! Writing the words of a loaded lexicon out and loading them again. Every stored word, folded or
not, stands on a line as it is: reading, cutting, stripping, filtering and folding leave it alone.
-/
namespace PasswordAudit.Lexicon

/-- Words one to a line. The last of the lines may be left open. -/
inductive Lists (words : List Text) : Text → Prop
  | closed : Lists words (words.flatMap (· ++ "\n".toList))
  | opened : Lists words (List.intercalate "\n".toList words)

private theorem isWord_of_mem_loaded {read : GrowingReader} {sources : List Text}
    {caseSensitive : Bool}
    {lexicon : Lexicon} (loaded : (load read sources caseSensitive).2 = .ok lexicon) {word : Text}
    (member : word ∈ lexicon.words) :
    IsWord word ∧ normalize caseSensitive word = word := by
  obtain ⟨found, gathered, rfl⟩ := (load_eq_ok_iff _ _ _ _).1 loaded
  have original : ∀ form ∈ found, IsWord form := isWord_of_mem_gathered gathered
  obtain ⟨form, listed, _, rfl⟩ := mem_kept.1 member
  rw [entries_eq_self original] at listed
  exact ⟨(original form listed).normalize caseSensitive, normalize_normalize caseSensitive form⟩

theorem Lists.returnFree {words : List Text} {written : Text} (lists : Lists words written)
    (one : ∀ word ∈ words, word.IsOneLine) : '\r' ∉ written := by
  have insideWord : ∀ word ∈ words, '\r' ∉ word := fun word member inside =>
    absurd (one word member '\r' inside) (by decide)
  cases lists with
  | closed =>
    intro inside
    obtain ⟨word, member, place⟩ := List.mem_flatMap.1 inside
    rcases List.mem_append.1 place with here | here
    · exact insideWord word member here
    · exact absurd here (by decide)
  | opened =>
    intro inside
    rcases Text.mem_of_mem_intercalate inside with between | ⟨word, member, place⟩
    · exact absurd between (by decide)
    · exact insideWord word member place

theorem Lists.lines {words : List Text} {written : Text} (lists : Lists words written)
    (kept : ∀ word ∈ words, IsWord word) : Text.lines (Text.unifyNewlines written) = words := by
  have one : ∀ word ∈ words, word.IsOneLine := fun word member => (kept word member).oneLine
  rw [Text.unifyNewlines_eq_self (lists.returnFree one)]
  cases lists with
  | closed => exact Text.lines_flatMap_feed words one
  | opened =>
    exact Text.lines_intercalate words one fun word member =>
      ((isEntry_iff word).1 (kept word member).entry).1

private theorem words_ofEntries_of_perm {order : List Text} {lexicon : Lexicon}
    (rearranged : order.Perm lexicon.words) (kept : ∀ word ∈ order, IsWord word)
    {caseSensitive : Bool} (still : ∀ word ∈ order, normalize caseSensitive word = word)
    (sources : List Text) : (ofEntries order sources caseSensitive).words = lexicon.words := by
  rw [words_eq_iff]
  intro word
  rw [← rearranged.mem_iff]
  change word ∈ Lexicon.kept (entries order) caseSensitive ↔ word ∈ order
  rw [entries_eq_self kept, mem_kept]
  constructor
  · rintro ⟨form, member, _, rfl⟩
    rwa [still form member]
  · intro member
    exact ⟨word, member, ((isEntry_iff word).1 (kept word member).entry).1, still word member⟩

/-- Whatever files a lexicon was loaded from, a UTF-8 file with its words in any order, one to a
line, loads as a lexicon with the same words. It is told that so many words were loaded, and no word
is dropped; so the same passwords are words of it or hold one. -/
theorem reloading_keeps_words (read : GrowingReader) (sources : List Text) (caseSensitive : Bool)
    (lexicon : Lexicon) (loaded : (load read sources caseSensitive).2 = .ok lexicon)
    (order : List Text) (rearranged : order.Perm lexicon.words) (written : Text)
    (lists : Lists order written) (again : GrowingReader) (path : Text) (nulFree : '\x00' ∉ path)
    (stored : again [] path = .ok (Text.Utf8.encode written)) :
    ∃ reloaded, load again [path] caseSensitive =
        ([.wordsLoaded lexicon.size path], .ok reloaded) ∧
      reloaded.words = lexicon.words ∧
      ∀ password, reloaded.equalsAny password = lexicon.equalsAny password ∧
        reloaded.containsAny password = lexicon.containsAny password := by
  have stable : ∀ word ∈ order, IsWord word ∧ normalize caseSensitive word = word :=
    fun word member => isWord_of_mem_loaded loaded (rearranged.mem_iff.1 member)
  have kept : ∀ word ∈ order, IsWord word := fun word member => (stable word member).1
  have words : (ofEntries order [path] caseSensitive).words = lexicon.words :=
    words_ofEntries_of_perm rearranged kept (fun word member => (stable word member).2) [path]
  have alike : (ofEntries order [path] caseSensitive).caseSensitive = lexicon.caseSensitive := by
    obtain ⟨found, _, rfl⟩ := (load_eq_ok_iff _ _ _ _).1 loaded
    rfl
  have count : order.length = lexicon.size := rearranged.length_eq
  refine ⟨ofEntries order [path] caseSensitive, ?_, words, fun password =>
    ⟨equalsAny_eq_of_words_eq words alike password,
      containsAny_eq_of_words_eq words alike password⟩⟩
  have noneDropped : droppedEvents lexicon.size (ofEntries order [path] caseSensitive) = [] := by
    rw [droppedEvents, size, size, words, if_neg (Nat.lt_irrefl _)]
  have readable : HasLines (again []) path order := ⟨nulFree, written, stored, lists.lines kept⟩
  rw [load_singleton readable, entries_eq_self kept, count, noneDropped]

def streets : GrowingReader := fun _ path =>
  if path = ['a'] then .ok (Text.Utf8.encode "# streets\nStraße\n Weg\r\nSTRASSE")
  else if path = ['b'] then .ok (Text.Utf8.encode "weg\nstrasse\n")
  else .error .absent

/-- One of three lines is dropped in the first loading, and none in the second. -/
theorem reloading_keeps_words_streets :
    ∃ lexicon, load streets [['a']] false =
        ([.wordsLoaded 3 ['a'], .wordsDropped 1], .ok lexicon) ∧
      ["weg".toList, "strasse".toList].Perm lexicon.words ∧
      Lists ["weg".toList, "strasse".toList] "weg\nstrasse\n".toList ∧
      ∃ reloaded, load streets [['b']] false = ([.wordsLoaded 2 ['b']], .ok reloaded) ∧
        reloaded.words = lexicon.words := by
  let lexicon := ofEntries (entries ["# streets", "Straße", " Weg", "STRASSE"]) [['a']] false
  have words : lexicon.words = ["strasse".toList, "weg".toList] := by
    have sharp : normalize false "Straße".toList = "strasse".toList := by decide +kernel
    have capital : normalize false "STRASSE".toList = "strasse".toList := by decide +kernel
    have way : normalize false "Weg".toList = "weg".toList := by decide +kernel
    refine lexicon.ascending.eq_of_mem_iff (by decide) fun word => ?_
    change word ∈ Lexicon.kept ["Straße".toList, "Weg".toList, "STRASSE".toList] false ↔ _
    rw [mem_kept]
    constructor
    · rintro ⟨form, member, -, rfl⟩
      simp only [List.mem_cons, List.not_mem_nil, or_false] at member
      rcases member with rfl | rfl | rfl
      · exact sharp ▸ .head _
      · exact way ▸ .tail _ (.head _)
      · exact capital ▸ .head _
    · intro member
      simp only [List.mem_cons, List.not_mem_nil, or_false] at member
      rcases member with rfl | rfl
      · exact ⟨_, .head _, by decide, sharp⟩
      · exact ⟨_, .tail _ (.head _), by decide, way⟩
  have readable : HasLines (streets []) ['a'] ["# streets", "Straße", " Weg", "STRASSE"] :=
    ⟨by decide, _, rfl, by decide⟩
  have loaded : load streets [['a']] false =
      ([.wordsLoaded 3 ['a'], .wordsDropped 1], .ok lexicon) := by
    rw [load_singleton readable, droppedEvents, size, words]
    rfl
  have rearranged : ["weg".toList, "strasse".toList].Perm lexicon.words := by
    rw [words]
    exact .swap _ _ _
  have lists : Lists ["weg".toList, "strasse".toList] "weg\nstrasse\n".toList := .closed
  obtain ⟨reloaded, again, same, _⟩ := reloading_keeps_words streets [['a']] false lexicon
    (congrArg Prod.snd loaded) _ rearranged _ lists streets ['b'] (by decide) rfl
  rw [size, words] at again
  exact ⟨lexicon, loaded, rearranged, lists, reloaded, again, same⟩

end PasswordAudit.Lexicon
