import PasswordAudit.Proofs.Lexicon.Load
import PasswordAudit.Proofs.Lexicon.Words

/-! Loading several files against loading each of them. The words are those of all files together,
each counted once; only the sources and what is told keep the order of the paths. -/
namespace PasswordAudit.Lexicon

/-- Either all files can be read, or there is a first that cannot. -/
private theorem all_hasLines_or_first_defies (read : FileReader) {sources : List Text}
    (nulFree : ∀ source ∈ sources, '\x00' ∉ source) :
    (∀ source ∈ sources, HasLines read source (linesAt read source)) ∨
      ∃ before source after cause, sources = before ++ source :: after ∧
        (∀ earlier ∈ before, HasLines read earlier (linesAt read earlier)) ∧
        Defies read source cause := by
  induction sources with
  | nil => exact .inl (by simp)
  | cons first rest ih =>
    rcases hasLines_or_defies read (nulFree first (List.mem_cons_self ..)) with
      readable | ⟨cause, defies⟩
    · rcases ih fun source listed => nulFree source (List.mem_cons_of_mem _ listed) with
        all | ⟨before, source, after, cause, rfl, earlier, defies⟩
      · exact .inl (List.forall_mem_cons.2 ⟨readable, all⟩)
      · exact .inr ⟨first :: before, source, after, cause, rfl,
          List.forall_mem_cons.2 ⟨readable, earlier⟩, defies⟩
    · exact .inr ⟨[], first, rest, cause, rfl, by simp, defies⟩

def loadedEvents (sources : List Text) (linesOf : Text → List Text) : List Log.Event :=
  sources.map fun source => .wordsLoaded ((linesOf source).countP holdsWord) source

variable {read : FileReader} {linesOf : Text → List Text}

private theorem gather_of_hasLines {sources : List Text}
    (readable : ∀ source ∈ sources, HasLines read source (linesOf source))
    (told : List Log.Event) :
    gather (fun _ => read) told sources =
      (loadedEvents sources linesOf, .ok (entries (sources.flatMap linesOf))) := by
  induction sources generalizing told with
  | nil => rfl
  | cons source rest ih =>
    have first := (readable source (List.mem_cons_self ..)).readEntries
    have later := ih fun other member => readable other (List.mem_cons_of_mem _ member)
    rw [gather_cons_of_ok first, later, List.flatMap_cons, entries_append, length_entries]
    rfl

private theorem gather_of_defies {before : List Text} {source : Text} {cause : ReadFault}
    (readable : ∀ source ∈ before, HasLines read source (linesOf source))
    (defies : Defies read source cause) (nulFree : '\x00' ∉ source) (after : List Text)
    (told : List Log.Event) :
    gather (fun _ => read) told (before ++ source :: after) =
      (loadedEvents before linesOf, .error (.unreadable source cause)) := by
  induction before generalizing told with
  | nil => exact gather_cons_of_error (defies.readEntries nulFree) after
  | cons earlier rest ih =>
    have first := (readable earlier (List.mem_cons_self ..)).readEntries
    have later := ih fun other member => readable other (List.mem_cons_of_mem _ member)
    rw [List.cons_append, gather_cons_of_ok first, later, length_entries]
    rfl

def wordForms (lines : List Text) (caseSensitive : Bool) : List Text :=
  (lines.filter holdsWord).map fun line => normalize caseSensitive (Text.strip line)

private theorem words_ofEntries (lines sources : List Text) (caseSensitive : Bool) :
    (ofEntries lines sources caseSensitive).words =
      Text.distinct (wordForms lines caseSensitive) := by
  have filled : (entries lines).filter (!·.isEmpty) = entries lines := by
    rw [List.filter_eq_self]
    intro word member
    have entry := (List.mem_filter.1 member).2
    simpa using ((isEntry_iff word).1 entry).1
  change kept (entries lines) caseSensitive = _
  rw [kept, filled, entries_eq, List.map_map]
  rfl

theorem mem_words_ofEntries (lines sources : List Text) (caseSensitive : Bool) (word : Text) :
    word ∈ (ofEntries lines sources caseSensitive).words ↔
      word ∈ wordForms lines caseSensitive := by
  rw [words_ofEntries, Text.mem_distinct]

private theorem size_ofEntries (lines sources : List Text) (caseSensitive : Bool) :
    (ofEntries lines sources caseSensitive).size =
      (wordForms lines caseSensitive).dedup.length := by
  rw [size, words_ofEntries, Text.length_distinct]

private theorem mem_wordForms_flatMap (sources : List Text) (caseSensitive : Bool) (word : Text) :
    word ∈ wordForms (sources.flatMap linesOf) caseSensitive ↔
      ∃ source ∈ sources, word ∈ wordForms (linesOf source) caseSensitive := by
  simp only [wordForms, List.mem_map, List.mem_filter, List.mem_flatMap]
  constructor
  · rintro ⟨line, ⟨⟨source, listed, inside⟩, holds⟩, form⟩
    exact ⟨source, listed, line, ⟨inside, holds⟩, form⟩
  · rintro ⟨source, listed, line, ⟨inside, holds⟩, form⟩
    exact ⟨line, ⟨⟨source, listed, inside⟩, holds⟩, form⟩

def droppedCount (sources : List Text) (linesOf : Text → List Text) (caseSensitive : Bool) : Nat :=
  (sources.map fun source => (linesOf source).countP holdsWord).sum -
    (wordForms (sources.flatMap linesOf) caseSensitive).dedup.length

private theorem load_of_hasLines {sources : List Text}
    (readable : ∀ source ∈ sources, HasLines read source (linesOf source)) (caseSensitive : Bool) :
    load (fun _ => read) sources caseSensitive =
      (loadedEvents sources linesOf ++
          (if 0 < droppedCount sources linesOf caseSensitive then
            [.wordsDropped (droppedCount sources linesOf caseSensitive)] else []),
        .ok (ofEntries (sources.flatMap linesOf) sources caseSensitive)) := by
  have total : (entries (sources.flatMap linesOf)).length =
      (sources.map fun source => (linesOf source).countP holdsWord).sum := by
    rw [length_entries, List.countP_flatMap]
    rfl
  rw [load, gather_of_hasLines readable]
  simp only [ofEntries_entries, droppedEvents, size_ofEntries, total, droppedCount,
    Nat.sub_pos_iff_lt]

private theorem load_of_defies {before : List Text} {source : Text} {cause : ReadFault}
    (readable : ∀ source ∈ before, HasLines read source (linesOf source))
    (defies : Defies read source cause) (nulFree : '\x00' ∉ source) (after : List Text)
    (caseSensitive : Bool) :
    load (fun _ => read) (before ++ source :: after) caseSensitive =
      (loadedEvents before linesOf, .error (.unreadable source cause)) := by
  rw [load, gather_of_defies readable defies nulFree after]

private theorem load_alone {source : Text} (readable : HasLines read source (linesOf source))
    (caseSensitive : Bool) :
    (load (fun _ => read) [source] caseSensitive).2 =
      .ok (ofEntries (linesOf source) [source] caseSensitive) := by
  rw [load_singleton readable, ofEntries_entries]

private theorem exists_alone_iff {sources : List Text}
    (readable : ∀ source ∈ sources, HasLines read source (linesOf source)) (caseSensitive : Bool)
    (property : Lexicon → Prop) :
    (∃ source ∈ sources, ∃ single,
        (load (fun _ => read) [source] caseSensitive).2 = .ok single ∧ property single) ↔
      ∃ source ∈ sources, property (ofEntries (linesOf source) [source] caseSensitive) := by
  constructor
  · rintro ⟨source, listed, single, loaded, holds⟩
    rw [load_alone (readable source listed)] at loaded
    cases loaded
    exact ⟨source, listed, holds⟩
  · rintro ⟨source, listed, holds⟩
    exact ⟨source, listed, _, load_alone (readable source listed) caseSensitive, holds⟩

private theorem mem_words_union_iff (sources : List Text) (caseSensitive : Bool) (word : Text) :
    word ∈ (ofEntries (sources.flatMap linesOf) sources caseSensitive).words ↔
      ∃ source ∈ sources, word ∈ (ofEntries (linesOf source) [source] caseSensitive).words := by
  simp only [mem_words_ofEntries, mem_wordForms_flatMap]

private theorem equalsAny_union_iff (sources : List Text) (caseSensitive : Bool) (password : Text) :
    (ofEntries (sources.flatMap linesOf) sources caseSensitive).equalsAny password = true ↔
      ∃ source ∈ sources,
        (ofEntries (linesOf source) [source] caseSensitive).equalsAny password = true := by
  simp only [equalsAny_iff]
  exact mem_words_union_iff sources caseSensitive (normalize caseSensitive password)

private theorem containsAny_union_iff (sources : List Text) (caseSensitive : Bool)
    (password : Text) :
    (ofEntries (sources.flatMap linesOf) sources caseSensitive).containsAny password = true ↔
      ∃ source ∈ sources,
        (ofEntries (linesOf source) [source] caseSensitive).containsAny password = true := by
  simp only [containsAny_iff, mem_words_union_iff]
  constructor
  · rintro ⟨word, ⟨source, listed, member⟩, inside⟩
    exact ⟨source, listed, word, member, inside⟩
  · rintro ⟨source, listed, word, member, inside⟩
    exact ⟨word, ⟨source, listed, member⟩, inside⟩

private theorem ofEntries_eq_of_mem_iff {sources others : List Text}
    (same : ∀ source, source ∈ others ↔ source ∈ sources) (linesOf : Text → List Text)
    (caseSensitive : Bool) :
    ofEntries (others.flatMap linesOf) others caseSensitive =
      { ofEntries (sources.flatMap linesOf) sources caseSensitive with sources := others } := by
  refine eq_of_words_eq ?_ rfl rfl
  change (ofEntries (others.flatMap linesOf) others caseSensitive).words =
    (ofEntries (sources.flatMap linesOf) sources caseSensitive).words
  rw [words_eq_iff]
  intro word
  simp only [mem_words_ofEntries, mem_wordForms_flatMap, same]

/-- What a lexicon from several files has to do with those from each of them. It is that of all
their lines as one list, in the order of the paths. A word is in the union just if one of the
files, loaded alone, has it, so a password is or holds a word of the union just if it is or holds a
word of one of the files. With the same paths in another order or given more than once, nothing but
the sources and what is told differs. Of each file it is told in turn how many words its lines
hold, and in the end how many of all these are others again, if any. -/
structure Unites (read : FileReader) (sources : List Text) (caseSensitive : Bool)
    (linesOf : Text → List Text) (union : Lexicon) : Prop where
  loaded : (load (fun _ => read) sources caseSensitive).2 = .ok union
  ofLines : union = ofEntries (sources.flatMap linesOf) sources caseSensitive
  ordered : union.sources = sources
  words : ∀ word, word ∈ union.words ↔ ∃ source ∈ sources, ∃ single,
    (load (fun _ => read) [source] caseSensitive).2 = .ok single ∧ word ∈ single.words
  equalsAny : ∀ password, union.equalsAny password = true ↔ ∃ source ∈ sources, ∃ single,
    (load (fun _ => read) [source] caseSensitive).2 = .ok single ∧
      single.equalsAny password = true
  containsAny : ∀ password, union.containsAny password = true ↔ ∃ source ∈ sources, ∃ single,
    (load (fun _ => read) [source] caseSensitive).2 = .ok single ∧
      single.containsAny password = true
  rearranged : ∀ others : List Text, (∀ source, source ∈ others ↔ source ∈ sources) →
    (load (fun _ => read) others caseSensitive).2 = .ok { union with sources := others }
  told : (load (fun _ => read) sources caseSensitive).1 = loadedEvents sources linesOf ++
    (if 0 < droppedCount sources linesOf caseSensitive then
      [.wordsDropped (droppedCount sources linesOf caseSensitive)] else [])

private theorem unites_of_hasLines {sources : List Text}
    (readable : ∀ source ∈ sources, HasLines read source (linesOf source)) (caseSensitive : Bool) :
    Unites read sources caseSensitive linesOf
      (ofEntries (sources.flatMap linesOf) sources caseSensitive) where
  loaded := congrArg Prod.snd (load_of_hasLines readable caseSensitive)
  ofLines := rfl
  ordered := rfl
  words := fun word => by rw [exists_alone_iff readable, mem_words_union_iff]
  equalsAny := fun password => by rw [exists_alone_iff readable, equalsAny_union_iff]
  containsAny := fun password => by rw [exists_alone_iff readable, containsAny_union_iff]
  rearranged := by
    intro others same
    have still : ∀ source ∈ others, HasLines read source (linesOf source) :=
      fun source listed => readable source ((same source).1 listed)
    rw [load_of_hasLines still, ofEntries_eq_of_mem_iff same]
  told := congrArg Prod.fst (load_of_hasLines readable caseSensitive)

/-- Loading several files gives the union of what each of them gives. The first file that cannot be
read or is no UTF-8 is the fault, after only the files before it have been told. -/
theorem loading_unites_files (read : FileReader) (sources : List Text) (caseSensitive : Bool) :
    (∀ linesOf : Text → List Text, (∀ source ∈ sources, HasLines read source (linesOf source)) →
      ∃ union, Unites read sources caseSensitive linesOf union) ∧
    ((∀ source ∈ sources, '\x00' ∉ source) →
      (¬ ∀ source ∈ sources, ∃ lines, HasLines read source lines) →
      ∃ before source after cause linesOf, sources = before ++ source :: after ∧
        (∀ earlier ∈ before, HasLines read earlier (linesOf earlier)) ∧
        Defies read source cause ∧
        load (fun _ => read) sources caseSensitive =
          (loadedEvents before linesOf, .error (.unreadable source cause))) := by
  refine ⟨fun linesOf readable => ⟨_, unites_of_hasLines readable caseSensitive⟩, ?_⟩
  intro nulFree unreadable
  rcases all_hasLines_or_first_defies read nulFree with
    readable | ⟨before, source, after, cause, rfl, readable, defies⟩
  · exact absurd (fun source listed => ⟨_, readable source listed⟩) unreadable
  · exact ⟨before, source, after, cause, linesAt read, rfl, readable, defies,
      load_of_defies readable defies (nulFree source (by simp)) after caseSensitive⟩

def twoLists : FileReader := fun path =>
  if path = ['a'] then .ok (Text.Utf8.encode "Potato\n# roots\npotato\n")
  else if path = ['b'] then .ok (Text.Utf8.encode "potato\nhorse")
  else .error .absent

theorem loading_unites_files_twoLists :
    let linesOf : Text → List Text := fun path =>
      if path = ['a'] then ["Potato", "# roots", "potato"] else ["potato", "horse"]
    (∀ source ∈ [['a'], ['b']], HasLines twoLists source (linesOf source)) ∧
      (load (fun _ => twoLists) [['a'], ['b']] false).1 =
        [.wordsLoaded 2 ['a'], .wordsLoaded 2 ['b'], .wordsDropped 2] ∧
      (∀ source ∈ [['a'], ['c'], ['b']], '\x00' ∉ source) ∧
      (¬ ∀ source ∈ [['a'], ['c'], ['b']], ∃ lines, HasLines twoLists source lines) ∧
      ∃ before source after cause, [['a'], ['c'], ['b']] = before ++ source :: after ∧
        Defies twoLists source cause ∧
        (load (fun _ => twoLists) [['a'], ['c'], ['b']] false).2 =
          .error (.unreadable source cause) := by
  intro linesOf
  have readable : ∀ source ∈ [['a'], ['b']], HasLines twoLists source (linesOf source) := by
    simp only [List.forall_mem_cons, List.not_mem_nil, false_implies, implies_true, and_true]
    exact ⟨⟨by decide, _, rfl, by decide⟩, ⟨by decide, _, rfl, by decide⟩⟩
  have nulFree : ∀ source ∈ [['a'], ['c'], ['b']], '\x00' ∉ source := by decide
  have unreadable :
      ¬ ∀ source ∈ [['a'], ['c'], ['b']], ∃ lines, HasLines twoLists source lines := by
    intro all
    obtain ⟨_, _, _, found, _⟩ := all ['c'] (by decide)
    cases found
  obtain ⟨_, unites⟩ := (loading_unites_files twoLists [['a'], ['b']] false).1 linesOf readable
  obtain ⟨before, source, after, cause, _, split, _, defies, failed⟩ :=
    (loading_unites_files twoLists [['a'], ['c'], ['b']] false).2 nulFree unreadable
  exact ⟨readable, unites.told, nulFree, unreadable, before, source, after, cause, split,
    defies, congrArg Prod.snd failed⟩

end PasswordAudit.Lexicon
