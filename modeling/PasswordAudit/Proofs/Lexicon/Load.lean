import PasswordAudit.Lexicon.Load
import PasswordAudit.Proofs.Lexicon.Entries
import PasswordAudit.Proofs.Text.Utf8

/-! Loading a lexicon without its recursion. A path leads to lines, or there is a cause why it does
not. The files before the first that cannot be read are all read, each after what was told of those
before it, and the fault is that of the first. -/
namespace PasswordAudit.Lexicon

/-- It takes no reading to refuse a path that holds a NUL, and nothing else is refused like this. -/
theorem readEntries_eq_nulInPath_iff (read : FileReader) (source : Text) :
    readEntries read source = .error .nulInPath ↔ '\x00' ∈ source := by
  unfold readEntries
  by_cases nul : '\x00' ∈ source
  · simp [nul]
  · rw [if_neg (by simpa using nul)]
    cases read source with
    | error fault => simp [nul]
    | ok octets => cases decoded : fileLines octets <;> simp [nul, decoded]

/-- The file at a path can be read, as the UTF-8 form of a text with these lines. -/
structure HasLines (read : FileReader) (source : Text) (lines : List Text) : Prop where
  nulFree : '\x00' ∉ source
  encoded : ∃ text, read source = .ok (Text.Utf8.encode text) ∧
    Text.lines (Text.unifyNewlines text) = lines

/-- What keeps a path from being read: there is no file to read, or its octets are no UTF-8. -/
inductive Defies (read : FileReader) (source : Text) : ReadFault → Prop
  | file {fault : FileFault} (refused : read source = .error fault) :
      Defies read source (.file fault)
  | octets {octets : Text.Utf8.Octets} {fault : Text.Utf8.Fault} (found : read source = .ok octets)
      (broken : Text.Utf8.decode octets = .error fault) : Defies read source (.octets fault)

theorem HasLines.readEntries {read : FileReader} {source : Text} {lines : List Text}
    (readable : HasLines read source lines) :
    readEntries read source = .ok (entries lines) := by
  obtain ⟨nulFree, text, found, rfl⟩ := readable
  simp [Lexicon.readEntries, nulFree, found, fileLines, Text.Utf8.decode_encode, Except.map]

theorem Defies.readEntries {read : FileReader} {source : Text} {cause : ReadFault}
    (defies : Defies read source cause) (nulFree : '\x00' ∉ source) :
    readEntries read source = .error (.unreadable source cause) := by
  cases defies with
  | file refused => simp [Lexicon.readEntries, nulFree, refused]
  | octets found broken =>
    simp [Lexicon.readEntries, nulFree, found, fileLines, broken, Except.map]

def linesAt (read : FileReader) (source : Text) : List Text :=
  match read source with
  | .ok octets => (fileLines octets).toOption.getD []
  | .error _ => []

theorem hasLines_or_defies (read : FileReader) {source : Text} (nulFree : '\x00' ∉ source) :
    HasLines read source (linesAt read source) ∨ ∃ cause, Defies read source cause := by
  cases found : read source with
  | error fault => exact .inr ⟨_, .file found⟩
  | ok octets =>
    cases decoded : Text.Utf8.decode octets with
    | error fault => exact .inr ⟨_, .octets found decoded⟩
    | ok text =>
      refine .inl ⟨nulFree, text, ?_, ?_⟩
      · rw [found, (Text.Utf8.decode_eq_ok_iff _ _).1 decoded]
      · rw [linesAt, found]
        simp [fileLines, decoded, Except.map, Except.toOption]

private theorem readEntries_eq_ok_iff (read : FileReader) (source : Text) (found : List Text) :
    readEntries read source = .ok found ↔
      ∃ lines, HasLines read source lines ∧ found = entries lines := by
  constructor
  · intro run
    have nulFree : '\x00' ∉ source := by
      intro nul
      rw [(readEntries_eq_nulInPath_iff read source).2 nul] at run
      cases run
    rcases hasLines_or_defies read nulFree with readable | ⟨cause, defies⟩
    · rw [readable.readEntries] at run
      cases run
      exact ⟨_, readable, rfl⟩
    · rw [defies.readEntries nulFree] at run
      cases run
  · rintro ⟨lines, readable, rfl⟩
    exact readable.readEntries

private theorem HasLines.isOneLine {read : FileReader} {source : Text} {lines : List Text}
    (readable : HasLines read source lines) : ∀ line ∈ lines, line.IsOneLine := by
  obtain ⟨_, text, _, rfl⟩ := readable
  exact fun line => Text.isOneLine_of_mem_lines

theorem gather_cons_of_error {read : GrowingReader} {told : List Log.Event} {source : Text}
    {fault : LoadFault} (failed : readEntries (read told) source = .error fault)
    (rest : List Text) : gather read told (source :: rest) = ([], .error fault) := by
  rw [gather, failed]

theorem gather_cons_of_ok {read : GrowingReader} {told : List Log.Event} {source : Text}
    {found : List Text} (loaded : readEntries (read told) source = .ok found) (rest : List Text) :
    gather read told (source :: rest) =
      (.wordsLoaded found.length source ::
          (gather read (told ++ [.wordsLoaded found.length source]) rest).1,
        (gather read (told ++ [.wordsLoaded found.length source]) rest).2.map (found ++ ·)) := by
  rw [gather, loaded]

private theorem gather_eq_error_iff (read : GrowingReader) (told : List Log.Event)
    (sources : List Text) (fault : LoadFault) :
    (gather read told sources).2 = .error fault ↔
      ∃ before source after, sources = before ++ source :: after ∧
        (∃ found, (gather read told before).2 = .ok found) ∧
        readEntries (read (told ++ (gather read told before).1)) source = .error fault := by
  induction sources generalizing told with
  | nil => simp [gather]
  | cons first rest ih =>
    cases outcome : readEntries (read told) first with
    | error other =>
      rw [gather_cons_of_error outcome]
      constructor
      · intro same
        cases same
        exact ⟨[], first, rest, rfl, ⟨[], rfl⟩, by simpa [gather] using outcome⟩
      · rintro ⟨before, source, after, split, ⟨found, loaded⟩, failed⟩
        cases before with
        | nil =>
          cases split
          rw [gather, List.append_nil, outcome] at failed
          exact failed
        | cons earlier before =>
          cases split
          rw [gather_cons_of_error outcome] at loaded
          cases loaded
    | ok entries =>
      have step : (gather read told (first :: rest)).2 = .error fault ↔
          (gather read (told ++ [.wordsLoaded entries.length first]) rest).2 = .error fault := by
        rw [gather_cons_of_ok outcome]
        cases (gather read (told ++ [.wordsLoaded entries.length first]) rest).2 <;>
          simp [Except.map]
      rw [step, ih]
      constructor
      · rintro ⟨before, source, after, rfl, ⟨found, loaded⟩, failed⟩
        refine ⟨first :: before, source, after, rfl, ?_, ?_⟩
        · rw [gather_cons_of_ok outcome, loaded]
          exact ⟨_, rfl⟩
        · rw [gather_cons_of_ok outcome]
          simpa using failed
      · rintro ⟨before, source, after, split, ⟨found, loaded⟩, failed⟩
        cases before with
        | nil =>
          cases split
          rw [gather, List.append_nil, outcome] at failed
          cases failed
        | cons earlier before =>
          cases split
          rw [gather_cons_of_ok outcome] at loaded failed
          refine ⟨before, source, after, rfl, ?_, by simpa using failed⟩
          cases later : (gather read (told ++ [.wordsLoaded entries.length first]) before).2 with
          | error other =>
            rw [later] at loaded
            cases loaded
          | ok others => exact ⟨others, rfl⟩

theorem gather_eq_nulInPath_iff (read : GrowingReader) (told : List Log.Event)
    (sources : List Text) :
    (gather read told sources).2 = .error .nulInPath ↔
      ∃ before source after, sources = before ++ source :: after ∧
        (∃ found, (gather read told before).2 = .ok found) ∧ '\x00' ∈ source := by
  simp only [gather_eq_error_iff, readEntries_eq_nulInPath_iff]

/-- What is gathered would be gathered again from a file of it. -/
theorem isWord_of_mem_gathered {read : GrowingReader} {told : List Log.Event}
    {sources found : List Text} (gathered : (gather read told sources).2 = .ok found) :
    ∀ word ∈ found, IsWord word := by
  induction sources generalizing told found with
  | nil =>
    cases gathered
    simp
  | cons source rest ih =>
    cases outcome : readEntries (read told) source with
    | error fault =>
      rw [gather_cons_of_error outcome] at gathered
      cases gathered
    | ok first =>
      rw [gather_cons_of_ok outcome] at gathered
      obtain ⟨others, later, rfl⟩ := (Except.map_eq_ok_iff _ _ _).1 gathered
      obtain ⟨lines, readable, rfl⟩ := (readEntries_eq_ok_iff _ _ _).1 outcome
      intro word member
      rcases List.mem_append.1 member with here | there
      · exact isWord_of_mem_entries readable.isOneLine here
      · exact ih later word there

theorem load_eq_ok_iff (read : GrowingReader) (sources : List Text) (caseSensitive : Bool)
    (lexicon : Lexicon) :
    (load read sources caseSensitive).2 = .ok lexicon ↔
      ∃ found, (gather read [] sources).2 = .ok found ∧
        lexicon = ofEntries found sources caseSensitive := by
  unfold load
  cases outcome : gather read [] sources with
  | mk events result => cases result <;> simp [eq_comm]

theorem ofEntries_entries (lines sources : List Text) (caseSensitive : Bool) :
    ofEntries (entries lines) sources caseSensitive = ofEntries lines sources caseSensitive := by
  rw [ofEntries, entries_entries, ofEntries]

theorem load_singleton {read : GrowingReader} {path : Text} {lines : List Text}
    (readable : HasLines (read []) path lines) (caseSensitive : Bool) :
    load read [path] caseSensitive =
      (.wordsLoaded (entries lines).length path ::
          droppedEvents (entries lines).length (ofEntries (entries lines) [path] caseSensitive),
        .ok (ofEntries (entries lines) [path] caseSensitive)) := by
  have gathered : gather read [] [path] =
      ([.wordsLoaded (entries lines).length path], .ok (entries lines)) := by
    rw [gather_cons_of_ok readable.readEntries]
    simp [gather, Except.map]
  rw [load, gathered]
  rfl

theorem load_eq_error_iff (read : GrowingReader) (sources : List Text) (caseSensitive : Bool)
    (fault : LoadFault) :
    (load read sources caseSensitive).2 = .error fault ↔
      (gather read [] sources).2 = .error fault := by
  unfold load
  cases outcome : gather read [] sources with
  | mk events result => cases result <;> simp

end PasswordAudit.Lexicon
