import PasswordAudit.Proofs.Settings.Reading

/-! Lists of paths written as one text. Commas part the items, blanks around an item do not count,
and neither do items of blanks. So a list has many written forms; but each of them is read as the
list again, and the lists that can be written are those of paths without commas and without blanks
at their ends. -/
namespace PasswordAudit.Settings

/-- A path that can stand in a list written as one text. -/
structure IsListable (path : Text) : Prop where
  filled : path ≠ []
  commaFree : ',' ∉ path
  first : ∀ c ∈ path.head?, Text.isBlank c = false
  last : ∀ c ∈ path.getLast?, Text.isBlank c = false

/-- The items stand for the paths, in their order. There may be blanks around each path, and items
of blanks, or of nothing, anywhere. -/
inductive Itemizes : List Text → List Text → Prop
  | nothing : Itemizes [] []
  | blank (item : Text) {items paths : List Text} (blank : Text.isAllBlank item = true)
      (later : Itemizes items paths) : Itemizes (item :: items) paths
  | path (before path after : Text) {items paths : List Text}
      (left : Text.isAllBlank before = true) (right : Text.isAllBlank after = true)
      (later : Itemizes items paths) : Itemizes ((before ++ path ++ after) :: items) (path :: paths)

def pathsAmong (items : List Text) : List Text := (items.map Text.strip).filter (!·.isEmpty)

private theorem splitPaths_eq (text : Text) :
    splitPaths text = pathsAmong (List.splitOn ',' text) := rfl

private theorem pathsAmong_cons_of_isAllBlank {item : Text} (blank : Text.isAllBlank item = true)
    (rest : List Text) : pathsAmong (item :: rest) = pathsAmong rest := by
  simp [pathsAmong, (Text.strip_eq_nil_iff item).2 blank]

private theorem pathsAmong_cons_of_strip {item path : Text} (core : Text.strip item = path)
    (filled : path ≠ []) (rest : List Text) :
    pathsAmong (item :: rest) = path :: pathsAmong rest := by
  rw [pathsAmong, List.map_cons, core, List.filter_cons_of_pos (by simpa using filled), pathsAmong]

private theorem comma_not_mem_of_isAllBlank {item : Text} (blank : Text.isAllBlank item = true) :
    ',' ∉ item := by
  intro inside
  exact absurd (List.all_eq_true.1 blank ',' inside) (by decide)

private theorem IsListable.strip_around {path before after : Text} (listable : IsListable path)
    (left : Text.isAllBlank before = true) (right : Text.isAllBlank after = true) :
    Text.strip (before ++ path ++ after) = path :=
  Text.strip_eq_of_strips ⟨before, after, rfl, List.all_eq_true.1 left, List.all_eq_true.1 right,
    listable.first, listable.last⟩

private theorem isListable_of_mem_splitPaths {text path : Text} (listed : path ∈ splitPaths text) :
    IsListable path := by
  obtain ⟨stripped, filled⟩ := List.mem_filter.1 listed
  obtain ⟨piece, cut, rfl⟩ := List.mem_map.1 stripped
  obtain ⟨_, _, _, _, _, first, last⟩ := Text.strips_strip piece
  have commaFree : ',' ∉ Text.strip piece := fun inside =>
    Text.not_mem_of_mem_splitOn cut (Text.mem_of_mem_strip inside)
  exact ⟨by simpa using filled, commaFree, first, last⟩

private theorem itemizes_pathsAmong (items : List Text) : Itemizes items (pathsAmong items) := by
  induction items with
  | nil => exact .nothing
  | cons item rest ih =>
    by_cases blank : Text.isAllBlank item = true
    · rw [pathsAmong_cons_of_isAllBlank blank]
      exact .blank item blank ih
    · have filled : Text.strip item ≠ [] := mt (Text.strip_eq_nil_iff item).1 blank
      obtain ⟨before, after, whole, left, right, _⟩ := Text.strips_strip item
      rw [pathsAmong_cons_of_strip rfl filled]
      nth_rewrite 1 [whole]
      exact .path before _ after (List.all_eq_true.2 left) (List.all_eq_true.2 right) ih

namespace Itemizes

variable {items paths : List Text}

private theorem comma_not_mem (itemized : Itemizes items paths)
    (listable : ∀ path ∈ paths, IsListable path) : ∀ item ∈ items, ',' ∉ item := by
  induction itemized with
  | nothing => nofun
  | blank _ blank _ ih =>
    exact List.forall_mem_cons.2 ⟨comma_not_mem_of_isAllBlank blank, ih listable⟩
  | path _ _ _ left right _ ih =>
    obtain ⟨here, others⟩ := List.forall_mem_cons.1 listable
    refine List.forall_mem_cons.2 ⟨?_, ih others⟩
    simp only [List.mem_append, not_or]
    exact ⟨⟨comma_not_mem_of_isAllBlank left, here.commaFree⟩, comma_not_mem_of_isAllBlank right⟩

private theorem pathsAmong_eq (itemized : Itemizes items paths)
    (listable : ∀ path ∈ paths, IsListable path) : pathsAmong items = paths := by
  induction itemized with
  | nothing => rfl
  | blank _ blank _ ih => rw [pathsAmong_cons_of_isAllBlank blank, ih listable]
  | path _ _ _ left right _ ih =>
    obtain ⟨here, others⟩ := List.forall_mem_cons.1 listable
    rw [pathsAmong_cons_of_strip (here.strip_around left right) here.filled, ih others]

theorem self (paths : List Text) : Itemizes paths paths := by
  induction paths with
  | nil => exact .nothing
  | cons path rest ih => simpa using Itemizes.path [] path [] rfl rfl ih

end Itemizes

private theorem splitPaths_intercalate {items paths : List Text} (itemized : Itemizes items paths)
    (listable : ∀ path ∈ paths, IsListable path) :
    splitPaths (List.intercalate [','] items) = paths := by
  cases items with
  | nil => exact itemized.pathsAmong_eq listable
  | cons item rest =>
    rw [splitPaths_eq, List.splitOn_intercalate ',' (itemized.comma_not_mem listable) (by simp)]
    exact itemized.pathsAmong_eq listable

private theorem splitPaths_eq_iff (text : Text) (paths : List Text) :
    splitPaths text = paths ↔ (∀ path ∈ paths, IsListable path) ∧
      ∃ items, Itemizes items paths ∧ text = List.intercalate [','] items := by
  constructor
  · rintro rfl
    exact ⟨fun path => isListable_of_mem_splitPaths, List.splitOn ',' text, itemizes_pathsAmong _,
      (List.intercalate_splitOn ',').symm⟩
  · rintro ⟨listable, items, itemized, rfl⟩
    exact splitPaths_intercalate itemized listable

private theorem dictionaries_eq_splitPaths {source : Source} {settings : Settings} {text : Text}
    (run : read source = .ok settings)
    (found : given source "PASSWORD_DICTIONARIES" = some (.text text)) :
    settings.dictionaries = splitPaths text := by
  have paths := ((read_eq_ok_iff source settings).1 run).dictionaries
  rw [pathList, found] at paths
  exact (Except.ok.inj paths).symm

/-- A text is read as a list of paths just if these are not empty, have no commas and no blanks at
their ends, and the text has items for them: each with any blanks around it, in order, and others of
blanks anywhere. So every such list is read back from its paths joined with commas, what any text is
read as is such a list, and joining and reading it again makes no difference. Settings have the list
that the text given for them is read as. -/
theorem paths_are_written_with_commas :
    (∀ (text : Text) (paths : List Text), splitPaths text = paths ↔
      (∀ path ∈ paths, IsListable path) ∧
        ∃ items, Itemizes items paths ∧ text = List.intercalate [','] items) ∧
    (∀ paths : List Text, (∀ path ∈ paths, IsListable path) →
      splitPaths (List.intercalate [','] paths) = paths) ∧
    (∀ text : Text, (∀ path ∈ splitPaths text, IsListable path) ∧
      splitPaths (List.intercalate [','] (splitPaths text)) = splitPaths text) ∧
    ∀ (source : Source) (settings : Settings) (text : Text), read source = .ok settings →
      given source "PASSWORD_DICTIONARIES" = some (.text text) →
        settings.dictionaries = splitPaths text := by
  refine ⟨splitPaths_eq_iff, ?_, ?_, fun _ _ _ => dictionaries_eq_splitPaths⟩
  · intro paths listable
    exact splitPaths_intercalate (Itemizes.self paths) listable
  · intro text
    have listable : ∀ path ∈ splitPaths text, IsListable path :=
      fun _ => isListable_of_mem_splitPaths
    exact ⟨listable, splitPaths_intercalate (Itemizes.self _) listable⟩

theorem paths_are_written_with_commas_twoPaths :
    let paths : List Text := ["common words.txt", "b"]
    let text : Text := " common words.txt ,,\tb, "
    let source : Source := [("PASSWORD_DICTIONARIES", .text text)]
    (∀ path ∈ paths, IsListable path) ∧ splitPaths text = paths ∧
      splitPaths (List.intercalate [','] paths) = paths ∧
      ∃ settings, read source = .ok settings ∧
        given source "PASSWORD_DICTIONARIES" = some (.text text) ∧
        settings.dictionaries = paths := by
  intro paths text source
  obtain ⟨written, joined, _, configured⟩ := paths_are_written_with_commas
  have listable : ∀ path ∈ paths, IsListable path := by
    simp only [paths, List.forall_mem_cons]
    refine ⟨⟨by decide, by decide, ?_, ?_⟩, ⟨by decide, by decide, ?_, ?_⟩, nofun⟩ <;>
    · rintro c ⟨⟩
      rfl
  have itemized : Itemizes [" common words.txt ", [], "\tb", " "] paths :=
    .path " " "common words.txt" " " rfl rfl
      (.blank [] rfl (.path "\t" "b" [] rfl rfl (.blank " " rfl .nothing)))
  have run : splitPaths text = paths := (written text paths).2 ⟨listable, _, itemized, rfl⟩
  obtain ⟨settings, given⟩ : ∃ settings, read source = .ok settings := ⟨_, rfl⟩
  exact ⟨listable, run, joined paths listable, settings, given, rfl,
    (configured source settings text given rfl).trans run⟩

end PasswordAudit.Settings
