import PasswordAudit.Proofs.Text.Cut
import PasswordAudit.Proofs.Text.Numeral
import PasswordAudit.Proofs.Text.Strip
import PasswordAudit.Rule.Notation

/-! The grammar of the notation for rules, and the fault of a piece that is not in it. Both are told
piece by piece and without the way in which a text is read. Reading follows them exactly. -/
namespace PasswordAudit

namespace CharacterClass

private theorem eq_of_fold_name_eq {first second : CharacterClass}
    (same : Text.fold first.name = Text.fold second.name) : first = second := by
  revert same
  cases first <;> cases second <;> decide

theorem mem_all (kind : CharacterClass) : kind ∈ all := by
  cases kind <;> decide

private theorem ofName?_eq_some_iff (name : Text) (kind : CharacterClass) :
    ofName? name = some kind ↔ Text.fold kind.name = Text.fold name := by
  constructor
  · intro found
    simpa using List.find?_some found
  · intro same
    cases found : ofName? name with
    | none =>
      have missed := List.find?_eq_none.1 found kind (mem_all kind)
      simp [same] at missed
    | some other =>
      have alike : Text.fold other.name = Text.fold name := by simpa using List.find?_some found
      rw [eq_of_fold_name_eq (alike.trans same.symm)]

theorem ofName?_eq_none_iff (name : Text) :
    ofName? name = none ↔ ∀ kind : CharacterClass, Text.fold kind.name ≠ Text.fold name := by
  simp [ofName?, mem_all]

end CharacterClass

namespace Rule

/-- A piece has two fields just if it has one colon. The fields are stripped. -/
def HasFields (piece name count : Text) : Prop :=
  ∃ left right, piece = left ++ ':' :: right ∧ ':' ∉ left ∧ ':' ∉ right ∧
    Text.Strips left name ∧ Text.Strips right count

inductive Reads : Text → Rule Nat → Prop
  | rule {piece name count : Text} {kind : CharacterClass} {value : Nat}
      (fields : HasFields piece name count) (named : Text.fold kind.name = Text.fold name)
      (counted : Text.Denotes count value) (short : count.length ≤ 4300) :
      Reads piece ⟨kind, value⟩

/-- A bad piece and its fault. Each fault presupposes that those before it are absent. -/
inductive Refuses : Text → Fault → Prop
  | malformed {piece core : Text} (colons : piece.count ':' ≠ 1) (strips : Text.Strips piece core) :
      Refuses piece (.malformed core)
  | unknownClass {piece name count : Text} (fields : HasFields piece name count)
      (unnamed : ∀ kind : CharacterClass, Text.fold kind.name ≠ Text.fold name) :
      Refuses piece (.unknownClass name)
  | invalidCount {piece name count : Text} {kind : CharacterClass}
      (fields : HasFields piece name count) (named : Text.fold kind.name = Text.fold name)
      (uncounted : ¬ ∃ value, Text.Denotes count value) :
      Refuses piece (.invalidCount name count)
  | oversizedCount {piece name count : Text} {kind : CharacterClass} {value : Nat}
      (fields : HasFields piece name count) (named : Text.fold kind.name = Text.fold name)
      (counted : Text.Denotes count value) (long : 4300 < count.length) :
      Refuses piece (.oversizedCount count.length)

private theorem hasFields_iff (piece name count : Text) :
    HasFields piece name count ↔ ∃ left right, List.splitOn ':' piece = [left, right] ∧
      Text.strip left = name ∧ Text.strip right = count := by
  simp only [HasFields, Text.splitOn_eq_pair_iff, Text.strips_iff, and_assoc]

private theorem count_colon_eq_one_iff (piece : Text) :
    piece.count ':' = 1 ↔ ∃ left right, List.splitOn ':' piece = [left, right] := by
  have size := Text.length_splitOn ':' piece
  constructor
  · intro colons
    rw [colons] at size
    exact List.length_eq_two.1 size
  · rintro ⟨left, right, pair⟩
    rw [pair] at size
    simpa using size.symm

private theorem readPiece_of_unnamed {piece name count : Text} (fields : HasFields piece name count)
    (unnamed : ∀ kind : CharacterClass, Text.fold kind.name ≠ Text.fold name) :
    readPiece piece = .error (.unknownClass name) := by
  obtain ⟨left, right, pair, rfl, rfl⟩ := (hasFields_iff piece name count).1 fields
  simp only [readPiece, pair, (CharacterClass.ofName?_eq_none_iff _).2 unnamed]

private theorem readPiece_of_named {piece name count : Text} {kind : CharacterClass}
    (fields : HasFields piece name count) (named : Text.fold kind.name = Text.fold name) :
    readPiece piece = (readCount name count).map (⟨kind, ·⟩) := by
  obtain ⟨left, right, pair, rfl, rfl⟩ := (hasFields_iff piece name count).1 fields
  simp only [readPiece, pair, (CharacterClass.ofName?_eq_some_iff _ _).2 named]

theorem readPiece_of_colons {piece : Text} (colons : piece.count ':' ≠ 1) :
    readPiece piece = .error (.malformed (Text.strip piece)) := by
  rw [readPiece]
  split
  · next left right pair =>
    exact absurd ((count_colon_eq_one_iff piece).2 ⟨left, right, pair⟩) colons
  · rfl

theorem readCount_eq_ok_iff (name count : Text) (value : Nat) :
    readCount name count = .ok value ↔ Text.Denotes count value ∧ count.length ≤ 4300 := by
  rw [readCount, Text.denotes_iff, Decimal.digitLimit]
  by_cases decimal : Text.isDecimal count = true
  · by_cases long : 4300 < count.length
    · simp [decimal, long]
    · simp [decimal, long, Nat.le_of_not_lt long]
  · simp [decimal]

private theorem readCount_eq_error_iff (name count : Text) (fault : Fault) :
    readCount name count = .error fault ↔
      ((¬ ∃ value, Text.Denotes count value) ∧ fault = .invalidCount name count) ∨
      ((∃ value, Text.Denotes count value) ∧ 4300 < count.length ∧
        fault = .oversizedCount count.length) := by
  rw [readCount, Text.denotes_some_iff, Decimal.digitLimit]
  by_cases decimal : Text.isDecimal count = true
  · by_cases long : 4300 < count.length
    · simp [decimal, long, eq_comm]
    · simp [decimal, long]
  · simp [decimal, eq_comm]

private theorem reads_or_refuses (piece : Text) :
    (∃ rule, readPiece piece = .ok rule ∧ Reads piece rule) ∨
    (∃ fault, readPiece piece = .error fault ∧ Refuses piece fault) := by
  by_cases colons : piece.count ':' = 1
  · obtain ⟨left, right, pair⟩ := (count_colon_eq_one_iff piece).1 colons
    have fields := (hasFields_iff piece _ _).2 ⟨left, right, pair, rfl, rfl⟩
    by_cases known : ∃ kind : CharacterClass, Text.fold kind.name = Text.fold (Text.strip left)
    · obtain ⟨kind, named⟩ := known
      rw [readPiece_of_named fields named]
      cases counted : readCount (Text.strip left) (Text.strip right) with
      | ok value =>
        obtain ⟨denotes, short⟩ := (readCount_eq_ok_iff _ _ value).1 counted
        exact .inl ⟨_, rfl, .rule fields named denotes short⟩
      | error fault =>
        rcases (readCount_eq_error_iff _ _ fault).1 counted with
          ⟨uncounted, rfl⟩ | ⟨⟨value, denotes⟩, long, rfl⟩
        · exact .inr ⟨_, rfl, .invalidCount fields named uncounted⟩
        · exact .inr ⟨_, rfl, .oversizedCount fields named denotes long⟩
    · have unnamed := not_exists.1 known
      exact .inr ⟨_, readPiece_of_unnamed fields unnamed, .unknownClass fields unnamed⟩
  · exact .inr ⟨_, readPiece_of_colons colons, .malformed colons (Text.strips_strip piece)⟩

private theorem readPiece_of_reads {piece : Text} {rule : Rule Nat} (reads : Reads piece rule) :
    readPiece piece = .ok rule := by
  cases reads with
  | rule fields named counted short =>
    rw [readPiece_of_named fields named]
    simp only [(readCount_eq_ok_iff _ _ _).2 ⟨counted, short⟩, Except.map]

private theorem readPiece_of_refuses {piece : Text} {fault : Fault}
    (refuses : Refuses piece fault) :
    readPiece piece = .error fault := by
  cases refuses with
  | malformed colons strips =>
    rw [readPiece_of_colons colons, (Text.strips_iff _ _).1 strips]
  | unknownClass fields unnamed =>
    exact readPiece_of_unnamed fields unnamed
  | invalidCount fields named uncounted =>
    rw [readPiece_of_named fields named]
    simp only [(readCount_eq_error_iff _ _ _).2 (.inl ⟨uncounted, rfl⟩), Except.map]
  | oversizedCount fields named counted long =>
    rw [readPiece_of_named fields named]
    simp only [(readCount_eq_error_iff _ _ _).2 (.inr ⟨⟨_, counted⟩, long, rfl⟩), Except.map]

private theorem readPieces_cons_of_reads {piece : Text} {rule : Rule Nat} (reads : Reads piece rule)
    (rest : List Text) : readPieces (piece :: rest) = (readPieces rest).map (rule :: ·) := by
  rw [readPieces, readPiece_of_reads reads]
  cases readPieces rest <;> rfl

private theorem readPieces_cons_of_refuses {piece : Text} {fault : Fault}
    (refuses : Refuses piece fault)
    (rest : List Text) : readPieces (piece :: rest) = .error fault := by
  rw [readPieces, readPiece_of_refuses refuses]
  rfl

private theorem not_refuses_of_reads {piece : Text} {rule : Rule Nat} (reads : Reads piece rule)
    (fault : Fault) : ¬ Refuses piece fault := by
  intro refuses
  cases (readPiece_of_reads reads).symm.trans (readPiece_of_refuses refuses)

theorem readPieces_eq_ok_iff (pieces : List Text) (rules : List (Rule Nat)) :
    readPieces pieces = .ok rules ↔ List.Forall₂ Reads pieces rules := by
  induction pieces generalizing rules with
  | nil => simp [readPieces, eq_comm]
  | cons piece rest ih =>
    rw [List.forall₂_cons_left_iff]
    rcases reads_or_refuses piece with ⟨rule, _, reads⟩ | ⟨fault, _, refuses⟩
    · rw [readPieces_cons_of_reads reads]
      constructor
      · intro run
        cases later : readPieces rest with
        | error fault => simp [later, Except.map] at run
        | ok others =>
          rw [later] at run
          cases run
          exact ⟨rule, others, reads, (ih others).1 later, rfl⟩
      · rintro ⟨found, others, first, later, rfl⟩
        rw [(ih others).2 later]
        cases (readPiece_of_reads reads).symm.trans (readPiece_of_reads first)
        rfl
    · rw [readPieces_cons_of_refuses refuses]
      constructor
      · intro run
        cases run
      · rintro ⟨rule, _, reads, _, _⟩
        exact absurd refuses (not_refuses_of_reads reads fault)

/-- The first bad piece from the left decides, whatever stands after it. -/
private theorem readPieces_of_first_bad {before : List Text} {piece : Text} {fault : Fault}
    (good : ∀ earlier ∈ before, ∃ rule, Reads earlier rule) (refuses : Refuses piece fault)
    (after : List Text) : readPieces (before ++ piece :: after) = .error fault := by
  induction before with
  | nil => exact readPieces_cons_of_refuses refuses after
  | cons first rest ih =>
    obtain ⟨rule, reads⟩ := good first (List.mem_cons_self ..)
    rw [List.cons_append, readPieces_cons_of_reads reads,
      ih fun earlier member => good earlier (List.mem_cons_of_mem _ member)]
    rfl

private theorem readPieces_eq_error_iff (pieces : List Text) (fault : Fault) :
    readPieces pieces = .error fault ↔
      ∃ before piece after, pieces = before ++ piece :: after ∧
        (∀ earlier ∈ before, ∃ rule, Reads earlier rule) ∧ Refuses piece fault := by
  constructor
  · intro run
    induction pieces with
    | nil => cases run
    | cons piece rest ih =>
      rcases reads_or_refuses piece with ⟨rule, _, reads⟩ | ⟨found, _, refuses⟩
      · rw [readPieces_cons_of_reads reads] at run
        cases later : readPieces rest with
        | ok others => simp [later, Except.map] at run
        | error found =>
          rw [later] at run
          cases run
          obtain ⟨before, bad, after, rfl, good, refuses⟩ := ih later
          exact ⟨piece :: before, bad, after, rfl,
            List.forall_mem_cons.2 ⟨⟨rule, reads⟩, good⟩, refuses⟩
      · rw [readPieces_cons_of_refuses refuses] at run
        cases run
        exact ⟨[], piece, rest, rfl, by simp, refuses⟩
  · rintro ⟨before, piece, after, rfl, good, refuses⟩
    exact readPieces_of_first_bad good refuses after

theorem readOrDefault_eq_error_iff (text : Text) (fault : Fault) :
    readOrDefault (some text) = .error fault ↔
      Text.isAllBlank text = false ∧ ∃ before piece after,
        List.splitOn ',' text = before ++ piece :: after ∧
        (∀ earlier ∈ before, ∃ rule, Reads earlier rule) ∧ Refuses piece fault := by
  rw [← readPieces_eq_error_iff, ← read]
  cases blank : Text.isAllBlank text <;> simp [readOrDefault, blank]

/-- Reading accepts exactly the pieces of the grammar, one rule for each and in order. Otherwise
its fault is that of the first bad piece from the left. -/
theorem read_follows_grammar (text : Text) :
    ∃ pieces : List Text, pieces ≠ [] ∧ List.intercalate [','] pieces = text ∧
      (∀ piece ∈ pieces, ',' ∉ piece) ∧
      (∀ rules, read text = .ok rules ↔ List.Forall₂ Reads pieces rules) ∧
      (∀ fault, read text = .error fault ↔
        ∃ before piece after, pieces = before ++ piece :: after ∧
          (∀ earlier ∈ before, ∃ rule, Reads earlier rule) ∧ Refuses piece fault) := by
  refine ⟨List.splitOn ',' text, List.splitOn_ne_nil ',' text, List.intercalate_splitOn ',', ?_,
    ?_, ?_⟩
  · intro piece member
    exact Text.not_mem_of_mem_splitOn member
  · intro rules
    rw [read, readPieces_eq_ok_iff]
  · intro fault
    rw [read, readPieces_eq_error_iff]

end Rule
end PasswordAudit
