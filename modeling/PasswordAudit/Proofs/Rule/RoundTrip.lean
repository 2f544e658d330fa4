import PasswordAudit.Log
import PasswordAudit.Proofs.Decimal.Whole
import PasswordAudit.Proofs.Rule.Grammar

/-! Writing rules and reading them back. A written rule is a piece of the grammar, because neither
names nor plain numerals hold a separator or a blank, so the pieces are read as the rules that they
were written from. Rules that were read from any text have counts short enough to be written and
read again, which makes what is written the one canonical text for them. -/
namespace PasswordAudit

namespace Text

private theorem strips_self {text : Text} (inked : ∀ c ∈ text, isBlank c = false) :
    Strips text text := by
  refine ⟨[], [], by simp, by simp, by simp, ?_, ?_⟩
  · intro c first
    exact inked c (List.mem_of_mem_head? first)
  · intro c last
    exact inked c (List.mem_of_mem_getLast? last)

private theorem plain_of_isDigit {c : Char} (digit : c.isDigit = true) :
    c ≠ ',' ∧ c ≠ ':' ∧ isBlank c = false := by
  obtain ⟨lower, upper⟩ := toNat_of_isDigit digit
  refine ⟨?_, ?_, ?_⟩
  · rintro rfl
    exact absurd lower (by decide)
  · rintro rfl
    exact absurd upper (by decide)
  · simp only [isBlank, isWhiteSpace, Bool.or_eq_false_iff, Bool.and_eq_false_iff,
      decide_eq_false_iff_not, beq_eq_false_iff_ne]
    omega

end Text

private theorem CharacterClass.plain_of_mem_name {kind : CharacterClass} {c : Char}
    (member : c ∈ kind.name) : c ≠ ',' ∧ c ≠ ':' ∧ Text.isBlank c = false := by
  have plain : (kind.name.all fun c => c != ',' && c != ':' && !Text.isBlank c) = true := by
    cases kind <;> rfl
  simpa [and_assoc] using List.all_eq_true.1 plain c member

namespace Rule

def written (rule : Rule Nat) : Text := rule.kind.name ++ ':' :: Decimal.natural rule.count

private theorem write_natural_eq (rules : List (Rule Nat)) :
    write Decimal.natural rules = List.intercalate [','] (rules.map written) := by
  have piece : ∀ rule : Rule Nat,
      rule.kind.name ++ ":".toList ++ Decimal.natural rule.count = written rule := by
    intro rule
    rw [List.append_assoc]
    rfl
  simp only [write, piece]
  rfl

private theorem write_map {α β : Type} (countText : β → Text) (given : α → β)
    (rules : List (Rule α)) :
    write countText (rules.map (Rule.map given)) = write (countText ∘ given) rules := by
  simp only [write, List.map_map]
  rfl

private theorem write_plain_int (rules : List (Rule Nat)) :
    write Value.plain (rules.map (Rule.map fun (n : Nat) => Value.int n)) =
      write Decimal.natural rules := by
  have same : (Value.plain ∘ fun (n : Nat) => Value.int n) = Decimal.natural := by
    funext n
    simp only [Function.comp_apply, Value.plain, Value.literal]
    rfl
  rw [write_map, same]

private theorem comma_not_mem_of_digits (kind : CharacterClass) {numeral : Text}
    (digits : ∀ c ∈ numeral, c.isDigit = true) : ',' ∉ kind.name ++ ':' :: numeral := by
  intro member
  rcases List.mem_append.1 member with named | counted
  · exact (CharacterClass.plain_of_mem_name named).1 rfl
  · rcases List.mem_cons.1 counted with colon | digit
    · exact absurd colon (by decide)
    · exact (Text.plain_of_isDigit (digits _ digit)).1 rfl

private theorem comma_not_mem_written (rule : Rule Nat) : ',' ∉ written rule :=
  comma_not_mem_of_digits rule.kind fun _ member => Decimal.isDigit_of_mem_natural member

private theorem hasFields_of_digits (kind : CharacterClass) {numeral : Text}
    (digits : ∀ c ∈ numeral, c.isDigit = true) :
    HasFields (kind.name ++ ':' :: numeral) kind.name numeral := by
  refine ⟨kind.name, numeral, rfl, ?_, ?_, ?_, ?_⟩
  · intro colon
    exact (CharacterClass.plain_of_mem_name colon).2.1 rfl
  · intro colon
    exact (Text.plain_of_isDigit (digits _ colon)).2.1 rfl
  · exact Text.strips_self fun c member => (CharacterClass.plain_of_mem_name member).2.2
  · exact Text.strips_self fun c member => (Text.plain_of_isDigit (digits c member)).2.2

private theorem hasFields_written (rule : Rule Nat) :
    HasFields (written rule) rule.kind.name (Decimal.natural rule.count) :=
  hasFields_of_digits rule.kind fun _ member => Decimal.isDigit_of_mem_natural member

private theorem reads_written (rule : Rule Nat)
    (short : (Decimal.natural rule.count).length ≤ 4300) :
    Reads (written rule) rule :=
  .rule (hasFields_written rule) rfl (Decimal.denotes_natural rule.count) short

theorem readOrDefault_of_long_numeral (kind : CharacterClass) {numeral : Text}
    (digits : ∀ c ∈ numeral, c.isDigit = true) (long : 4300 < numeral.length) :
    readOrDefault (some (kind.name ++ ':' :: numeral)) =
      .error (.oversizedCount numeral.length) := by
  have filled : numeral ≠ [] := List.ne_nil_of_length_pos (by omega)
  obtain ⟨value, denotes⟩ :=
    (Text.denotes_some_iff numeral).2 (Text.isDecimal_of_isDigit filled digits)
  have refuses : Refuses (kind.name ++ ':' :: numeral) (.oversizedCount numeral.length) :=
    .oversizedCount (hasFields_of_digits kind digits) rfl denotes long
  have single := List.splitOn_eq_singleton (comma_not_mem_of_digits kind digits)
  have given : Text.isAllBlank (kind.name ++ ':' :: numeral) = false :=
    List.all_eq_false.2 ⟨':', by simp, by decide⟩
  exact (readOrDefault_eq_error_iff _ _).2 ⟨given, [], _, [], single, by simp, refuses⟩

private theorem forall₂_reads_written (rules : List (Rule Nat))
    (short : ∀ rule ∈ rules, (Decimal.natural rule.count).length ≤ 4300) :
    List.Forall₂ Reads (rules.map written) rules := by
  induction rules with
  | nil => exact .nil
  | cons rule rest ih =>
    have first := reads_written rule (short rule (List.mem_cons_self ..))
    exact .cons first (ih fun other member => short other (List.mem_cons_of_mem _ member))

private theorem read_write (rules : List (Rule Nat)) (filled : rules ≠ [])
    (short : ∀ rule ∈ rules, (Decimal.natural rule.count).length ≤ 4300) :
    read (write Decimal.natural rules) = .ok rules := by
  have free : ∀ piece ∈ rules.map written, ',' ∉ piece := by
    intro piece member
    obtain ⟨rule, _, rfl⟩ := List.mem_map.1 member
    exact comma_not_mem_written rule
  rw [read, write_natural_eq, List.splitOn_intercalate ',' free (by simpa using filled),
    readPieces_eq_ok_iff]
  exact forall₂_reads_written rules short

private theorem not_read_of_isAllBlank {text : Text} (blank : Text.isAllBlank text = true)
    (rules : List (Rule Nat)) : read text ≠ .ok rules := by
  have blanks : ∀ c ∈ text, Text.isBlank c = true := List.all_eq_true.1 blank
  have commaFree : ',' ∉ text := fun member => absurd (blanks _ member) (by decide)
  have colonFree : ':' ∉ text := fun member => absurd (blanks _ member) (by decide)
  have colons : text.count ':' ≠ 1 := by simp [List.count_eq_zero_of_not_mem colonFree]
  rw [read, List.splitOn_eq_singleton commaFree, readPieces, readPiece_of_colons colons]
  intro run
  cases run

/-- What is read is not blank, so it never stands for the rules in force when none are given. -/
private theorem readOrDefault_of_read {text : Text} {rules : List (Rule Nat)}
    (run : read text = .ok rules) : readOrDefault (some text) = .ok rules := by
  rw [readOrDefault]
  split
  · next blank => exact absurd run (not_read_of_isAllBlank blank rules)
  · exact run

theorem ne_nil_of_read {text : Text} {rules : List (Rule Nat)} (run : read text = .ok rules) :
    rules ≠ [] := by
  rw [read, readPieces_eq_ok_iff] at run
  rintro rfl
  exact List.splitOn_ne_nil ',' text (List.forall₂_nil_right_iff.1 run)

private theorem Reads.length_natural_le {piece : Text} {rule : Rule Nat}
    (reads : Reads piece rule) :
    (Decimal.natural rule.count).length ≤ 4300 := by
  cases reads with
  | rule _ _ counted short => exact (Decimal.length_natural_le_of_denotes counted).trans short

theorem length_natural_le_of_read {text : Text} {rules : List (Rule Nat)}
    (run : read text = .ok rules) :
    ∀ rule ∈ rules, (Decimal.natural rule.count).length ≤ 4300 := by
  rw [read, readPieces_eq_ok_iff] at run
  generalize List.splitOn ',' text = pieces at run
  induction run with
  | nil => simp
  | cons reads _ ih => exact List.forall_mem_cons.2 ⟨reads.length_natural_le, ih⟩

private theorem read_write_of_read {text : Text} {rules : List (Rule Nat)}
    (run : read text = .ok rules) : read (write Decimal.natural rules) = .ok rules :=
  read_write rules (ne_nil_of_read run) (length_natural_le_of_read run)

/-- Reading undoes writing, for all rules whose counts have as many digits as are read, and however
the counts are kept. A text that is read has a canonical form, which is read as the same rules and
written as itself. -/
theorem reading_undoes_writing :
    (∀ rules : List (Rule Nat), rules ≠ [] →
      (∀ rule ∈ rules, (Decimal.natural rule.count).length ≤ 4300) →
      read (write Decimal.natural rules) = .ok rules ∧
        readOrDefault (some (write Decimal.natural rules)) = .ok rules) ∧
    (∀ rules : List (Rule Nat),
      write Value.plain (rules.map (Rule.map fun (n : Nat) => Value.int n)) =
          write Decimal.natural rules ∧
        write Count.text (rules.map (Rule.map Count.number)) = write Decimal.natural rules) ∧
    ∀ (text : Text) (rules : List (Rule Nat)), read text = .ok rules →
      read (write Decimal.natural rules) = .ok rules ∧
        (read (write Decimal.natural rules)).map (write Decimal.natural) =
          .ok (write Decimal.natural rules) := by
  refine ⟨?_, ?_, ?_⟩
  · intro rules filled short
    have run := read_write rules filled short
    exact ⟨run, readOrDefault_of_read run⟩
  · intro rules
    refine ⟨write_plain_int rules, ?_⟩
    rw [← write_plain_int, write_map, write_map]
    rfl
  · intro text rules run
    have again := read_write_of_read run
    exact ⟨again, by rw [again]; rfl⟩

theorem reading_undoes_writing_twoRules :
    let rules : List (Rule Nat) := [⟨.special, 10⟩, ⟨.upperCase, 0⟩]
    let text : Text := "\tupperCASE : \u0660\u0667"
    (rules ≠ [] ∧ ∀ rule ∈ rules, (Decimal.natural rule.count).length ≤ 4300) ∧
      readOrDefault (some (write Decimal.natural rules)) = .ok rules ∧
      read text = .ok [⟨.upperCase, 7⟩] ∧
      read (write Decimal.natural [⟨.upperCase, 7⟩]) = .ok [⟨.upperCase, 7⟩] := by
  intro rules text
  have filled : rules ≠ [] := by decide
  have short : ∀ rule ∈ rules, (Decimal.natural rule.count).length ≤ 4300 := by decide
  have run : read text = .ok [⟨.upperCase, 7⟩] := by decide +kernel
  obtain ⟨back, _, canonical⟩ := reading_undoes_writing
  exact ⟨⟨filled, short⟩, (back rules filled short).2, run, (canonical text _ run).1⟩

end Rule
end PasswordAudit
