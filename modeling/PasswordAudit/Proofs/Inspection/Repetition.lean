import PasswordAudit.Proofs.Text.Runs

/-! The check on repetition. It fails just if one character that is not blank stands once more than
allowed in a row. A row of copies ends at every other character, so the parts around a gap of blanks
are judged apart, and so are those around any character that is not the one next to it. -/
namespace PasswordAudit

namespace Text

variable {c d : Char}

private theorem replicate_prefix_across (apart : c ≠ d) (copies : Nat) (before after : Text) :
    List.replicate copies c <+: before ++ d :: after ↔ List.replicate copies c <+: before := by
  induction before generalizing copies with
  | nil => cases copies <;> simp [List.replicate_succ, apart]
  | cons e rest ih =>
    cases copies with
    | zero => simp
    | succ copies =>
      rw [List.cons_append, List.replicate_succ, List.cons_prefix_cons, List.cons_prefix_cons, ih]

private theorem replicate_isInfix_across (apart : c ≠ d) (copies : Nat) (before after : Text) :
    List.replicate (copies + 1) c <:+: before ++ d :: after ↔
      List.replicate (copies + 1) c <:+: before ∨ List.replicate (copies + 1) c <:+: after := by
  induction before with
  | nil => simp [List.infix_cons_iff, List.replicate_succ, apart]
  | cons e rest ih =>
    rw [List.cons_append, List.infix_cons_iff, List.infix_cons_iff, ih, ← List.cons_append,
      replicate_prefix_across apart, or_assoc]

private theorem ne_of_isBlank (inked : isBlank c = false) (blank : isBlank d = true) : c ≠ d := by
  rintro rfl
  exact Bool.false_ne_true (inked.symm.trans blank)

private theorem replicate_isInfix_after_blanks (inked : isBlank c = false) {gap : Text}
    (blank : ∀ d ∈ gap, isBlank d = true) (copies : Nat) (after : Text) :
    List.replicate (copies + 1) c <:+: gap ++ after ↔
      List.replicate (copies + 1) c <:+: after := by
  induction gap with
  | nil => rfl
  | cons d rest ih =>
    obtain ⟨first, others⟩ := List.forall_mem_cons.1 blank
    have across := replicate_isInfix_across (ne_of_isBlank inked first) copies [] (rest ++ after)
    rw [ih others] at across
    simpa using across

private theorem replicate_isInfix_around_blanks (inked : isBlank c = false) {gap : Text}
    (blank : ∀ d ∈ gap, isBlank d = true) (filled : gap ≠ []) (copies : Nat)
    (before after : Text) :
    List.replicate (copies + 1) c <:+: before ++ gap ++ after ↔
      List.replicate (copies + 1) c <:+: before ∨ List.replicate (copies + 1) c <:+: after := by
  obtain ⟨d, rest, rfl⟩ := List.exists_cons_of_ne_nil filled
  obtain ⟨first, others⟩ := List.forall_mem_cons.1 blank
  rw [List.append_assoc, List.cons_append, replicate_isInfix_across (ne_of_isBlank inked first),
    replicate_isInfix_after_blanks inked others]

private theorem replicate_isInfix_around (copies : Nat) {before after : Text}
    (left : d ∉ before.getLast?) (right : d ∉ after.head?) :
    List.replicate (copies + 1) c <:+: before ++ d :: after ↔
      List.replicate (copies + 1) c <:+: before ∨ List.replicate (copies + 1) c <:+: after ∨
        copies = 0 ∧ c = d := by
  by_cases apart : c ≠ d
  · simp [replicate_isInfix_across apart, apart]
  obtain rfl := not_not.1 apart
  have front : List.replicate copies c <+: after ↔ copies = 0 := by
    cases copies with
    | zero => simp
    | succ copies =>
      cases after with
      | nil => simp
      | cons e rest =>
        have other : c ≠ e := fun same => right (by simp [same])
        simp [List.replicate_succ, other]
  have onwards : List.replicate (copies + 1) c <:+: c :: after ↔
      List.replicate (copies + 1) c <:+: after ∨ copies = 0 := by
    rw [List.infix_cons_iff, List.replicate_succ, List.cons_prefix_cons, front, or_comm]
    simp
  -- The character before, if there is one, is another, so the row begins no earlier.
  rcases List.eq_nil_or_concat' before with rfl | ⟨earlier, e, rfl⟩
  · simp [onwards]
  · have other : c ≠ e := fun same => left (by simp [same])
    have whole : earlier ++ [e] ++ c :: after = earlier ++ e :: (c :: after) := by simp
    rw [whole, replicate_isInfix_across other, replicate_isInfix_across other, onwards]
    simp

end Text

namespace Check

def Fails (check : Check) (password : Text) : Prop := check.passes password = .ok false

private theorem maxRepeating_passes (limit : Nat) (password : Text) :
    (maxRepeating (.int limit)).passes password =
      .ok (decide (Text.longestRun password ≤ limit)) := by
  simp [passes, keepsTo, Relation.compare, Relation.decides, Except.mapError]

private theorem maxRepeating_fails_iff (limit : Nat) (password : Text) :
    (maxRepeating (.int limit)).Fails password ↔
      ∃ c, Text.isBlank c = false ∧ List.replicate (limit + 1) c <:+: password := by
  rw [← Text.lt_longestRun_iff, Fails, maxRepeating_passes]
  simp

/-- The check on repetition always gives an answer, and it fails just if one character that is not
blank stands more often than allowed in a row. Blanks alone never make it fail. Around a gap of
blanks, and around a character that differs from its neighbours, both sides are judged as if each
stood alone; such a character is too much by itself only where nothing is allowed. -/
theorem maxRepeating_finds_unbroken_rows (limit : Nat) (password : Text) :
    let check := maxRepeating (.int limit)
    (check.Fails password ↔
      ∃ c, Text.isBlank c = false ∧ List.replicate (limit + 1) c <:+: password) ∧
    (check.passes password = .ok true ↔ ¬ check.Fails password) ∧
    (∀ blanks, Text.isAllBlank blanks = true → ¬ check.Fails blanks) ∧
    (∀ before gap after, Text.isAllBlank gap = true → gap ≠ [] →
      (check.Fails (before ++ gap ++ after) ↔ check.Fails before ∨ check.Fails after)) ∧
    ∀ before d after, d ∉ before.getLast? → d ∉ after.head? →
      (check.Fails (before ++ d :: after) ↔ check.Fails before ∨ check.Fails after ∨
        limit = 0 ∧ Text.isBlank d = false) := by
  intro check
  have fails : ∀ text, check.Fails text ↔
      ∃ c, Text.isBlank c = false ∧ List.replicate (limit + 1) c <:+: text :=
    maxRepeating_fails_iff limit
  refine ⟨fails password, ?_, ?_, ?_, ?_⟩
  · rw [Fails, maxRepeating_passes]
    simp
  · intro blanks blank
    rw [fails]
    rintro ⟨c, inked, inside⟩
    rw [← List.append_nil blanks,
      Text.replicate_isInfix_after_blanks inked (List.all_eq_true.1 blank)] at inside
    simp at inside
  · intro before gap after blank filled
    simp only [fails, ← exists_or, ← and_or_left]
    refine exists_congr fun c => and_congr_right fun inked => ?_
    exact Text.replicate_isInfix_around_blanks inked (List.all_eq_true.1 blank) filled limit before
      after
  · intro before d after left right
    simp only [fails, Text.replicate_isInfix_around limit left right, and_or_left, exists_or]
    refine or_congr_right (or_congr_right ⟨?_, ?_⟩)
    · rintro ⟨_, inked, none, rfl⟩
      exact ⟨none, inked⟩
    · rintro ⟨none, inked⟩
      exact ⟨d, inked, none, rfl⟩

/-- With a limit of three, four noughts in a row are too many, and six are not if a blank or another
character stands in their midst. -/
theorem maxRepeating_finds_unbroken_rows_noughts :
    let check := maxRepeating (.int (3 : Nat))
    let noughts : Text := ['0', '0', '0']
    check.Fails ('x' :: '0' :: noughts) ∧
      (Text.isAllBlank [' ', '\t'] = true ∧ [' ', '\t'] ≠ [] ∧
        ¬ check.Fails (noughts ++ [' ', '\t'] ++ noughts)) ∧
      'x' ∉ noughts.getLast? ∧ 'x' ∉ noughts.head? ∧ ¬ check.Fails (noughts ++ 'x' :: noughts) := by
  intro check noughts
  obtain ⟨four, _, _, gap, between⟩ :=
    maxRepeating_finds_unbroken_rows 3 ('x' :: '0' :: noughts)
  have three : ¬ check.Fails noughts := by
    have passed : check.passes noughts = .ok true := rfl
    intro failed
    cases passed.symm.trans failed
  have blank : Text.isAllBlank [' ', '\t'] = true := by decide
  have left : 'x' ∉ noughts.getLast? := by decide
  have right : 'x' ∉ noughts.head? := by decide
  refine ⟨four.2 ⟨'0', by decide, ['x'], [], rfl⟩, ⟨blank, by decide, ?_⟩, left, right, ?_⟩
  · rw [gap noughts [' ', '\t'] noughts blank (by decide)]
    exact not_or.2 ⟨three, three⟩
  · rw [between noughts 'x' noughts left right]
    exact not_or.2 ⟨three, not_or.2 ⟨three, by decide⟩⟩

end Check
end PasswordAudit
