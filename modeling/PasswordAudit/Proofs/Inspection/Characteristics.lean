import PasswordAudit.Inspection.Check
import PasswordAudit.Proofs.CharacterClass
import PasswordAudit.Proofs.Except

/-! The check on characteristics. Rules only count characters, and each rule is counted by itself,
so neither the order of the characters nor that of the rules has any influence on the answer. A rule
that cannot be compared with leaves the check without an answer wherever it stands. -/
namespace PasswordAudit.Check

variable {password shuffled : Text} {rules others : List (Rule Value)}

private theorem metCount_cons_eq_ok_iff (password : Text) (rule : Rule Value)
    (rest : List (Rule Value)) (total : Nat) :
    metCount password (rule :: rest) = .ok total ↔
      ∃ met, reaches (rule.kind.count password) rule.count = .ok met ∧
        ∃ others, metCount password rest = .ok others ∧ others + met.toNat = total := by
  rw [metCount]
  simp only [Except.bind_eq_ok_iff, pure, Except.pure, Except.ok.injEq]

private theorem metCount_eq_of_perm (reordered : password.Perm shuffled)
    (rules : List (Rule Value)) :
    metCount password rules = metCount shuffled rules := by
  induction rules with
  | nil => rfl
  | cons rule rest ih => rw [metCount, metCount, rule.kind.count_eq_of_perm reordered, ih]

private theorem metCount_of_perm (reordered : rules.Perm others) {total : Nat}
    (counted : metCount password rules = .ok total) : metCount password others = .ok total := by
  induction reordered generalizing total with
  | nil => exact counted
  | cons rule _ ih =>
    obtain ⟨met, compared, rest, known, sum⟩ := (metCount_cons_eq_ok_iff ..).1 counted
    exact (metCount_cons_eq_ok_iff ..).2 ⟨met, compared, rest, ih known, sum⟩
  | swap first second rest =>
    obtain ⟨metSecond, comparedSecond, more, next, rfl⟩ := (metCount_cons_eq_ok_iff ..).1 counted
    obtain ⟨metFirst, comparedFirst, known, last, rfl⟩ := (metCount_cons_eq_ok_iff ..).1 next
    refine (metCount_cons_eq_ok_iff ..).2 ⟨metFirst, comparedFirst, _, ?_, Nat.add_right_comm ..⟩
    exact (metCount_cons_eq_ok_iff ..).2 ⟨metSecond, comparedSecond, known, last, rfl⟩
  | trans _ _ ihFirst ihSecond => exact ihSecond (ihFirst counted)

private theorem minCharacteristics_eq_ok_iff (password : Text) (rules : List (Rule Value))
    (needed : Value) (met : Bool) :
    (minCharacteristics rules needed).passes password = .ok met ↔
      ∃ total, metCount password rules = .ok total ∧ reaches total needed = .ok met := by
  rw [passes]
  exact Except.bind_eq_ok_iff ..

private theorem minCharacteristics_of_perm (reordered : rules.Perm others) {needed : Value}
    {met : Bool} (answered : (minCharacteristics rules needed).passes password = .ok met) :
    (minCharacteristics others needed).passes password = .ok met := by
  obtain ⟨total, counted, compared⟩ := (minCharacteristics_eq_ok_iff ..).1 answered
  exact (minCharacteristics_eq_ok_iff ..).2 ⟨total, metCount_of_perm reordered counted, compared⟩

/-- Classes count just the characters that their patterns match. Four of them and the blanks share
out every text, and the letters are those in upper and in lower case. Counts of parts add up, and
the order of characters does not matter; so a check on characteristics has the same answer for a
password with its characters in another order, and if the rules are put in another order as well, it
gives an answer just if it gave one before, and the same. -/
theorem counts_share_out_password :
    (∀ (kind : CharacterClass) (text : Text),
      kind.count text = text.countP (Text.isMatched kind.pattern)) ∧
    (∀ text : Text, CharacterClass.upperCase.count text + CharacterClass.lowerCase.count text +
        CharacterClass.digit.count text + CharacterClass.special.count text +
        text.countP Text.isBlank = text.length ∧
      CharacterClass.alphabetical.count text =
        CharacterClass.upperCase.count text + CharacterClass.lowerCase.count text) ∧
    (∀ (kind : CharacterClass) (first second : Text),
      kind.count (first ++ second) = kind.count first + kind.count second) ∧
    (∀ (kind : CharacterClass) (text shuffled : Text), text.Perm shuffled →
      kind.count text = kind.count shuffled) ∧
    ∀ (password shuffled : Text) (rules others : List (Rule Value)) (needed : Value),
      password.Perm shuffled →
        (minCharacteristics rules needed).passes password =
          (minCharacteristics rules needed).passes shuffled ∧
        (rules.Perm others → ∀ met, (minCharacteristics rules needed).passes password = .ok met ↔
          (minCharacteristics others needed).passes shuffled = .ok met) := by
  refine ⟨CharacterClass.count_eq_countP_isMatched,
    fun text => ⟨CharacterClass.count_sum_eq_length text, CharacterClass.count_alphabetical text⟩,
    CharacterClass.count_append, fun kind text shuffled => kind.count_eq_of_perm, ?_⟩
  intro password shuffled rules others needed mixed
  have counted : metCount password rules = metCount shuffled rules :=
    metCount_eq_of_perm mixed rules
  have same : (minCharacteristics rules needed).passes password =
      (minCharacteristics rules needed).passes shuffled := by
    rw [passes, passes, counted]
  refine ⟨same, fun reordered met => ?_⟩
  rw [same]
  exact ⟨minCharacteristics_of_perm reordered, minCharacteristics_of_perm reordered.symm⟩

/-- A capital with a mark, a no-break space and two digits, in two orders, under rules of which one
has a flag for its count. The letter with the mark is special, and the space is of no class. -/
theorem counts_share_out_password_marked :
    let password : Text := ['\u00C4', '7', '\u00A0', '1']
    let shuffled : Text := ['1', '\u00A0', '\u00C4', '7']
    let rules : List (Rule Value) :=
      [⟨.digit, .int 2⟩, ⟨.special, .flag true⟩, ⟨.upperCase, .int 1⟩]
    password.Perm shuffled ∧ rules.Perm rules.reverse ∧
      CharacterClass.digit.count password = CharacterClass.digit.count shuffled ∧
      (minCharacteristics rules (.int 2)).passes password = .ok true ∧
      (minCharacteristics rules (.int 2)).passes shuffled = .ok true ∧
      (minCharacteristics rules.reverse (.int 2)).passes shuffled = .ok true := by
  intro password shuffled rules
  have mixed : password.Perm shuffled := by decide
  have reordered : rules.Perm rules.reverse := (List.reverse_perm rules).symm
  have met : (minCharacteristics rules (.int 2)).passes password = .ok true := by rfl
  obtain ⟨_, _, _, counts, answers⟩ := counts_share_out_password
  obtain ⟨same, alike⟩ := answers password shuffled rules rules.reverse (.int 2) mixed
  exact ⟨mixed, reordered, counts .digit password shuffled mixed, met, same.symm.trans met,
    (alike reordered true).1 met⟩

end PasswordAudit.Check
