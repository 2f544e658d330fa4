import PasswordAudit.Proofs.CharacterClass
import PasswordAudit.Proofs.Strength.Logarithm

/-! The pool that a password seems to be drawn from. Its size is known from which classes occur, so
it is the same for all orders of the characters, and does not shrink when characters are added. The
counts of the classes and of the blanks add up to the length, which is why a password with a
character that is not blank has a pool of ten at least, and no logarithm of less is ever taken. -/
namespace PasswordAudit

private theorem Text.isAllBlank_iff (text : Text) :
    isAllBlank text = true ↔ text.countP isBlank = text.length := by
  rw [isAllBlank, List.all_eq_true, List.countP_eq_length]

private theorem CharacterClass.any_holds_iff (kind : CharacterClass) (text : Text) :
    text.any kind.holds = true ↔ 1 ≤ kind.count text := by
  rw [count, Nat.succ_le_iff, List.countP_pos_iff, List.any_eq_true]

namespace Strength

open CharacterClass (count_sum_eq_length)

variable {password longer shuffled : Text} {threshold : Nat}

private theorem poolSize_eq_of_counts (password : Text) :
    poolSize password =
      (if 1 ≤ CharacterClass.lowerCase.count password then 26 else 0) +
      (if 1 ≤ CharacterClass.upperCase.count password then 26 else 0) +
      (if 1 ≤ CharacterClass.digit.count password then 10 else 0) +
      (if 1 ≤ CharacterClass.special.count password then 32 else 0) +
      (if 1 ≤ password.countP Text.isBlank then 1 else 0) := by
  have blanks : password.any Text.isBlank = true ↔ 1 ≤ password.countP Text.isBlank := by
    rw [Nat.succ_le_iff, List.countP_pos_iff, List.any_eq_true]
  simp only [poolSize_eq, CharacterClass.any_holds_iff, blanks]

private theorem poolSize_eq_zero_iff (password : Text) : poolSize password = 0 ↔ password = [] := by
  have shared := count_sum_eq_length password
  rw [poolSize_eq_of_counts, ← List.length_eq_zero_iff]
  constructor
  · intro none
    split_ifs at none <;> omega
  · intro empty
    split_ifs <;> omega

/-- Where the blanks make up the whole length, nothing is left to count for any class. -/
private theorem poolSize_le_one_of_isAllBlank (blank : Text.isAllBlank password = true) :
    poolSize password ≤ 1 := by
  have shared := count_sum_eq_length password
  have whole := (Text.isAllBlank_iff password).1 blank
  rw [poolSize_eq_of_counts]
  split_ifs <;> omega

/-- Where they do not, some class counts, and none adds less than the digits do. -/
private theorem ten_le_poolSize (inked : Text.isAllBlank password = false) :
    10 ≤ poolSize password := by
  have shared := count_sum_eq_length password
  have fewer : password.countP Text.isBlank ≠ password.length := by
    rw [ne_eq, ← Text.isAllBlank_iff, inked]
    exact Bool.false_ne_true
  rw [poolSize_eq_of_counts]
  split_ifs <;> omega

private theorem poolSize_le_one_iff (password : Text) :
    poolSize password ≤ 1 ↔ Text.isAllBlank password = true := by
  constructor
  · intro small
    by_contra inked
    have large := ten_le_poolSize (Bool.eq_false_iff.2 inked)
    omega
  · exact poolSize_le_one_of_isAllBlank

private theorem poolSize_eq_of_perm (reordered : password.Perm shuffled) :
    poolSize password = poolSize shuffled := by
  simp only [poolSize_eq, reordered.any_eq]

private theorem score_eq_of_perm (reordered : password.Perm shuffled) :
    score .entropy password = score .entropy shuffled := by
  simp only [score, poolSize_eq_of_perm reordered, reordered.length_eq]

private theorem reaches_of_sublist (estimator : Estimator) (grown : password.Sublist longer)
    (reached : reaches estimator threshold password = true) :
    reaches estimator threshold longer = true := by
  rw [reaches_iff] at reached ⊢
  exact reached.trans (estimate_mono estimator grown)

private theorem reachesExactly_of_sublist (grown : password.Sublist longer)
    (reached : ReachesExactly threshold password) : ReachesExactly threshold longer := by
  obtain ⟨many, enough⟩ := reached
  have pool := poolSize_mono grown
  refine ⟨many.trans_le pool, enough.trans ?_⟩
  calc poolSize password ^ password.length
      ≤ poolSize longer ^ password.length := Nat.pow_le_pow_left pool _
    _ ≤ poolSize longer ^ longer.length :=
      Nat.pow_le_pow_right (by omega) grown.length_le

/-- The size of the pool is known from which classes have characters that count, and from whether
there are blanks. It is zero for the empty password only, at most one for blanks only, and these
score nothing; every other password has a pool of ten to ninety-five, the number nearest to the
logarithm of that is taken for a character, and the score is off from the exact bits by a few
roundings at most. That a threshold is reached exactly means that there are as many passwords of the
length in the pool as that many bits can tell apart, and the rounded score decides the same for all
but very long passwords. Adding characters takes away neither length nor pool nor score, nor a
threshold that was reached, exactly or as it is decided, and the order of the characters makes no
difference. -/
theorem entropy_follows_classes_and_length :
    (∀ password, poolSize password =
      (if 1 ≤ CharacterClass.lowerCase.count password then 26 else 0) +
      (if 1 ≤ CharacterClass.upperCase.count password then 26 else 0) +
      (if 1 ≤ CharacterClass.digit.count password then 10 else 0) +
      (if 1 ≤ CharacterClass.special.count password then 32 else 0) +
      (if 1 ≤ password.countP Text.isBlank then 1 else 0)) ∧
    (∀ password, (poolSize password = 0 ↔ password = []) ∧
      (poolSize password ≤ 1 ↔ Text.isAllBlank password = true)) ∧
    (∀ password, if Text.isAllBlank password then score .entropy password = 0
      else 10 ≤ poolSize password ∧ poolSize password ≤ 95 ∧
        (let character := bitsPerCharacter (poolSize password)
        Decimal.nearest character = character ∧
          |(character : ℝ) - unit * Real.logb 2 (poolSize password)| ≤
            Decimal.spacing character / 2 ∧
          score .entropy password =
            Decimal.nearest (Decimal.nearest password.length * character))) ∧
    (∀ password, |(estimate .entropy password : ℝ) - bits password| ≤ bits password / 2 ^ 51) ∧
    (∀ password threshold, 0 < threshold →
      (ReachesExactly threshold password ↔ (threshold : ℝ) ≤ bits password) ∧
      (password.length ≤ 128 →
        (reaches .entropy threshold password = true ↔ ReachesExactly threshold password))) ∧
    (∀ password longer : Text, password.Sublist longer →
      password.length ≤ longer.length ∧ poolSize password ≤ poolSize longer ∧
        score .entropy password ≤ score .entropy longer ∧
        ∀ threshold, (ReachesExactly threshold password → ReachesExactly threshold longer) ∧
          (reaches .entropy threshold password = true →
            reaches .entropy threshold longer = true)) ∧
    ∀ password shuffled : Text, password.Perm shuffled →
      poolSize password = poolSize shuffled ∧
        score .entropy password = score .entropy shuffled ∧
        ∀ threshold, (ReachesExactly threshold password ↔ ReachesExactly threshold shuffled) ∧
          reaches .entropy threshold password = reaches .entropy threshold shuffled := by
  refine ⟨poolSize_eq_of_counts,
    fun password => ⟨poolSize_eq_zero_iff password, poolSize_le_one_iff password⟩, ?_,
    abs_estimate_sub_bits_le, ?_, ?_, ?_⟩
  · intro password
    cases blank : Text.isAllBlank password with
    | true => exact if_pos (poolSize_le_one_of_isAllBlank blank)
    | false =>
      have large := ten_le_poolSize blank
      have many : 1 < poolSize password := by omega
      obtain ⟨held, near⟩ := abs_entry_sub_le (bitsPerCharacter_mem many)
      exact ⟨large, poolSize_le password, held, near, if_neg (by omega)⟩
  · intro password threshold positive
    exact ⟨reachesExactly_iff positive password, reaches_iff_reachesExactly positive⟩
  · intro password longer grown
    exact ⟨grown.length_le, poolSize_mono grown, score_mono .entropy grown, fun _ =>
      ⟨reachesExactly_of_sublist grown, reaches_of_sublist .entropy grown⟩⟩
  · intro password shuffled reordered
    have pool := poolSize_eq_of_perm reordered
    have score := score_eq_of_perm reordered
    refine ⟨pool, score, fun threshold => ⟨?_, ?_⟩⟩
    · rw [ReachesExactly, ReachesExactly, pool, reordered.length_eq]
    · rw [reaches, reaches, score]

theorem entropy_follows_classes_and_length_threeClasses :
    List.Sublist "aB3".toList "a?B 3".toList ∧ List.Perm "aB3".toList "3aB".toList ∧ 0 < 17 ∧
      List.length "aB3".toList ≤ 128 ∧ poolSize "aB3" = 62 ∧ ReachesExactly 17 "aB3" ∧
      reaches .entropy 17 "aB3" = true ∧ reaches .entropy 17 "a?B 3" = true ∧
      reaches .entropy 17 "3aB" = true ∧ score .entropy "aB3" = score .entropy "3aB" := by
  have grown : List.Sublist "aB3".toList "a?B 3".toList := by decide
  have reordered : List.Perm "aB3".toList "3aB".toList := by decide
  have size : poolSize "aB3" = 62 := by decide
  have exact : ReachesExactly 17 "aB3" := by
    rw [ReachesExactly, size]
    decide
  obtain ⟨_, _, _, _, decides, grows, alike⟩ := entropy_follows_classes_and_length
  have reached := ((decides "aB3" 17 (by decide)).2 (by decide)).2 exact
  obtain ⟨_, score, same⟩ := alike _ _ reordered
  exact ⟨grown, reordered, by decide, by decide, size, exact, reached,
    ((grows _ _ grown).2.2.2 17).2 reached, (same 17).2.symm.trans reached, score⟩

end Strength
end PasswordAudit
