import Mathlib
import PasswordAudit.Proofs.Decimal.Nearest
import PasswordAudit.Strength

/-! What it means for a strength to reach a threshold. The estimate is the score as a number, and
the comparison of the two is exact. Every pool has its logarithm in the table and larger pools have
larger ones, and rounding keeps order, so adding characters never lowers an estimate. -/
namespace PasswordAudit.Strength

variable {password longer : Text}

/-- The score as a number. -/
def estimate (estimator : Estimator) (password : Text) : ℚ := score estimator password / unit

theorem unit_pos : 0 < unit := Nat.two_pow_pos 51

theorem reaches_iff (estimator : Estimator) (threshold : Nat) (password : Text) :
    reaches estimator threshold password = true ↔
      (threshold : ℚ) ≤ estimate estimator password := by
  rw [reaches, estimate, decide_eq_true_iff, le_div_iff₀ (Nat.cast_pos.2 unit_pos)]
  exact_mod_cast Iff.rfl

theorem poolSize_eq (password : Text) :
    poolSize password =
      (if password.any CharacterClass.lowerCase.holds then 26 else 0) +
      (if password.any CharacterClass.upperCase.holds then 26 else 0) +
      (if password.any CharacterClass.digit.holds then 10 else 0) +
      (if password.any CharacterClass.special.holds then 32 else 0) +
      (if password.any Text.isBlank then 1 else 0) := by
  simp only [poolSize, pools, List.filter_cons, List.filter_nil]
  split_ifs <;> rfl

theorem poolSize_le (password : Text) : poolSize password ≤ 95 := by
  rw [poolSize_eq]
  split_ifs <;> omega

/-- No pool is missing from the table. -/
theorem bitsPerCharacter_mem (many : 1 < poolSize password) :
    (poolSize password, bitsPerCharacter (poolSize password)) ∈ logarithms := by
  rw [poolSize_eq] at many ⊢
  split_ifs at many ⊢ <;> first | decide | exact absurd many (by decide)

private theorem logarithms_mono : ∀ smaller ∈ logarithms, ∀ larger ∈ logarithms,
    smaller.1 ≤ larger.1 → smaller.2 ≤ larger.2 := by
  decide

theorem estimate_length (short : password.length ≤ 2 ^ 53) :
    estimate .length password = password.length := by
  have exact : Decimal.nearest password.length = password.length :=
    Decimal.nearest_eq_self_of_le short
  have positive : (unit : ℚ) ≠ 0 := Nat.cast_ne_zero.2 unit_pos.ne'
  simp only [estimate, score, exact, Nat.cast_mul]
  exact mul_div_cancel_right₀ _ positive

private theorem any_of_sublist (grown : password.Sublist longer)
    (mark : Char → Bool) (held : password.any mark = true) : longer.any mark = true := by
  obtain ⟨c, member, marked⟩ := List.any_eq_true.1 held
  exact List.any_eq_true.2 ⟨c, grown.subset member, marked⟩

theorem poolSize_mono (grown : password.Sublist longer) :
    poolSize password ≤ poolSize longer := by
  have more : (pools.filter fun pool => password.any pool.1).Sublist
      (pools.filter fun pool => longer.any pool.1) :=
    List.monotone_filter_right pools fun pool => any_of_sublist grown pool.1
  exact (more.map Prod.snd).sum_le_sum fun _ _ => Nat.zero_le _

theorem score_mono (estimator : Estimator) (grown : password.Sublist longer) :
    score estimator password ≤ score estimator longer := by
  have length := Decimal.nearest_mono grown.length_le
  have pool := poolSize_mono grown
  cases estimator with
  | length => exact Nat.mul_le_mul_right unit length
  | entropy =>
    simp only [score]
    by_cases single : poolSize password ≤ 1
    · rw [if_pos single]
      exact Nat.zero_le _
    · have many : 1 < poolSize password := Nat.lt_of_not_le single
      rw [if_neg single, if_neg (by omega)]
      have bits := logarithms_mono _ (bitsPerCharacter_mem many) _
        (bitsPerCharacter_mem (many.trans_le pool)) pool
      exact Decimal.nearest_mono (Nat.mul_le_mul length bits)

theorem estimate_mono (estimator : Estimator) (grown : password.Sublist longer) :
    estimate estimator password ≤ estimate estimator longer := by
  have scores : (score estimator password : ℚ) ≤ score estimator longer :=
    Nat.cast_le.2 (score_mono estimator grown)
  exact div_le_div_of_nonneg_right scores (Nat.cast_nonneg unit)

end PasswordAudit.Strength
