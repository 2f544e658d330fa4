import Mathlib
import PasswordAudit.Decimal.Fixed

/-! Rounding to double precision. It keeps order, leaves alone what a double-precision number can
hold, and moves no number by more than half a unit in the last of its fifty-three binary digits. -/
namespace PasswordAudit.Decimal

variable {n m d k : Nat}

private theorem div_le_roundDiv (n d : Nat) : n / d ≤ roundDiv n d := by
  unfold roundDiv
  dsimp only
  split <;> omega

private theorem roundDiv_le_succ (n d : Nat) : roundDiv n d ≤ n / d + 1 := by
  unfold roundDiv
  dsimp only
  split <;> omega

private theorem roundDiv_mul (positive : 0 < d) (k : Nat) : roundDiv (k * d) d = k := by
  simp [roundDiv, Nat.mul_div_cancel k positive, positive]

private theorem le_roundDiv (positive : 0 < d) (below : k * d ≤ n) : k ≤ roundDiv n d :=
  ((Nat.le_div_iff_mul_le positive).2 below).trans (div_le_roundDiv n d)

private theorem roundDiv_le (positive : 0 < d) (above : n ≤ k * d) : roundDiv n d ≤ k := by
  rcases above.lt_or_eq with less | rfl
  · exact (roundDiv_le_succ n d).trans ((Nat.div_lt_iff_lt_mul positive).2 less)
  · exact (roundDiv_mul positive k).le

private theorem roundDiv_mono (le : n ≤ m) : roundDiv n d ≤ roundDiv m d := by
  rcases (Nat.div_le_div_right (c := d) le).lt_or_eq with less | same
  · exact (roundDiv_le_succ n d).trans (less.trans_le (div_le_roundDiv m d))
  · have rest : n % d ≤ m % d := by
      have first := Nat.div_add_mod n d
      have second := Nat.div_add_mod m d
      rw [same] at first
      omega
    simp only [roundDiv, same, Bool.or_eq_true, Bool.and_eq_true, decide_eq_true_eq, beq_iff_eq]
    split_ifs <;> omega

private theorem roundDiv_bounds (n : Nat) (positive : 0 < d) :
    2 * n ≤ 2 * (roundDiv n d * d) + d ∧ 2 * (roundDiv n d * d) ≤ 2 * n + d := by
  have parts : n / d * d + n % d = n := Nat.div_add_mod' n d
  have small : n % d < d := Nat.mod_lt n positive
  simp only [roundDiv, Bool.or_eq_true, Bool.and_eq_true, decide_eq_true_eq, beq_iff_eq]
  split
  · omega
  · rw [Nat.add_mul]
    omega

private theorem spacing_pos (n : Nat) : 0 < spacing n := Nat.two_pow_pos _

private theorem spacing_dvd_pow (n : Nat) {power : Nat} (long : n.log2 ≤ power) :
    spacing n ∣ 2 ^ power ∨ spacing n = 1 := by
  by_cases wide : n.log2 + 1 ≤ binaryDigits
  · exact .inr (by rw [spacing, Nat.sub_eq_zero_of_le wide])
  · refine .inl (Nat.pow_dvd_pow 2 ?_)
    have digits : binaryDigits = 53 := rfl
    omega

private theorem exists_mul_spacing_eq (n : Nat) {power : Nat} (long : n.log2 ≤ power) :
    ∃ k, k * spacing n = 2 ^ power := by
  rcases spacing_dvd_pow n long with ⟨k, whole⟩ | one
  · exact ⟨k, by rw [whole, Nat.mul_comm]⟩
  · exact ⟨2 ^ power, by rw [one, Nat.mul_one]⟩

/-- Rounding does not pass a number that lies on the spacing. -/
theorem le_nearest_of_dvd (multiple : spacing n ∣ m) (le : m ≤ n) : m ≤ nearest n := by
  obtain ⟨k, rfl⟩ := multiple
  rw [Nat.mul_comm] at le
  rw [nearest, Nat.mul_comm]
  exact Nat.mul_le_mul_right _ (le_roundDiv (spacing_pos n) le)

private theorem nearest_le_pow {power : Nat} (long : n.log2 ≤ power) (small : n ≤ 2 ^ power) :
    nearest n ≤ 2 ^ power := by
  obtain ⟨k, whole⟩ := exists_mul_spacing_eq n long
  rw [nearest, ← whole]
  exact Nat.mul_le_mul_right _ (roundDiv_le (spacing_pos n) (by omega))

private theorem pow_log2_le_nearest (positive : n ≠ 0) : 2 ^ n.log2 ≤ nearest n := by
  obtain ⟨k, whole⟩ := exists_mul_spacing_eq n le_rfl
  exact le_nearest_of_dvd ⟨k, by rw [← whole, Nat.mul_comm]⟩ (Nat.log2_self_le positive)

theorem nearest_eq_self_of_spacing_dvd (fits : spacing n ∣ n) : nearest n = n := by
  obtain ⟨k, multiple⟩ := fits
  have quotient : roundDiv n (spacing n) = k := by
    nth_rewrite 1 [multiple]
    rw [Nat.mul_comm, roundDiv_mul (spacing_pos n)]
  rw [nearest, quotient, Nat.mul_comm]
  exact multiple.symm

/-- Whole numbers of fifty-three binary digits are held as they are, and so is the first of more. -/
theorem nearest_eq_self_of_le (small : n ≤ 2 ^ 53) : nearest n = n := by
  apply nearest_eq_self_of_spacing_dvd
  rcases small.lt_or_eq with less | rfl
  · have digits : n.log2 + 1 ≤ 53 := by
      by_cases zero : n = 0
      · rw [zero]
        decide
      · exact (Nat.log2_lt zero).2 less
    rw [spacing, binaryDigits, Nat.sub_eq_zero_of_le digits]
    exact one_dvd n
  · decide

theorem nearest_mono (le : n ≤ m) : nearest n ≤ nearest m := by
  by_cases zero : n = 0
  · rw [zero, nearest_eq_self_of_spacing_dvd (dvd_zero _)]
    exact Nat.zero_le _
  have digits : n.log2 ≤ m.log2 := (Nat.le_log2 (by omega)).2 ((Nat.log2_self_le zero).trans le)
  rcases digits.lt_or_eq with fewer | same
  -- A power of two lies between numbers of different lengths, and no rounding crosses it.
  · calc nearest n ≤ 2 ^ (n.log2 + 1) :=
          nearest_le_pow (Nat.le_succ _) Nat.lt_log2_self.le
      _ ≤ 2 ^ m.log2 := Nat.pow_le_pow_right two_pos fewer
      _ ≤ nearest m := pow_log2_le_nearest (by omega)
  · have apart : spacing n = spacing m := by rw [spacing, spacing, same]
    rw [nearest, nearest, apart]
    exact Nat.mul_le_mul_right _ (roundDiv_mono le)

private theorem spacing_le (n : Nat) : spacing n = 1 ∨ spacing n * 2 ^ 52 ≤ n := by
  by_cases wide : n.log2 + 1 ≤ binaryDigits
  · exact .inl (by rw [spacing, Nat.sub_eq_zero_of_le wide])
  · have digits : binaryDigits = 53 := rfl
    have power : spacing n * 2 ^ 52 = 2 ^ n.log2 := by
      rw [spacing, Nat.pow_eq, ← Nat.pow_add]
      congr 1
      omega
    have some : n ≠ 0 := by
      rintro rfl
      exact wide (by decide)
    exact .inr (power.trans_le (Nat.log2_self_le some))

theorem nearest_bounds (n : Nat) :
    n * 2 ^ 53 ≤ nearest n * 2 ^ 53 + n ∧ nearest n * 2 ^ 53 ≤ n * 2 ^ 53 + n := by
  rcases spacing_le n with one | fine
  · rw [nearest_eq_self_of_spacing_dvd (one ▸ one_dvd n)]
    omega
  · obtain ⟨lower, upper⟩ := roundDiv_bounds n (spacing_pos n)
    rw [← nearest] at lower upper
    omega

theorem abs_nearest_sub_le (n : Nat) : |(nearest n : ℝ) - n| ≤ n / 2 ^ 53 := by
  obtain ⟨lower, upper⟩ := nearest_bounds n
  have low : (n : ℝ) * 2 ^ 53 ≤ nearest n * 2 ^ 53 + n := by exact_mod_cast lower
  have high : (nearest n : ℝ) * 2 ^ 53 ≤ n * 2 ^ 53 + n := by exact_mod_cast upper
  rw [abs_le]
  constructor <;> linarith

end PasswordAudit.Decimal
