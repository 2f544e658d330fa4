import Mathlib
import PasswordAudit.Proofs.Strength

/-! The table of logarithms, and what rounding does to an entropy. The digits of a binary logarithm
come from squaring: each time the number doubles its logarithm, and whether it has to be halved to
stay below two is the next digit. With bounds of a hundred binary digits fifty-two of the logarithm
are certain, which is enough to tell that an entry of the table is the nearest number there is. From
this an entropy is off by four roundings at most, and for passwords of usual length the comparison
with a threshold decides as exact numbers would. -/
namespace PasswordAudit.Strength

/-- Bounds of a number in the form `y * 2 ^ exponent`, with a hundred binary places of `y`. -/
structure Enclosure where
  low : Nat
  high : Nat
  exponent : Nat

namespace Enclosure

def Holds (bounds : Enclosure) (n : Nat) : Prop :=
  bounds.low * 2 ^ bounds.exponent ≤ n * 2 ^ 100 ∧ n * 2 ^ 100 ≤ bounds.high * 2 ^ bounds.exponent

def exactly (n : Nat) : Enclosure :=
  ⟨n * 2 ^ (100 - n.log2), n * 2 ^ (100 - n.log2), n.log2⟩

def square : Enclosure → Enclosure
  | ⟨low, high, exponent⟩ =>
    let digit := if low * low < 2 ^ 201 then 0 else 1
    ⟨low * low / 2 ^ (100 + digit), high * high / 2 ^ (100 + digit) + 1, 2 * exponent + digit⟩

def squares : Nat → Enclosure → Enclosure
  | 0, bounds => bounds
  | count + 1, bounds => squares count bounds.square

/-- The number is between one power of two and the next, and twice the entry is no further than the
spacing from both exponents. -/
def pins : Enclosure → Nat → Bool
  | ⟨low, high, exponent⟩, entry =>
    2 ^ 100 ≤ low && high ≤ 2 ^ 101 && 2 * entry ≤ exponent + Decimal.spacing entry &&
      exponent + 1 ≤ 2 * entry + Decimal.spacing entry

private theorem exactly_holds {n : Nat} (small : n.log2 ≤ 100) : (exactly n).Holds n := by
  have whole : n * 2 ^ (100 - n.log2) * 2 ^ n.log2 = n * 2 ^ 100 := by
    rw [Nat.mul_assoc, ← Nat.pow_add, Nat.sub_add_cancel small]
  exact ⟨whole.le, whole.ge⟩

private theorem square_holds {bounds : Enclosure} {n : Nat} (holds : bounds.Holds n) :
    bounds.square.Holds (n ^ 2) := by
  obtain ⟨low, high, exponent⟩ := bounds
  obtain ⟨lower, upper⟩ := holds
  simp only [square, Holds] at lower upper ⊢
  generalize (if low * low < 2 ^ 201 then 0 else 1) = digit
  have power (y : Nat) : y * 2 ^ (2 * exponent + digit) * 2 ^ 100 =
      y * 2 ^ (100 + digit) * (2 ^ exponent) ^ 2 := by ring
  have floor := Nat.div_mul_le_self (low * low) (2 ^ (100 + digit))
  have ceiling : high * high ≤ (high * high / 2 ^ (100 + digit) + 1) * 2 ^ (100 + digit) :=
    (Nat.lt_mul_of_div_lt (Nat.lt_succ_self _) (Nat.two_pow_pos (100 + digit))).le
  constructor
  · refine Nat.le_of_mul_le_mul_right ?_ (Nat.two_pow_pos 100)
    calc low * low / 2 ^ (100 + digit) * 2 ^ (2 * exponent + digit) * 2 ^ 100
        = low * low / 2 ^ (100 + digit) * 2 ^ (100 + digit) * (2 ^ exponent) ^ 2 := power _
      _ ≤ low * low * (2 ^ exponent) ^ 2 := Nat.mul_le_mul_right _ floor
      _ = (low * 2 ^ exponent) ^ 2 := by ring
      _ ≤ (n * 2 ^ 100) ^ 2 := Nat.pow_le_pow_left lower 2
      _ = n ^ 2 * 2 ^ 100 * 2 ^ 100 := by ring
  · refine Nat.le_of_mul_le_mul_right ?_ (Nat.two_pow_pos 100)
    calc n ^ 2 * 2 ^ 100 * 2 ^ 100
        = (n * 2 ^ 100) ^ 2 := by ring
      _ ≤ (high * 2 ^ exponent) ^ 2 := Nat.pow_le_pow_left upper 2
      _ = high * high * (2 ^ exponent) ^ 2 := by ring
      _ ≤ (high * high / 2 ^ (100 + digit) + 1) * 2 ^ (100 + digit) * (2 ^ exponent) ^ 2 :=
        Nat.mul_le_mul_right _ ceiling
      _ = (high * high / 2 ^ (100 + digit) + 1) * 2 ^ (2 * exponent + digit) * 2 ^ 100 :=
        (power _).symm

private theorem squares_holds (count : Nat) {bounds : Enclosure} {n : Nat}
    (holds : bounds.Holds n) :
    (squares count bounds).Holds (n ^ 2 ^ count) := by
  induction count generalizing bounds n with
  | zero => simpa [squares] using holds
  | succ count ih =>
    have next := ih (square_holds holds)
    rwa [← Nat.pow_mul, ← Nat.pow_succ'] at next

private theorem Holds.pow_le {bounds : Enclosure} {n entry : Nat} (holds : bounds.Holds n)
    (pinned : bounds.pins entry = true) :
    2 ^ (2 * entry) ≤ n * 2 ^ Decimal.spacing entry ∧
      n ≤ 2 ^ (2 * entry + Decimal.spacing entry) := by
  obtain ⟨low, high, exponent⟩ := bounds
  obtain ⟨lower, upper⟩ := holds
  simp only [pins, Bool.and_eq_true, decide_eq_true_eq] at pinned lower upper
  obtain ⟨⟨⟨one, two⟩, before⟩, behind⟩ := pinned
  have least : 2 ^ exponent ≤ n := by
    refine Nat.le_of_mul_le_mul_right ?_ (Nat.two_pow_pos 100)
    calc 2 ^ exponent * 2 ^ 100 = 2 ^ 100 * 2 ^ exponent := Nat.mul_comm _ _
      _ ≤ low * 2 ^ exponent := Nat.mul_le_mul_right _ one
      _ ≤ n * 2 ^ 100 := lower
  have greatest : n ≤ 2 ^ (exponent + 1) := by
    refine Nat.le_of_mul_le_mul_right ?_ (Nat.two_pow_pos 100)
    calc n * 2 ^ 100 ≤ high * 2 ^ exponent := upper
      _ ≤ 2 ^ 101 * 2 ^ exponent := Nat.mul_le_mul_right _ two
      _ = 2 ^ (exponent + 1) * 2 ^ 100 := by ring
  constructor
  · calc 2 ^ (2 * entry) ≤ 2 ^ (exponent + Decimal.spacing entry) :=
          Nat.pow_le_pow_right two_pos before
      _ = 2 ^ exponent * 2 ^ Decimal.spacing entry := Nat.pow_add 2 _ _
      _ ≤ n * 2 ^ Decimal.spacing entry := Nat.mul_le_mul_right _ least
  · exact greatest.trans (Nat.pow_le_pow_right two_pos behind)

end Enclosure

private theorem logarithms_pinned : ∀ entry ∈ logarithms,
    (Enclosure.squares 52 (Enclosure.exactly entry.1)).pins entry.2 = true := by
  decide +kernel

private theorem logarithms_sized : ∀ entry ∈ logarithms,
    0 < entry.1 ∧ entry.1.log2 ≤ 100 ∧ Decimal.spacing entry.2 * 2 ^ 52 ≤ entry.2 ∧
      Decimal.spacing entry.2 ∣ entry.2 := by
  decide

/-- An entry is a double-precision number, and no other is nearer to the logarithm. -/
theorem abs_entry_sub_le {size entry : Nat} (member : (size, entry) ∈ logarithms) :
    Decimal.nearest entry = entry ∧
      |(entry : ℝ) - unit * Real.logb 2 size| ≤ Decimal.spacing entry / 2 := by
  obtain ⟨positive, small, _, whole⟩ := logarithms_sized _ member
  refine ⟨Decimal.nearest_eq_self_of_spacing_dvd whole, ?_⟩
  obtain ⟨lower, upper⟩ := (Enclosure.squares_holds 52 (Enclosure.exactly_holds small)).pow_le
    (logarithms_pinned _ member)
  have base : (0 : ℝ) < size := Nat.cast_pos.2 positive
  have power : Real.logb 2 ((size : ℝ) ^ 2 ^ 52) = 2 ^ 52 * Real.logb 2 size := by
    rw [Real.logb_pow]
    norm_num
  have below : (2 * entry : ℝ) ≤ 2 ^ 52 * Real.logb 2 size + Decimal.spacing entry := by
    have real : (2 : ℝ) ^ (2 * entry) ≤ size ^ 2 ^ 52 * 2 ^ Decimal.spacing entry := by
      exact_mod_cast lower
    have logs := Real.logb_le_logb_of_le one_lt_two (by positivity) real
    rw [Real.logb_mul (by positivity) (by positivity), power, Real.logb_pow, Real.logb_pow,
      Real.logb_self_eq_one one_lt_two] at logs
    push_cast at logs
    linarith
  have above : 2 ^ 52 * Real.logb 2 size ≤ 2 * entry + Decimal.spacing entry := by
    have real : (size : ℝ) ^ 2 ^ 52 ≤ 2 ^ (2 * entry + Decimal.spacing entry) := by
      exact_mod_cast upper
    have logs := Real.logb_le_logb_of_le one_lt_two (by positivity) real
    rw [power, Real.logb_pow, Real.logb_self_eq_one one_lt_two] at logs
    push_cast at logs
    linarith
  have parts : (unit : ℝ) = 2 ^ 51 := by norm_num [unit]
  rw [abs_le, parts]
  constructor <;> linarith

variable {password longer shuffled : Text} {threshold : Nat}

/-- Bits of a text drawn at random from its pool. A pool of one character leaves nothing to chance.
-/
noncomputable def bits (password : Text) : ℝ :=
  if poolSize password ≤ 1 then 0 else password.length * Real.logb 2 (poolSize password)

private theorem abs_rounded_sub_mul_le {rounded length count entry exact : ℝ}
    (first : |length - count| ≤ count / 2 ^ 53) (second : |entry - exact| ≤ entry / 2 ^ 53)
    (last : |rounded - length * entry| ≤ length * entry / 2 ^ 53) (counted : 0 ≤ length)
    (positive : 0 ≤ entry) : |rounded - count * exact| ≤ count * exact / 2 ^ 51 := by
  have growth : 8 * length ≤ 9 * count := by
    have grown := (abs_le.1 first).2
    have some : 0 ≤ count := by linarith [(abs_le.1 first).1]
    linarith
  have share : 7 * entry ≤ 8 * exact := by linarith [(abs_le.1 second).2]
  have known : 0 ≤ exact := by linarith
  have product : 2 * (length * entry) ≤ 3 * (count * exact) := by
    have whole : 8 * length * (7 * entry) ≤ 9 * count * (8 * exact) :=
      mul_le_mul growth share (by linarith) (by linarith)
    linarith [mul_nonneg counted positive]
  calc |rounded - count * exact|
      = |(rounded - length * entry) + length * (entry - exact) + (length - count) * exact| := by
        congr 1
        ring
    _ ≤ |rounded - length * entry| + |length * (entry - exact)| + |(length - count) * exact| :=
        abs_add_three _ _ _
    _ ≤ length * entry / 2 ^ 53 + length * (entry / 2 ^ 53) + count / 2 ^ 53 * exact := by
        rw [abs_mul, abs_mul, abs_of_nonneg counted, abs_of_nonneg known]
        gcongr
    _ = (2 * (length * entry) + count * exact) / 2 ^ 53 := by ring
    _ ≤ (3 * (count * exact) + count * exact) / 2 ^ 53 := by gcongr
    _ = count * exact / 2 ^ 51 := by ring

/-- The length, the logarithm and the product are rounded, each by its last digit at most. -/
theorem abs_estimate_sub_bits_le (password : Text) :
    |(estimate .entropy password : ℝ) - bits password| ≤ bits password / 2 ^ 51 := by
  by_cases single : poolSize password ≤ 1
  · simp [estimate, score, bits, single]
  have member := bitsPerCharacter_mem (Nat.lt_of_not_le single)
  obtain ⟨_, _, fine, _⟩ := logarithms_sized _ member
  obtain ⟨_, near⟩ := abs_entry_sub_le member
  have shrunk := Decimal.abs_nearest_sub_le password.length
  have product := Decimal.abs_nearest_sub_le
    (Decimal.nearest password.length * bitsPerCharacter (poolSize password))
  have scale : (unit : ℝ) = 2 ^ 51 := by norm_num [unit]
  simp only [estimate, score, bits, single, if_false]
  generalize bitsPerCharacter (poolSize password) = entry at *
  generalize Decimal.nearest password.length = length at *
  generalize Decimal.nearest (length * entry) = rounded at *
  have spaced : (Decimal.spacing entry : ℝ) * 2 ^ 52 ≤ entry := by exact_mod_cast fine
  push_cast at product ⊢
  rw [scale] at near ⊢
  have entered : |(entry : ℝ) - 2 ^ 51 * Real.logb 2 (poolSize password)| ≤
      (entry : ℝ) / 2 ^ 53 := near.trans (by linarith)
  have total := abs_rounded_sub_mul_le shrunk entered product (Nat.cast_nonneg _)
    (Nat.cast_nonneg _)
  rw [abs_le] at total ⊢
  constructor <;> linarith

/-- As many passwords of its length are in the pool as that many bits can tell apart. -/
def ReachesExactly (threshold : Nat) (password : Text) : Prop :=
  1 < poolSize password ∧ 2 ^ threshold ≤ poolSize password ^ password.length

theorem reachesExactly_iff (positive : 0 < threshold) (password : Text) :
    ReachesExactly threshold password ↔ (threshold : ℝ) ≤ bits password := by
  by_cases single : poolSize password ≤ 1
  · have above : ¬ (threshold : ℝ) ≤ 0 := not_le.2 (Nat.cast_pos.2 positive)
    simp [ReachesExactly, bits, single, above, Nat.not_lt.2 single]
  · have many : 1 < poolSize password := Nat.lt_of_not_le single
    have power : (0 : ℝ) < (poolSize password : ℝ) ^ password.length := by positivity
    rw [ReachesExactly, bits, if_neg single, ← Real.logb_pow,
      Real.le_logb_iff_rpow_le one_lt_two power, Real.rpow_natCast]
    simp only [many, true_and]
    exact_mod_cast Iff.rfl

private def settles (size entry length : Nat) : Bool :=
  (length * entry + length * entry / 2 ^ 53) / unit == length * entry / unit &&
    Nat.pow 2 (length * entry / unit) ≤ Nat.pow size length &&
    Nat.pow size length < Nat.pow 2 (length * entry / unit + 1)

private theorem logarithms_settle : ∀ entry ∈ logarithms, ∀ length < 129,
    settles entry.1 entry.2 length = true ∧ length * entry.2 < 2 ^ 104 := by
  decide +kernel

private theorem nearest_div_unit {n : Nat} (small : n < 2 ^ 104)
    (level : (n + n / 2 ^ 53) / unit = n / unit) : Decimal.nearest n / unit = n / unit := by
  have digits : n.log2 + 1 - 53 ≤ 51 := by
    by_cases zero : n = 0
    · rw [zero]
      decide
    · have short := (Nat.log2_lt zero).2 small
      omega
  have multiple : Decimal.spacing n ∣ n / unit * unit :=
    Dvd.dvd.mul_left (Nat.pow_dvd_pow 2 digits) _
  have least := Decimal.le_nearest_of_dvd multiple (Nat.div_mul_le_self n unit)
  obtain ⟨_, upper⟩ := Decimal.nearest_bounds n
  have greatest : Decimal.nearest n ≤ n + n / 2 ^ 53 := by omega
  apply Nat.le_antisymm
  · rw [← level]
    exact Nat.div_le_div_right greatest
  · exact (Nat.le_div_iff_mul_le unit_pos).2 least

/-- For passwords of up to a hundred and twenty-eight characters no rounding decides. -/
theorem reaches_iff_reachesExactly (positive : 0 < threshold) (short : password.length ≤ 128) :
    reaches .entropy threshold password = true ↔ ReachesExactly threshold password := by
  by_cases single : poolSize password ≤ 1
  · have nothing : ¬ threshold * unit ≤ 0 := Nat.not_le.2 (Nat.mul_pos positive unit_pos)
    simp [reaches, score, ReachesExactly, single, nothing, Nat.not_lt.2 single]
  · have many : 1 < poolSize password := Nat.lt_of_not_le single
    have held : Decimal.nearest password.length = password.length :=
      Decimal.nearest_eq_self_of_le (short.trans (by decide))
    obtain ⟨settled, small⟩ :=
      logarithms_settle _ (bitsPerCharacter_mem many) _ (Nat.lt_succ_of_le short)
    simp only [settles, Bool.and_eq_true, beq_iff_eq, decide_eq_true_eq] at settled
    obtain ⟨⟨level, least⟩, greatest⟩ := settled
    rw [reaches, score, if_neg single, held, decide_eq_true_iff,
      ← Nat.le_div_iff_mul_le unit_pos, nearest_div_unit small level]
    simp only [ReachesExactly, many, true_and]
    constructor
    · exact fun below => (Nat.pow_le_pow_right two_pos below).trans least
    · exact fun reached =>
        Nat.le_of_lt_succ ((Nat.pow_lt_pow_iff_right one_lt_two).1 (reached.trans_lt greatest))

/-- A score of small letters that falls short of their exact bits, and with it of a threshold. -/
example : Decimal.nearest (97737837 * bitsPerCharacter 26) < 459410811 * unit := by decide

end PasswordAudit.Strength
