import Mathlib.Algebra.Order.Group.Nat
import Mathlib.Order.Monotone.Basic
import Mathlib.Tactic.IntervalCases
import PasswordAudit.Time.Parts

/-! The calendar. Every day has a date that is in the calendar and numbered as that day, and what
the calendar and the clock show of a moment tells its instant. -/
namespace PasswordAudit

namespace Date

private theorem isLeap_iff (year : Nat) :
    isLeap year = true ↔ year % 4 = 0 ∧ (year % 100 ≠ 0 ∨ year % 400 = 0) := by
  simp [isLeap]

private theorem daysBeforeYear_succ {year : Nat} (positive : 0 < year) :
    daysBeforeYear (year + 1) = daysBeforeYear year + 365 + (if isLeap year then 1 else 0) := by
  obtain ⟨past, rfl⟩ := Nat.exists_eq_add_of_le' positive
  have fewer : past / 100 ≤ past / 4 := Nat.div_le_div_left (by decide) (by decide)
  simp only [daysBeforeYear, Nat.add_sub_cancel, isLeap_iff, Nat.succ_div,
    Nat.dvd_iff_mod_eq_zero]
  by_cases four : (past + 1) % 4 = 0
  · by_cases hundred : (past + 1) % 100 = 0
    · by_cases cycle : (past + 1) % 400 = 0
      · simp only [four, hundred, cycle, if_true, true_and, or_true]
        omega
      · simp only [four, hundred, cycle, if_true, if_false, ne_eq, not_true_eq_false, or_self,
          and_false]
        omega
    · have cycle : (past + 1) % 400 ≠ 0 := by omega
      simp only [four, hundred, cycle, if_true, if_false, ne_eq, not_false_eq_true, true_or,
        true_and]
      omega
  · have hundred : (past + 1) % 100 ≠ 0 := by omega
    have cycle : (past + 1) % 400 ≠ 0 := by omega
    simp only [four, hundred, cycle, if_false, false_and]
    omega

private theorem daysBeforeYear_mono : Monotone daysBeforeYear := by
  apply monotone_nat_of_le_succ
  intro year
  rcases Nat.eq_zero_or_pos year with rfl | positive
  · exact Nat.le_refl 0
  · rw [daysBeforeYear_succ positive]
    omega

private theorem daysBeforeMonth_succ (year : Nat) {month : Nat} (positive : 0 < month) :
    daysBeforeMonth year (month + 1) = daysBeforeMonth year month + daysInMonth year month := by
  obtain ⟨past, rfl⟩ := Nat.exists_eq_add_of_le' positive
  have sum : ∀ days : List Nat, days.foldr (· + ·) 0 = days.sum := fun _ => rfl
  simp only [daysBeforeMonth, Nat.add_sub_cancel, sum]
  rw [List.range'_concat, List.map_append, List.sum_append]
  simp [Nat.add_comm]

private theorem daysBeforeMonth_march (year : Nat) :
    daysBeforeMonth year 3 = 59 + (if isLeap year then 1 else 0) := by
  rw [daysBeforeMonth_succ year (by decide), daysBeforeMonth_succ year (by decide)]
  cases leap : isLeap year <;> simp [daysInMonth, daysBeforeMonth, leap]

private theorem daysBeforeMonth_fromMarch (year : Nat) {month : Nat} (le : month ≤ 9) :
    daysBeforeMonth year (month + 3) =
      59 + (if isLeap year then 1 else 0) + (153 * month + 2) / 5 := by
  induction month with
  | zero => exact daysBeforeMonth_march year
  | succ month ih =>
    rw [Nat.add_right_comm, daysBeforeMonth_succ year (by omega), ih (by omega)]
    have known : month ≤ 8 := by omega
    interval_cases month <;> simp [daysInMonth]

section Cycle

/-- Days of the whole years before a year of a cycle. The cycle's first year, which starts it, has
no leap day, and its last, which has one, comes after all others. -/
def daysBeforeCycleYear (year : Nat) : Nat := 365 * year + year / 4 - year / 100

private theorem daysBeforeYear_cycle (cycle : Nat) {year : Nat} (inside : year < 400) :
    daysBeforeYear (cycle * 400 + year + 1) = cycle * 146097 + daysBeforeCycleYear year := by
  have fours : (cycle * 400 + year) / 4 = cycle * 100 + year / 4 := by omega
  have hundreds : (cycle * 400 + year) / 100 = cycle * 4 + year / 100 := by omega
  have cycles : (cycle * 400 + year) / 400 = cycle := by omega
  simp only [daysBeforeYear, daysBeforeCycleYear, Nat.add_sub_cancel, fours, hundreds, cycles]
  omega

/-- A day of a cycle, numbered as if no year had a leap day. -/
def evened (day : Nat) : Nat := day - day / 1460 + day / 36524 - day / 146096

private theorem evened_le {day later : Nat} (le : day ≤ later) (inside : later < 146097) :
    evened day ≤ evened later := by
  rcases Nat.lt_or_ge later 146096 with early | last
  · have first : day / 146096 = 0 := Nat.div_eq_of_lt (by omega)
    have second : later / 146096 = 0 := Nat.div_eq_of_lt early
    have centuries : day / 36524 ≤ later / 36524 := Nat.div_le_div_right le
    unfold evened
    omega
  · obtain rfl : later = 146096 := by omega
    unfold evened
    omega

/-- Each year of a cycle starts where its number of evened days starts. -/
private theorem evened_daysBeforeCycleYear : ∀ year < 400,
    365 * year ≤ evened (daysBeforeCycleYear year) ∧
      (0 < year → evened (daysBeforeCycleYear year - 1) < 365 * year) := by
  decide +kernel

private theorem daysBeforeCycleYear_lt {year : Nat} (inside : year < 400) :
    daysBeforeCycleYear year < 146097 := by
  unfold daysBeforeCycleYear
  omega

private theorem evened_div_lt {day : Nat} (inside : day < 146097) : evened day / 365 < 400 := by
  have top := evened_le (Nat.le_of_lt_succ inside) (Nat.lt_succ_self 146096)
  have value : evened 146096 = 145999 := rfl
  omega

private theorem lies_in_year (cycle : Nat) {day : Nat} (inside : day < 146097) :
    daysBeforeYear (cycle * 400 + evened day / 365 + 1) ≤ cycle * 146097 + day ∧
      cycle * 146097 + day < daysBeforeYear (cycle * 400 + evened day / 365 + 1 + 1) := by
  have small := evened_div_lt inside
  generalize of : evened day / 365 = year at small ⊢
  constructor
  · rw [daysBeforeYear_cycle cycle small]
    by_contra early
    have positive : 0 < year := by
      rcases Nat.eq_zero_or_pos year with rfl | positive
      · have zero : daysBeforeCycleYear 0 = 0 := rfl
        omega
      · exact positive
    have bound := (evened_daysBeforeCycleYear year small).2 positive
    have before := evened_le (by omega : day ≤ daysBeforeCycleYear year - 1)
      (by have := daysBeforeCycleYear_lt small; omega)
    omega
  · rcases Nat.lt_or_ge year 399 with inner | last
    · rw [Nat.add_assoc (cycle * 400) year 1, daysBeforeYear_cycle cycle (by omega)]
      by_contra late
      have bound := (evened_daysBeforeCycleYear (year + 1) (by omega)).1
      have after := evened_le (by omega : daysBeforeCycleYear (year + 1) ≤ day) inside
      omega
    · have following : cycle * 400 + year + 1 + 1 = (cycle + 1) * 400 + 0 + 1 := by omega
      have first := daysBeforeYear_cycle (cycle + 1) (by decide : 0 < 400)
      have zero : daysBeforeCycleYear 0 = 0 := rfl
      rw [following]
      omega

end Cycle

/-- The parts from which a date is made: a year, the day of that year and a month, all counted from
March. Moved by 306 days, the year is the next one of the calendar. -/
private theorem ofDayNumber_parts (n : Nat) : ∃ year dayOfYear month,
    n + 306 = daysBeforeYear (year + 1) + dayOfYear ∧
    dayOfYear < 365 + (if isLeap (year + 1) then 1 else 0) ∧
    month = (5 * dayOfYear + 2) / 153 ∧
    ofDayNumber n =
      ⟨year + (if month < 10 then 0 else 1), if month < 10 then month + 3 else month - 9,
        dayOfYear - (153 * month + 2) / 5 + 1⟩ := by
  generalize moved : n + 306 = shifted
  have inside : shifted % 146097 < 146097 := Nat.mod_lt _ (by decide)
  have whole := Nat.div_add_mod' shifted 146097
  have start := daysBeforeYear_cycle (shifted / 146097) (evened_div_lt inside)
  obtain ⟨lower, upper⟩ := lies_in_year (shifted / 146097) inside
  rw [daysBeforeYear_succ (Nat.add_one_pos _)] at upper
  refine ⟨shifted / 146097 * 400 + evened (shifted % 146097) / 365,
    shifted % 146097 - daysBeforeCycleYear (evened (shifted % 146097) / 365), _, ?_, ?_, rfl, ?_⟩
  · omega
  · omega
  · rw [← moved]
    rfl

private theorem dayNumber_ofDayNumber (n : Nat) : (ofDayNumber n).dayNumber = n := by
  obtain ⟨year, dayOfYear, month, place, bound, is, date⟩ := ofDayNumber_parts n
  have short : dayOfYear < 366 := by split at bound <;> omega
  by_cases before : month < 10
  · have positive : 0 < year := by
      rcases Nat.eq_zero_or_pos year with rfl | positive
      · have zero : daysBeforeYear (0 + 1) = 0 := rfl
        omega
      · exact positive
    have follows := daysBeforeYear_succ positive
    have months := daysBeforeMonth_fromMarch year (by omega : month ≤ 9)
    rw [date, if_pos before, if_pos before]
    change daysBeforeYear year + daysBeforeMonth year (month + 3) +
      (dayOfYear - (153 * month + 2) / 5 + 1 - 1) = n
    omega
  · rw [date, if_neg before, if_neg before]
    change daysBeforeYear (year + 1) + daysBeforeMonth (year + 1) (month - 9) +
      (dayOfYear - (153 * month + 2) / 5 + 1 - 1) = n
    have winter : month = 10 ∨ month = 11 := by omega
    rcases winter with rfl | rfl
    · have january : daysBeforeMonth (year + 1) (10 - 9) = 0 := rfl
      omega
    · have february : daysBeforeMonth (year + 1) (11 - 9) = 31 := rfl
      omega

private theorem ofDayNumber_inMonth (n : Nat) :
    1 ≤ (ofDayNumber n).month ∧ (ofDayNumber n).month ≤ 12 ∧ 1 ≤ (ofDayNumber n).day ∧
      (ofDayNumber n).day ≤ daysInMonth (ofDayNumber n).year (ofDayNumber n).month := by
  obtain ⟨year, dayOfYear, month, _, bound, is, date⟩ := ofDayNumber_parts n
  rw [date]
  cases leap : isLeap (year + 1) <;> rw [leap] at bound <;>
    simp only [Bool.false_eq_true, if_false, if_true] at bound
  all_goals
    have twelve : month ≤ 11 := by omega
    interval_cases month <;> simp [daysInMonth, leap] <;> omega

private theorem daysBeforeYear_le_dayNumber (date : Date) :
    daysBeforeYear date.year ≤ date.dayNumber :=
  Nat.le_trans (Nat.le_add_right _ _) (Nat.le_add_right _ _)

private theorem isValid_ofDayNumber {n : Nat} (inside : n < dayCount) :
    (ofDayNumber n).isValid = true := by
  have first : 1 ≤ (ofDayNumber n).year := by
    obtain ⟨year, dayOfYear, month, place, _, _, date⟩ := ofDayNumber_parts n
    rw [date]
    rcases Nat.eq_zero_or_pos year with rfl | positive
    · have zero : daysBeforeYear (0 + 1) = 0 := rfl
      rw [if_neg (by omega)]
    · exact Nat.le_add_right_of_le positive
  have last : (ofDayNumber n).year ≤ 9999 := by
    have before := daysBeforeYear_le_dayNumber (ofDayNumber n)
    rw [dayNumber_ofDayNumber] at before
    by_contra late
    have most := daysBeforeYear_mono (Nat.lt_of_not_le late)
    exact absurd inside (Nat.not_lt.2 (most.trans before))
  simp only [isValid, Bool.and_eq_true, decide_eq_true_eq]
  obtain ⟨one, twelve, start, stop⟩ := ofDayNumber_inMonth n
  exact ⟨⟨⟨⟨⟨first, last⟩, one⟩, twelve⟩, start⟩, stop⟩

end Date

namespace Moment

/-- The date of a moment is one of the calendar, and with what the clock shows it tells the instant.
-/
theorem instant_eq_shown (moment : Moment) :
    moment.date.isValid = true ∧
      moment.instant = (((moment.date.dayNumber * 24 + moment.hour) * 60 + moment.minute) * 60 +
        moment.second) * 1000000 + moment.micro - moment.offset.getD 0 := by
  constructor
  · apply Date.isValid_ofDayNumber
    exact Nat.div_lt_of_lt_mul (Nat.mul_comm _ _ ▸ moment.reading_lt)
  · have day := Date.dayNumber_ofDayNumber moment.dayNumber
    have shown : moment.reading =
        (((moment.dayNumber * 24 + moment.hour) * 60 + moment.minute) * 60 + moment.second)
          * 1000000 + moment.micro := by
      simp only [dayNumber, hour, minute, second, micro, secondOfDay, microsPerDay, microsPerSecond]
      omega
    rw [date, day, instant, shown]
    push_cast
    rfl

end Moment
end PasswordAudit
