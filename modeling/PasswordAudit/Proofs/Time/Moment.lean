import Mathlib.Data.Int.Init
import PasswordAudit.Time.Moment

/-! Moments and their universal forms. The universal form shows the same instant, and the age of a
change is counted between instants. -/
namespace PasswordAudit.Moment

def HasUniversalForm (moment : Moment) : Prop :=
  0 ≤ moment.instant ∧ moment.instant < (span : Int)

instance (moment : Moment) : Decidable moment.HasUniversalForm :=
  inferInstanceAs (Decidable (_ ∧ _))

theorem hasUniversalForm_iff_of_instant_eq {moment other : Moment}
    (same : moment.instant = other.instant) :
    moment.HasUniversalForm ↔ other.HasUniversalForm := by
  rw [HasUniversalForm, HasUniversalForm, same]

theorem toUtc_of_hasUniversalForm {moment : Moment} (form : moment.HasUniversalForm) :
    ∃ utc, moment.toUtc = .ok utc ∧ utc.instant = moment.instant ∧ utc.offset = some 0 := by
  obtain ⟨lower, upper⟩ := form
  rw [toUtc, dif_pos ⟨lower, upper⟩]
  refine ⟨_, rfl, ?_, rfl⟩
  simp only [instant, Option.getD_some, Int.sub_zero]
  exact Int.toNat_of_nonneg lower

private theorem toUtc_of_not_hasUniversalForm {moment : Moment}
    (missing : ¬ moment.HasUniversalForm) :
    moment.toUtc = .error .outOfRange :=
  dif_neg missing

/-- The universal form is made from the instant alone. -/
private theorem toUtc_eq_of_instant_eq {moment other : Moment}
    (same : moment.instant = other.instant) :
    moment.toUtc = other.toUtc := by
  simp only [toUtc, same]

theorem ageInDays_eq_of_instant_eq {changed now other later : Moment}
    (change : changed.instant = other.instant) (current : now.instant = later.instant) :
    ageInDays changed now = ageInDays other later := by
  rw [ageInDays, ageInDays, toUtc_eq_of_instant_eq change, toUtc_eq_of_instant_eq current]

theorem toUtc_toUtc {moment utc : Moment} (form : moment.HasUniversalForm)
    (made : moment.toUtc = .ok utc) : utc.toUtc = .ok utc := by
  obtain ⟨other, found, same, _⟩ := toUtc_of_hasUniversalForm form
  cases made.symm.trans found
  exact (toUtc_eq_of_instant_eq same).trans made

theorem ageInDays_of_hasUniversalForm {changed now : Moment} (earlier : changed.HasUniversalForm)
    (later : now.HasUniversalForm) :
    ageInDays changed now = .ok ((now.instant - changed.instant) / (microsPerDay : Int)) := by
  obtain ⟨changedUtc, changedOk, changedSame, _⟩ := toUtc_of_hasUniversalForm earlier
  obtain ⟨nowUtc, nowOk, nowSame, _⟩ := toUtc_of_hasUniversalForm later
  rw [ageInDays, nowOk, changedOk, ← nowSame, ← changedSame]
  rfl

theorem ageInDays_of_not_hasUniversalForm {changed now : Moment}
    (missing : ¬ (changed.HasUniversalForm ∧ now.HasUniversalForm)) :
    ageInDays changed now = .error .outOfRange := by
  by_cases later : now.HasUniversalForm
  · have earlier : ¬ changed.HasUniversalForm := fun earlier => missing ⟨earlier, later⟩
    obtain ⟨nowUtc, nowOk, _, _⟩ := toUtc_of_hasUniversalForm later
    rw [ageInDays, nowOk, toUtc_of_not_hasUniversalForm earlier]
    rfl
  · rw [ageInDays, toUtc_of_not_hasUniversalForm later]
    rfl

/-- The age is `days` at most as long as one more day has not passed in full. -/
theorem div_microsPerDay_le_iff (days : Nat) (elapsed : Int) :
    elapsed / (microsPerDay : Int) ≤ days ↔ elapsed < (days + 1) * (microsPerDay : Int) := by
  have positive : (0 : Int) < microsPerDay := by exact_mod_cast zero_lt_microsPerDay
  rw [← Int.lt_add_one_iff, Int.ediv_lt_iff_lt_mul positive]

end PasswordAudit.Moment
