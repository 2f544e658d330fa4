import PasswordAudit.Text.Basic
import PasswordAudit.Time.Calendar

/-! Moments: what a clock and a calendar show, to the microsecond, and how far that clock is ahead
of Coordinated Universal Time. A clock that does not say so shows universal time. The years are 1 to
9999, and a moment whose universal form falls outside of them has no such form. -/
namespace PasswordAudit

namespace Moment

def microsPerSecond : Nat := 1000000

def microsPerDay : Nat := 86400 * microsPerSecond

def span : Nat := Date.dayCount * microsPerDay

end Moment

structure Moment where
  /-- Microseconds from the start of the year 1 to the reading of the clock. -/
  reading : Nat
  /-- Microseconds by which the clock is ahead. -/
  offset : Option Int
  reading_lt : reading < Moment.span
  offset_lt : ∀ ahead ∈ offset, ahead.natAbs < Moment.microsPerDay

inductive TimeFault
  | outOfRange
  deriving DecidableEq

def TimeFault.message : TimeFault → Text
  | .outOfRange => "date value out of range"

namespace Moment

def ofReading? (reading : Nat) (offset : Option Int) : Option Moment :=
  if h : reading < span ∧ ∀ ahead ∈ offset, ahead.natAbs < microsPerDay then
    some ⟨reading, offset, h.1, h.2⟩
  else none

def instant (moment : Moment) : Int := moment.reading - moment.offset.getD 0

theorem zero_lt_microsPerDay : 0 < microsPerDay := by decide

def toUtc (moment : Moment) : Except TimeFault Moment :=
  if h : 0 ≤ moment.instant ∧ moment.instant < span then
    .ok {
      reading := moment.instant.toNat
      offset := some 0
      reading_lt := by omega
      offset_lt := by simp [zero_lt_microsPerDay] }
  else .error .outOfRange

/-- Whole days from a change to now; negative when now is earlier. Rounds to the floor. -/
def ageInDays (changed now : Moment) : Except TimeFault Int := do
  let nowUtc ← now.toUtc
  let changedUtc ← changed.toUtc
  return (nowUtc.instant - changedUtc.instant) / (microsPerDay : Int)

end Moment
end PasswordAudit
