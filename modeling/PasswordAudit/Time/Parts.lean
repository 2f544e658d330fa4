import PasswordAudit.Time.Iso

/-! What a calendar and a clock show of a moment, and how the offset of its clock is written. -/
namespace PasswordAudit.Moment

def dayNumber (moment : Moment) : Nat := moment.reading / microsPerDay

def date (moment : Moment) : Date := Date.ofDayNumber moment.dayNumber

def secondOfDay (moment : Moment) : Nat := moment.reading % microsPerDay / microsPerSecond

def hour (moment : Moment) : Nat := moment.secondOfDay / 3600

/-- Hours of half a day, from 1 to 12. -/
def halfDayHour (moment : Moment) : Nat := (moment.hour + 11) % 12 + 1

def minute (moment : Moment) : Nat := moment.secondOfDay / 60 % 60

def second (moment : Moment) : Nat := moment.secondOfDay % 60

def micro (moment : Moment) : Nat := moment.reading % microsPerSecond

/-- Zero is Monday. -/
def weekday (moment : Moment) : Nat := Date.weekday moment.dayNumber

def dayOfYear (moment : Moment) : Nat :=
  moment.dayNumber - Date.daysBeforeYear moment.date.year + 1

/-- The year that the week belongs to, and the number of the week in it, counted from one. A week
belongs to the year of its Thursday. -/
def week (moment : Moment) : Nat × Nat :=
  let thursday := moment.dayNumber - moment.weekday + 3
  let year := (Date.ofDayNumber thursday).year
  (year, (thursday - Date.daysBeforeYear year) / 7 + 1)

/-- The number of the week in the year if weeks start on a weekday; days before the first start are
in week zero. -/
def weekFrom (start : Nat) (moment : Moment) : Nat :=
  (moment.dayOfYear + 6 - (moment.weekday + 7 - start) % 7) / 7

def daysBeforeEpoch : Nat := 719162

def sinceEpoch (moment : Moment) : Int :=
  moment.instant - ((daysBeforeEpoch * microsPerDay : Nat) : Int)

def offsetText (moment : Moment) : Text := Iso.offsetText (moment.offset.getD 0)

/-- Hours and minutes without the colon, or nothing for a clock that has no offset. -/
def basicOffsetText (moment : Moment) : Text :=
  if moment.offset.isNone then [] else moment.offsetText.filter (· ≠ ':')

def zoneName (ahead : Int) : Text := if ahead = 0 then "UTC" else "UTC" ++ Iso.offsetText ahead

def zoneText (moment : Moment) : Text := (moment.offset.map zoneName).getD []

end PasswordAudit.Moment

namespace PasswordAudit.Date

def monthNames : List Text :=
  ["January", "February", "March", "April", "May", "June", "July", "August", "September",
    "October", "November", "December"]

def monthName (month : Nat) : Text := (monthNames[month - 1]?).getD []

def weekdayNames : List Text :=
  ["Monday", "Tuesday", "Wednesday", "Thursday", "Friday", "Saturday", "Sunday"]

def weekdayName (weekday : Nat) : Text := (weekdayNames[weekday]?).getD []

def short (name : Text) : Text := name.take 3

end PasswordAudit.Date
