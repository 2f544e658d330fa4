/-! The Gregorian calendar, continued backwards before its introduction. Days are numbered from
1 January of the year 1, which is day zero and a Monday. -/
namespace PasswordAudit

structure Date where
  year : Nat
  month : Nat
  day : Nat
  deriving DecidableEq

namespace Date

def isLeap (year : Nat) : Bool := year % 4 == 0 && (year % 100 != 0 || year % 400 == 0)

def daysInMonth (year month : Nat) : Nat :=
  match month with
  | 2 => if isLeap year then 29 else 28
  | 4 | 6 | 9 | 11 => 30
  | _ => 31

/-- Days from day zero to the first of January. -/
def daysBeforeYear (year : Nat) : Nat :=
  let past := year - 1
  past * 365 + past / 4 - past / 100 + past / 400

def daysBeforeMonth (year month : Nat) : Nat :=
  ((List.range' 1 (month - 1)).map (daysInMonth year)).foldr (· + ·) 0

def isValid (date : Date) : Bool :=
  1 ≤ date.year && date.year ≤ 9999 && 1 ≤ date.month && date.month ≤ 12 && 1 ≤ date.day &&
    date.day ≤ daysInMonth date.year date.month

def dayNumber (date : Date) : Nat :=
  daysBeforeYear date.year + daysBeforeMonth date.year date.month + (date.day - 1)

def dayCount : Nat := daysBeforeYear 10000

/-- The date of a day. Years are counted from March, so that the leap day ends a year, in cycles of
four hundred; day zero is 306 days into its year. -/
def ofDayNumber (n : Nat) : Date :=
  let shifted := n + 306
  let cycle := shifted / 146097
  let day := shifted % 146097
  let year := (day - day / 1460 + day / 36524 - day / 146096) / 365
  let dayOfYear := day - (365 * year + year / 4 - year / 100)
  let month := (5 * dayOfYear + 2) / 153
  { year := cycle * 400 + year + (if month < 10 then 0 else 1)
    month := if month < 10 then month + 3 else month - 9
    day := dayOfYear - (153 * month + 2) / 5 + 1 }

/-- Zero is Monday. -/
def weekday (n : Nat) : Nat := n % 7

/-- A year has 53 weeks if it starts on a Thursday, or on a Wednesday and has a leap day. -/
def weeksInYear (year : Nat) : Nat :=
  let first := weekday (daysBeforeYear year)
  if first == 3 || (first == 2 && isLeap year) then 53 else 52

/-- The day with a given week and weekday, both counted from one. The first week of a year is the
one that holds its first Thursday, and may start in the year before. -/
def dayOfWeek? (year week day : Nat) : Option Nat :=
  if year = 0 ∨ week = 0 ∨ weeksInYear year < week ∨ day = 0 ∨ 7 < day then none
  else
    let first := daysBeforeYear year
    let lead := weekday first
    let offset := (week - 1) * 7 + (day - 1)
    if 3 < lead then some (first + 7 - lead + offset)
    else if lead ≤ first + offset then some (first + offset - lead)
    else none

end Date
end PasswordAudit
