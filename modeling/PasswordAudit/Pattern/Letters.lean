import PasswordAudit.Decimal.Whole
import PasswordAudit.Time.Parts

/-! Times written by letters: `YYYY-MM-DD` is a year, a month and a day. A run of one letter is a
mark, and its length chooses the form. A mark in square brackets stands for itself. -/
namespace PasswordAudit.Pattern.Letters

def once (letter : Char) (n : Nat) : List (Text × Text) :=
  [([letter, letter], Text.padded 10 2 n), ([letter], Decimal.natural n)]

def yearMarks (moment : Moment) : List (Text × Text) :=
  [("YYYY", Text.padded 10 4 moment.date.year), ("YY", Text.padded 10 2 (moment.date.year % 100)),
    ("Q", Decimal.natural ((moment.date.month - 1) / 3 + 1))]

def monthMarks (moment : Moment) : List (Text × Text) :=
  let name := Date.monthName moment.date.month
  [("MMMM".toList, name), ("MMM".toList, Date.short name)] ++ once 'M' moment.date.month

def dayMarks (moment : Moment) : List (Text × Text) :=
  let name := Date.weekdayName moment.weekday
  [("DDDD".toList, Text.padded 10 3 moment.dayOfYear),
    ("DDD".toList, Decimal.natural moment.dayOfYear)] ++ once 'D' moment.date.day
    ++ [("dddd".toList, name), ("ddd".toList, Date.short name),
      ("d".toList, Decimal.natural moment.weekday),
      ("E".toList, Decimal.natural (moment.weekday + 1))]

def fractionMarks (moment : Moment) : List (Text × Text) :=
  [6, 5, 4, 3, 2, 1].map fun n =>
    (List.replicate n 'S', (Text.padded 10 6 moment.micro).take n)

def clockMarks (moment : Moment) : List (Text × Text) :=
  once 'H' moment.hour ++ once 'h' moment.halfDayHour ++ once 'm' moment.minute
    ++ once 's' moment.second ++ fractionMarks moment
    ++ [("A".toList, if moment.hour < 12 then "AM".toList else "PM".toList)]

def zoneMarks (moment : Moment) : List (Text × Text) :=
  [("ZZ", moment.offsetText.filter (· ≠ ':')), ("Z", moment.offsetText),
    ("zz", Moment.zoneName (moment.offset.getD 0)),
    ("X", Decimal.integer (moment.sinceEpoch.tdiv Moment.microsPerSecond)),
    ("x", Decimal.integer (moment.sinceEpoch + moment.micro))]

/-- A longer mark stands before those that it starts with. -/
def marks (moment : Moment) : List (Text × Text) :=
  yearMarks moment ++ monthMarks moment ++ dayMarks moment ++ clockMarks moment
    ++ zoneMarks moment

def universalMark : Text := "!UTC"

def bracketed? (marks : List (Text × Text)) : Text → Option Text
  | '[' :: rest =>
    let inner := rest.takeWhile (· ≠ ']')
    let isMark := inner.isEmpty || inner == universalMark || marks.any (·.1 == inner)
    if inner.length < rest.length && isMark then some inner else none
  | _ => none

/-- Puts texts in the place of their marks; `skip` characters of a mark are still to be dropped. -/
def replaceFrom (marks : List (Text × Text)) : Nat → Text → Text
  | _, [] => []
  | skip + 1, _ :: rest => replaceFrom marks skip rest
  | 0, c :: rest =>
    match bracketed? marks (c :: rest) with
    | some inner => inner ++ replaceFrom marks (inner.length + 1) rest
    | none => match marks.find? fun (mark, _) => mark.isPrefixOf (c :: rest) with
      | some (mark, shown) => shown ++ replaceFrom marks (mark.length - 1) rest
      | none => c :: replaceFrom marks 0 rest

/-- No time is known more finely than six letters for its fraction ask for. -/
def isTooFine (style : Text) : Bool :=
  (Text.windows 7 style).contains (List.replicate 7 'S')

def write (style : Text) (moment : Moment) : Text := replaceFrom (marks moment) 0 style

end PasswordAudit.Pattern.Letters
