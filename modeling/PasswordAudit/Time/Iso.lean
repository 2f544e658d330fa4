import PasswordAudit.Text.Basic
import PasswordAudit.Time.Moment

/-! Moments in ISO 8601 notation. Writing has one form. Reading takes dates by month and day or by
week, with hyphens or without, any one character between date and time, reduced times, fractions
of a second, and an offset. -/
namespace PasswordAudit.Iso

def digits (count : Nat) (text : Text) : Option (Nat × Text) :=
  let field := text.take count
  if field.length = count ∧ field.all Char.isDigit then
    some (field.foldl (fun n c => 10 * n + (c.toNat - '0'.toNat)) 0, text.drop count)
  else none

def charAt? (text : Text) (place : Nat) : Option Char := text[place]?

def isDigitAt (text : Text) (place : Nat) : Bool := (charAt? text place).any Char.isDigit

/-- The number of characters that belong to the date. The fifth and sixth character tell the form of
the date; where a week date is followed by digits or a hyphen, the reading with a time is
preferred. -/
def dateLength (text : Text) : Nat :=
  if text.length = 7 then 7
  else if charAt? text 4 = some '-' then
    if charAt? text 5 = some 'W' then
      if charAt? text 8 = some '-' then (if isDigitAt text 10 then 8 else 10) else 8
    else 10
  else if charAt? text 4 = some 'W' then
    let stop := 7 + ((text.drop 7).takeWhile Char.isDigit).length
    if stop < 9 then stop else if stop % 2 = 0 then 7 else 8
  else 8

def pastHyphen (hyphens : Bool) (text : Text) : Option Text :=
  if hyphens then (if text.head? = some '-' then some (text.drop 1) else none) else some text

def weekDate (year : Nat) (hyphens : Bool) (text : Text) : Option Nat := do
  let (week, rest) ← digits 2 text
  if rest.isEmpty then Date.dayOfWeek? year week 1
  else
    let (day, _) ← digits 1 (← pastHyphen hyphens rest)
    Date.dayOfWeek? year week day

def monthDate (year : Nat) (hyphens : Bool) (text : Text) : Option Nat := do
  let (month, rest) ← digits 2 text
  let (day, _) ← digits 2 (← pastHyphen hyphens rest)
  let date : Date := ⟨year, month, day⟩
  if date.isValid then some date.dayNumber else none

def day (text : Text) : Option Nat := do
  let (year, rest) ← digits 4 text
  let hyphens := rest.head? = some '-'
  let rest := if hyphens then rest.drop 1 else rest
  let day ←
    if rest.head? = some 'W' then weekDate year hyphens (rest.drop 1)
    else monthDate year hyphens rest
  if day < Date.dayCount then some day else none

/-- What a clock shows, up to four fields: hours, minutes, seconds and microseconds. It is complete
if nothing was left over. -/
structure Clock where
  fields : List Nat
  micros : Nat
  complete : Bool

/-- Whether nothing is left over. A null character counts as the end. -/
def ends (rest : Text) : Bool := rest.isEmpty || rest.head? = some '\x00'

/-- A fraction of a second. Digits after the sixth are passed over. -/
def fraction (fields : List Nat) (text : Text) : Option Clock := do
  let shown := text.take 6
  if shown.all Char.isDigit then
    let (value, _) ← digits shown.length shown
    let rest := (text.drop 6).dropWhile Char.isDigit
    some ⟨fields, value * Nat.pow 10 (6 - shown.length), ends rest⟩
  else none

/-- Reads `room` more fields of two digits, and then a fraction. Whether colons divide the fields is
seen after the first. A fraction may follow any field. A single ASCII character may be left over. -/
def clockFrom : Nat → List Nat → Option Bool → Text → Option Clock
  | 0, fields, _, text => fraction fields text
  | room + 1, fields, colons?, text => do
    let (field, rest) ← digits 2 text
    let fields := fields ++ [field]
    match rest with
    | [] => some ⟨fields, 0, true⟩
    | [c] => if c.toNat < 0x80 then some ⟨fields, 0, ends [c]⟩ else none
    | c :: more =>
      let colons := colons?.getD (c == ':')
      if colons && c == ':' then clockFrom room fields colons more
      else if c == '.' || c == ',' then fraction fields more
      else if colons then none
      else clockFrom room fields colons rest

def clock (text : Text) : Option Clock := clockFrom 3 [] none text

def Clock.seconds (c : Clock) : Nat :=
  (c.fields[0]?.getD 0 * 60 + c.fields[1]?.getD 0) * 60 + c.fields[2]?.getD 0

def Clock.total (c : Clock) : Nat := c.seconds * Moment.microsPerSecond + c.micros

def Clock.isTimeOfDay (c : Clock) : Bool :=
  c.fields[0]?.getD 0 < 24 && (c.fields.drop 1).all (· < 60)

def startsOffset (c : Char) : Bool := c == '+' || c == '-' || c == 'Z'

/-- How far a clock is ahead, by the text from the mark of the offset on. An offset of less than a
second counts for nothing. -/
def offset : Text → Option Int
  | [] => none
  | 'Z' :: rest => if ends rest then some 0 else none
  | sign :: rest => do
    let ahead ← clock rest
    if !ahead.complete then none
    else if ahead.seconds = 0 then some 0
    else some (if sign == '-' then -ahead.total else ahead.total)

/-- A time of day and the offset of its clock. What is left over after the time is passed over if an
offset follows, and refused otherwise. -/
def timeOfDay (text : Text) : Option (Nat × Option Int) := do
  let time ← clock (text.takeWhile (!startsOffset ·))
  let mark := text.dropWhile (!startsOffset ·)
  if !time.isTimeOfDay then none
  else if mark.isEmpty then (if time.complete then some (time.total, none) else none)
  else some (time.total, some (← offset mark))

def read (text : Text) : Option Moment := do
  let length := dateLength text
  let day ← day (text.take length)
  let rest := text.drop length
  if rest.isEmpty then Moment.ofReading? (day * Moment.microsPerDay) none
  else
    let (time, offset) ← timeOfDay (rest.drop 1)
    Moment.ofReading? (day * Moment.microsPerDay + time) offset

/-- Hours, minutes, seconds, and microseconds if there are any. The seconds may be left out when
nothing follows them. -/
def clockText (keepSeconds : Bool) (micros : Nat) : Text :=
  let seconds := micros / Moment.microsPerSecond
  let part := micros % Moment.microsPerSecond
  let two (n : Nat) : Text := Text.padded 10 2 n
  two (seconds / 3600) ++ ":" ++ two (seconds / 60 % 60)
    ++ (if keepSeconds || seconds % 60 != 0 || part != 0 then ':' :: two (seconds % 60) else [])
    ++ (if part = 0 then [] else '.' :: Text.padded 10 6 part)

def offsetText (ahead : Int) : Text :=
  (if ahead < 0 then '-' else '+') :: clockText false ahead.natAbs

def writeWith (separator : Char) (moment : Moment) : Text :=
  let date := Date.ofDayNumber (moment.reading / Moment.microsPerDay)
  let clock := clockText true (moment.reading % Moment.microsPerDay)
  Text.padded 10 4 date.year ++ "-" ++ Text.padded 10 2 date.month ++ "-"
    ++ Text.padded 10 2 date.day ++ separator :: clock
    ++ (moment.offset.map offsetText).getD []

def write (moment : Moment) : Text := writeWith 'T' moment

end PasswordAudit.Iso
