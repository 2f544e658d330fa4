import PasswordAudit.Decimal.Whole
import PasswordAudit.Text.Capital
import PasswordAudit.Time.Parts

/-! Times written by directives, as in `%d.%m.%Y`. Between the percent sign and the letter of a
directive may stand flags, a width and a modifier; a directive that means nothing is kept as it
stands. -/
namespace PasswordAudit.Pattern

structure Directive where
  source : Text
  filling : Option Char
  isUpper : Bool
  isSwapped : Bool
  width : Option Nat
  modifier : Option Char
  deriving DecidableEq

namespace Directive

def opened : Directive := ⟨['%'], none, false, false, none, none⟩

def add? (directive : Directive) (c : Char) : Option Directive :=
  let longer := { directive with source := directive.source ++ [c] }
  if directive.modifier.isSome then none
  else if c = 'E' ∨ c = 'O' then some { longer with modifier := some c }
  else if directive.width.isNone && (c == '_' || c == '-' || c == '0') then
    some { longer with filling := some c }
  else if directive.width.isNone && c == '^' then some { longer with isUpper := true }
  else if directive.width.isNone && c == '#' then some { longer with isSwapped := true }
  else if c.isDigit then
    some { longer with width := some (10 * directive.width.getD 0 + (c.toNat - '0'.toNat)) }
  else none

def within (limit : Nat) (directive : Directive) : Directive :=
  { directive with width := directive.width.map (min limit) }

def fill (directive : Directive) (text : Text) : Text :=
  let filling := if directive.filling = some '0' then '0' else ' '
  List.replicate (directive.width.getD 0 - text.length) filling ++ text

def word (directive : Directive) (text : Text) : Text :=
  directive.fill (if directive.isUpper then text.map Text.capital else text)

/-- A name is written in capitals if its case is to be swapped. -/
def name (directive : Directive) (text : Text) : Text :=
  { directive with isUpper := directive.isUpper || directive.isSwapped }.word text

def number (directive : Directive) (digits : Nat) (n : Int) : Text :=
  let shown := Decimal.integer n
  let missing := max digits (directive.width.getD 0) - shown.length
  if directive.filling = some '-' then directive.fill shown
  else if directive.filling = some '_' then List.replicate missing ' ' ++ shown
  else match shown with
    | '-' :: rest => '-' :: List.replicate missing '0' ++ rest
    | _ => List.replicate missing '0' ++ shown

def blankNumber (directive : Directive) (digits : Nat) (n : Int) : Text :=
  let filling := if directive.filling.isNone then some '_' else directive.filling
  { directive with filling }.number digits n

end Directive

namespace Directives

def unmodified (modifier : Char) : Text :=
  if modifier = 'E' then "%aAbBDFdeHIjklMmShUVgGWw" else "%aAcxDFXY"

def single? (directive : Directive) (letter : Char) (moment : Moment) : Option Text :=
  let date := moment.date
  let weekdayName := Date.weekdayName moment.weekday
  let half : Text := if moment.hour < 12 then "AM" else "PM"
  match letter with
  | '%' => some (directive.fill ['%'])
  | 'n' => some (directive.fill ['\n'])
  | 't' => some (directive.fill ['\t'])
  | 'a' => some (directive.name (Date.short weekdayName))
  | 'A' => some (directive.name weekdayName)
  | 'b' | 'h' => some (directive.name (Date.short (Date.monthName date.month)))
  | 'B' => some (directive.name (Date.monthName date.month))
  | 'C' => some (directive.number 1 (date.year / 100 : Nat))
  | 'd' => some (directive.number 2 date.day)
  | 'e' => some (directive.blankNumber 2 date.day)
  | 'g' => some (directive.number 2 (moment.week.1 % 100 : Nat))
  | 'G' => some (directive.number 1 moment.week.1)
  | 'H' => some (directive.number 2 moment.hour)
  | 'I' => some (directive.number 2 moment.halfDayHour)
  | 'j' => some (directive.number 3 moment.dayOfYear)
  | 'k' => some (directive.blankNumber 2 moment.hour)
  | 'l' => some (directive.blankNumber 2 moment.halfDayHour)
  | 'm' => some (directive.number 2 date.month)
  | 'M' => some (directive.number 2 moment.minute)
  | 'p' =>
    if directive.isSwapped then some (directive.fill (half.map Char.toLower))
    else some (directive.word half)
  | 'P' => some (directive.fill (half.map Char.toLower))
  | 's' =>
    some (directive.fill (Decimal.integer (moment.sinceEpoch / (Moment.microsPerSecond : Int))))
  | 'S' => some (directive.number 2 moment.second)
  | 'u' => some (directive.number 1 (moment.weekday + 1 : Nat))
  | 'U' => some (directive.number 2 (moment.weekFrom 6))
  | 'V' => some (directive.number 2 moment.week.2)
  | 'w' => some (directive.number 1 ((moment.weekday + 1) % 7 : Nat))
  | 'W' => some (directive.number 2 (moment.weekFrom 0))
  | 'y' => some (directive.number 2 (date.year % 100 : Nat))
  | 'Y' => some (directive.number 1 date.year)
  | 'z' => some []
  | 'Z' => some (directive.fill [])
  | _ => none

def combined? (letter : Char) : Option Text :=
  match letter with
  | 'c' => some "%a %b %e %H:%M:%S %Y"
  | 'D' | 'x' => some "%m/%d/%y"
  | 'F' => some "%Y-%m-%d"
  | 'R' => some "%H:%M"
  | 'r' => some "%I:%M:%S %p"
  | 'T' | 'X' => some "%H:%M:%S"
  | _ => none

def writeSingles (moment : Moment) : Text → Text
  | '%' :: letter :: rest =>
    (single? Directive.opened letter moment).getD [] ++ writeSingles moment rest
  | c :: rest => c :: writeSingles moment rest
  | [] => []

/-- A directive without meaning, from its percent sign on. The short name of a month is in capitals
if its case is to be swapped, even if it has no meaning. -/
def kept (directive : Directive) (letter : Char) : Text :=
  let shown := if letter = '%' then ['%'] else directive.source ++ [letter]
  if letter = 'b' ∨ letter = 'h' then directive.name shown else directive.word shown

def writeOne (directive : Directive) (letter : Char) (moment : Moment) : Text :=
  let isRefused := match directive.modifier with
    | some modifier => (unmodified modifier).contains letter
    | none => false
  if isRefused then kept directive letter
  else match combined? letter with
    | some parts => directive.word (writeSingles moment parts)
    | none => (single? directive letter moment).getD (kept directive letter)

/-- Writes a style from a place on, which may be in a directive. No width goes beyond `limit`. -/
def writeFrom (limit : Nat) (moment : Moment) : Option Directive → Text → Text
  | none, [] => []
  | some directive, [] => (directive.within limit).word directive.source
  | none, c :: rest =>
    if c = '%' then writeFrom limit moment (some .opened) rest
    else c :: writeFrom limit moment none rest
  | some directive, c :: rest => match directive.add? c with
    | some longer => writeFrom limit moment (some longer) rest
    | none =>
      writeOne (directive.within limit) c moment ++ writeFrom limit moment none rest

/-- Fills in what is known of the zone and the microseconds, for letters that directly follow their
percent sign. A NUL ends the style. -/
def fillZone (moment : Moment) : Text → Text
  | [] => []
  | ['%'] => ['%']
  | '%' :: c :: rest =>
    if c = '\x00' then ['%']
    else
      let shown : Text := match c with
        | 'z' => moment.basicOffsetText
        | 'Z' => moment.zoneText
        | 'f' => Text.padded 10 6 moment.micro
        | _ => ['%', c]
      shown ++ fillZone moment rest
  | c :: rest => if c = '\x00' then [] else c :: fillZone moment rest

def room (length : Nat) : Nat := 1024 * ((length + 3) / 4).nextPowerOfTwo

/-- A time that does not fit in the room for it is not written at all. -/
def write (style : Text) (moment : Moment) : Text :=
  let filled := fillZone moment style
  let room := room filled.length
  let shown := writeFrom room moment none filled
  if shown.length < room then shown else []

end Directives
end PasswordAudit.Pattern
