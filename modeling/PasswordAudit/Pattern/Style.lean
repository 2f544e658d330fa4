import PasswordAudit.Pattern.Fault
import PasswordAudit.Text.DecimalDigit

/-! Styles: fill and alignment, a sign, a width, a separator of digits, a precision and a
presentation. Every part may be left out. A form that fits no value at all is refused here, and one
that does not fit the value when it is written. -/
namespace PasswordAudit.Pattern

def indexLimit : Nat := 9223372036854775807

def widthLimit : Nat := 8589934592

/-- What has a style: texts and numbers, by what messages call them. -/
inductive Styled
  | text (title : Text)
  | number (title : Text)
  deriving DecidableEq

namespace Styled

def title : Styled → Text
  | text title | number title => title

def isNumber : Styled → Bool
  | text _ => false
  | number _ => true

def presentation : Styled → Char
  | text _ => 's'
  | number _ => 'd'

def align : Styled → Char
  | text _ => '<'
  | number _ => '>'

end Styled

structure Style where
  fill : Char
  align : Char
  sign : Option Char
  isPositiveZero : Bool
  isAlternate : Bool
  width : Nat
  separator : Option Char
  precision : Option Nat
  presentation : Char
  deriving DecidableEq

namespace Style

def isAlignment (c : Char) : Bool := c == '<' || c == '>' || c == '=' || c == '^'

def isSign (c : Char) : Bool := c == '+' || c == '-' || c == ' '

def readAlignment : Text → Option Char × Option Char × Text
  | [] => (none, none, [])
  | [c] => if isAlignment c then (none, some c, []) else (none, none, [c])
  | c :: d :: rest =>
    if isAlignment d then (some c, some d, rest)
    else if isAlignment c then (none, some c, d :: rest)
    else (none, none, c :: d :: rest)

/-- Takes one character off the front if it is marked. -/
def takeMark (mark : Char → Bool) : Text → Option Char × Text
  | [] => (none, [])
  | c :: rest => if mark c then (some c, rest) else (none, c :: rest)

def readNumber (text : Text) : Except Fault (Option Nat × Text) :=
  let digits := text.takeWhile fun c => (Text.digitValue? c).isSome
  let rest := text.dropWhile fun c => (Text.digitValue? c).isSome
  if digits.isEmpty then .ok (none, rest)
  else if indexLimit < Text.decimalValue digits then .error .tooManyDigits
  else .ok (some (Text.decimalValue digits), rest)

def readSeparator (text : Text) : Except Fault (Option Char × Text) :=
  let (comma, rest) := takeMark (· == ',') text
  let (underscore, rest) := takeMark (· == '_') rest
  if underscore.isNone then .ok (comma, rest)
  else if comma.isSome || rest.head? = some ',' then .error .bothSeparators
  else .ok (underscore, rest)

def readPrecision (text : Text) : Except Fault (Option Nat × Text) :=
  match text with
  | '.' :: rest => do
    let (precision, rest) ← readNumber rest
    if precision.isNone then .error .precisionMissing else .ok (precision, rest)
  | _ => .ok (none, text)

def isBase (presentation : Char) : Bool := ['b', 'o', 'x', 'X'].contains presentation

def separates (separator presentation : Char) : Bool :=
  ['d', 'e', 'f', 'g', 'E', 'G', '%', 'F', '\x00'].contains presentation
    || (separator == '_' && isBase presentation)

/-- Reads a style. A zero before the width fills up with zeros, between the sign and the digits of a
number. -/
def read (styled : Styled) (text : Text) : Except Fault Style := do
  let (fill, align, rest) := readAlignment text
  let (sign, rest) := takeMark isSign rest
  let (positiveZero, rest) := takeMark (· == 'z') rest
  let (alternate, rest) := takeMark (· == '#') rest
  let (zero, rest) := if fill.isNone then takeMark (· == '0') rest else (none, rest)
  let (width, rest) ← readNumber rest
  let (separator, rest) ← readSeparator rest
  let (precision, rest) ← readPrecision rest
  if 1 < rest.length then .error (.styleMalformed styled.title text)
  let presentation := rest.head?.getD styled.presentation
  if let some mark := separator then
    if !separates mark presentation then .error (.separatorUnfit mark presentation)
  return {
    fill := (fill.or zero).getD ' '
    align := align.getD (if zero.isSome && styled.isNumber then '=' else styled.align)
    sign
    isPositiveZero := positiveZero.isSome
    isAlternate := alternate.isSome
    width := width.getD 0
    separator
    precision
    presentation }

/-- The most characters that a text is filled up with. Nothing that holds so many can be told from
what holds more: a name of a file is not that long, and slashes count as one. -/
def fillLimit (c : Char) : Nat := if c = '/' then 3 else 100000

def filling (c : Char) (n : Nat) : Text := List.replicate (min n (fillLimit c)) c

end Style
end PasswordAudit.Pattern
