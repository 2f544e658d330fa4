import PasswordAudit.Decimal.Significant
import PasswordAudit.Pattern.Style

/-! Whole numbers in a style: in base ten, in another base, as a decimal with an exponent or a
fraction, or as the character of that number. -/
namespace PasswordAudit.Pattern.NumberStyle

/-- What is written of a number: digits that separators go between, after its sign and a mark of its
base, and what follows them. -/
structure Parts where
  mark : Text
  digits : Text
  tail : Text

def isDecimal (presentation : Char) : Bool :=
  ['e', 'E', 'f', 'F', 'g', 'G', '%'].contains presentation

def precisionLimit : Nat := 2147483647

def placesLimit : Nat := 10000

def fraction (style : Style) (digits : Text) : Text :=
  if digits.isEmpty && !style.isAlternate then [] else '.' :: digits

def zeros (n : Nat) : Text := List.replicate n '0'

/-- The exponent is marked by the letter of the presentation, or the one before it but one. -/
def exponentMark (style : Style) : Char :=
  if style.presentation = 'E' ∨ style.presentation = 'G' then 'E' else 'e'

def withExponent (style : Style) (number : Decimal.Significant) : Parts :=
  ⟨[], number.digits.take 1,
    fraction style (number.digits.drop 1) ++ number.exponentText (exponentMark style)⟩

/-- Positional if the places before the point are within the precision. -/
def general (style : Style) (precision n : Nat) : Parts :=
  let exact := Decimal.Significant.ofNat (max precision 1) n
  let number := if style.isAlternate then exact else exact.withoutZeros
  if max precision 1 ≤ number.exponent then withExponent style number
  else
    let whole := number.exponent + 1
    ⟨[], number.digits.take whole ++ zeros (whole - number.digits.length),
      fraction style (number.digits.drop whole)⟩

/-- A number as a decimal is written as the nearest double-precision number. -/
def decimal (style : Style) (n : Nat) : Parts :=
  let places := min (style.precision.getD 6) placesLimit
  let near := Decimal.nearest n
  match style.presentation with
  | 'f' | 'F' => ⟨[], Decimal.natural near, fraction style (zeros places)⟩
  | '%' =>
    ⟨[], Decimal.natural (Decimal.nearest (100 * near)), fraction style (zeros places) ++ ['%']⟩
  | 'e' | 'E' => withExponent style (Decimal.Significant.ofNat (places + 1) near)
  | _ => general style places near

def inBase (style : Style) (n : Nat) : Parts :=
  let mark : Text := if style.isAlternate then ['0', style.presentation] else []
  match style.presentation with
  | 'b' => ⟨mark, Nat.toDigits 2 n, []⟩
  | 'o' => ⟨mark, Nat.toDigits 8 n, []⟩
  | 'x' => ⟨mark, Nat.toDigits 16 n, []⟩
  | 'X' => ⟨mark, (Nat.toDigits 16 n).map Char.toUpper, []⟩
  | _ => ⟨[], Decimal.natural n, []⟩

def groupSize (style : Style) : Nat := if Style.isBase style.presentation then 4 else 3

/-- The digits that it takes to fill up a width with separators between them. The first is never a
separator. -/
def digitsFor (style : Style) (width : Nat) : Nat :=
  if style.separator.isNone then width
  else
    let size := groupSize style
    width - width / (size + 1) + (if width % (size + 1) = 0 then 1 else 0)

/-- Puts separators between groups, counted from the right. -/
def separated (size : Nat) (separator : Char) (digits : Text) : Text :=
  let length := digits.length
  (digits.zipIdx.flatMap fun (c, i) =>
    if i ≠ 0 ∧ (length - i) % size = 0 then [separator, c] else [c])

def grouped (style : Style) (width : Nat) (digits : Text) : Text :=
  let missing := min (digitsFor style width - digits.length) (Style.fillLimit '0')
  let filled := zeros missing ++ digits
  match style.separator with
  | some separator => separated (groupSize style) separator filled
  | none => filled

def signText (style : Style) (isNegative : Bool) : Text :=
  if isNegative then ['-']
  else match style.sign with
    | some '-' => []
    | some c => [c]
    | none => []

def layOut (style : Style) (isNegative : Bool) (parts : Parts) : Text :=
  let front := signText style isNegative ++ parts.mark
  let others := front.length + parts.tail.length
  let zerosTo := if style.fill = '0' ∧ style.align = '=' then style.width - others else 0
  let digits := if parts.digits.isEmpty then [] else grouped style zerosTo parts.digits
  let missing := style.width - (others + digits.length)
  let fill := Style.filling style.fill
  match style.align with
  | '<' => front ++ digits ++ parts.tail ++ fill missing
  | '^' => fill (missing / 2) ++ front ++ digits ++ parts.tail ++ fill (missing - missing / 2)
  | '=' => front ++ fill missing ++ digits ++ parts.tail
  | _ => fill missing ++ front ++ digits ++ parts.tail

def lastPoint : Nat := 0x10FFFF

def character (style : Style) (n : Int) : Except Fault Text :=
  if style.sign.isSome then .error .characterSigned
  else if style.isAlternate then .error .characterAlternate
  else if n < 0 ∨ (lastPoint : Int) < n then .error .noCharacter
  else if widthLimit < style.width then .error .tooWide
  else .ok (layOut style false ⟨[], [], [Char.ofNat n.toNat]⟩)

def write (title text : Text) (n : Int) : Except Fault Text := do
  if text.isEmpty then return Decimal.integer n
  let style ← Style.read (.number title) text
  let isNegative : Bool := n < 0
  if isDecimal style.presentation then
    if style.precision.any (precisionLimit < ·) then .error .precisionTooBig
    else if widthLimit < style.width then .error .tooWide
    else return layOut style isNegative (decimal style n.natAbs)
  else if !(style.presentation = 'd' || style.presentation = 'n' || style.presentation = 'c'
      || Style.isBase style.presentation) then
    .error (.presentationUnknown title style.presentation)
  else if style.precision.isSome then .error .precisionUnfit
  else if style.isPositiveZero then .error .wholeZeroUnfit
  else if style.presentation = 'c' then character style n
  else if widthLimit < style.width then .error .tooWide
  else return layOut style isNegative (inBase style n.natAbs)

end PasswordAudit.Pattern.NumberStyle
