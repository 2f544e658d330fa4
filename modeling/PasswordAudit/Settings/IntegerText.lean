import PasswordAudit.Settings.Issue
import PasswordAudit.Text.Blank

/-! Integers written as texts. A text is first read as it stands. If that fails it is tidied, and
read again: blanks around it, a plus sign, zeros in front, a fraction of zeros and single
underscores go. A number that is too long as it stands is refused for its size, and all else for its
form. -/
namespace PasswordAudit.Settings.IntegerText

def digitsValue (digits : Text) : Nat :=
  digits.foldl (fun n c => 10 * n + (c.toNat - '0'.toNat)) 0

def digitLimit : Nat := 4300

def startsNumber : Text → Bool
  | [] => false
  | c :: _ => c.isDigit && c != '0'

/-- Digits without a zero in front. What follows too many of them does not matter. -/
def readDigits (text : Text) : Except IssueKind Nat :=
  let digits := text.takeWhile Char.isDigit
  if text = ['0'] then .ok 0
  else if !startsNumber text then .error .integerText
  else if digitLimit < digits.length then .error .integerSize
  else if digits.length < text.length then .error .integerText
  else .ok (digitsValue digits)

def readPlain : Text → Except IssueKind Int
  | '-' :: rest => (readDigits rest).map fun n => -(n : Int)
  | text => (readDigits text).map Int.ofNat

/-- Drops zeros and underscores after a first zero, which was `last`. A digit or a minus sign ends
them; before a fraction, or if nothing follows, the last of them stays. -/
def dropZeros (last : Char) : Text → Option Text
  | [] => some [last]
  | c :: rest =>
    if c = '0' ∨ c = '_' then dropZeros c rest
    else if c = '.' then some (last :: c :: rest)
    else if c = '-' ∨ c.isDigit then some (c :: rest)
    else none

def withoutZeros : Text → Option Text
  | [] => none
  | c :: rest =>
    if c = '0' then dropZeros c rest else if c.isDigit then some (c :: rest) else none

def withoutFraction (text : Text) : Text :=
  match text.dropWhile (· ≠ '.') with
  | '.' :: c :: rest =>
    if (c :: rest).all (· == '0') then text.takeWhile (· ≠ '.') else text
  | _ => text

def withoutUnderscores (text : Text) : Text :=
  let pieces := List.splitOn '_' text
  if pieces.any List.isEmpty then text else pieces.flatten

/-- The sign is put back if it is a minus. -/
def tidied (text : Text) : Option Text :=
  let unsigned (rest : Text) : Option Text :=
    (withoutZeros rest).map fun digits => withoutUnderscores (withoutFraction digits)
  match Text.trim Text.isWhiteSpace text with
  | '-' :: rest => (unsigned rest).map ('-' :: ·)
  | '+' :: rest => unsigned rest
  | rest => unsigned rest

def readTidied (text : Text) : Except IssueKind Int :=
  match tidied text with
  | none => .error .integerText
  | some tidy => (readPlain tidy).mapError fun _ => .integerText

def read (text : Text) : Except IssueKind Int :=
  match readPlain text with
  | .error .integerText => readTidied text
  | outcome => outcome

end PasswordAudit.Settings.IntegerText
