import PasswordAudit.Decimal.Whole
import PasswordAudit.Rule.Basic
import PasswordAudit.Text.DecimalDigit

/-! The notation `Name:Count,Name:Count` for composition rules. It is read piece by piece from the
left, and the first piece with a fault decides. Writing uses no blanks and plain digits. -/
namespace PasswordAudit.Rule

inductive Fault
  | malformed (piece : Text)
  | unknownClass (name : Text)
  | invalidCount (name count : Text)
  | oversizedCount (digits : Nat)
  deriving DecidableEq

def readCount (name count : Text) : Except Fault Nat :=
  if !Text.isDecimal count then .error (.invalidCount name count)
  else if Decimal.digitLimit < count.length then .error (.oversizedCount count.length)
  else .ok (Text.decimalValue count)

def readPiece (piece : Text) : Except Fault (Rule Nat) :=
  match List.splitOn ':' piece with
  | [left, right] =>
    let name := Text.strip left
    match CharacterClass.ofName? name with
    | none => .error (.unknownClass name)
    | some kind => (readCount name (Text.strip right)).map (⟨kind, ·⟩)
  | _ => .error (.malformed (Text.strip piece))

def readPieces : List Text → Except Fault (List (Rule Nat))
  | [] => .ok []
  | piece :: rest => do
    let rule ← readPiece piece
    let rules ← readPieces rest
    return rule :: rules

def read (text : Text) : Except Fault (List (Rule Nat)) := readPieces (List.splitOn ',' text)

/-- A text that is missing or blank stands for the rules in force when none are given. -/
def readOrDefault : Option Text → Except Fault (List (Rule Nat))
  | none => .ok oneLetterOneDigit
  | some text => if Text.isAllBlank text then .ok oneLetterOneDigit else read text

def write {α : Type} (countText : α → Text) (rules : List (Rule α)) : Text :=
  List.intercalate "," (rules.map fun rule => rule.kind.name ++ ":" ++ countText rule.count)

def oversizedMessage (digits : Nat) : Text :=
  "Exceeds the limit (" ++ Decimal.natural Decimal.digitLimit
    ++ " digits) for integer string conversion: value has " ++ Decimal.natural digits
    ++ " digits; use sys.set_int_max_str_digits() to increase the limit"

def Fault.message : Fault → Text
  | .malformed piece => "Character rule `" ++ piece ++ "` must be in `Name:Count` format"
  | .unknownClass name =>
    "Unknown character class `" ++ name ++ "`, supported: "
      ++ List.intercalate ", " (CharacterClass.all.map (·.name))
  | .invalidCount name count =>
    "Count of `" ++ name ++ "` must be a non-negative integer, got `" ++ count ++ "`"
  | .oversizedCount digits => oversizedMessage digits

end PasswordAudit.Rule
