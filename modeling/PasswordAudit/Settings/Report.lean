import PasswordAudit.Settings.Issue
import PasswordAudit.Text.Utf8

/-! The report of all issues with a set of settings. Values are shown in their literal form, of
which a long one keeps its two ends. -/
namespace PasswordAudit.Settings

def startWithin : Nat → Text → Text
  | _, [] => []
  | room, c :: rest =>
    let size := (Text.Utf8.encodePoint c).length
    if size ≤ room then c :: startWithin (room - size) rest else []

/-- A text of more than fifty octets keeps those of the first twenty-five and of the last
twenty-four that make up whole characters. -/
def shortened (text : Text) : Text :=
  if (Text.Utf8.encode text).length ≤ 50 then text
  else startWithin 25 text ++ "..." ++ (startWithin 24 text.reverse).reverse

def Issue.lines (issue : Issue) : Text :=
  issue.setting ++ ((issue.place.map fun n => '.' :: Decimal.natural n).getD []) ++ "\n  "
    ++ issue.kind.message ++ " [type=" ++ issue.kind.label ++ ", input_value="
    ++ shortened issue.input.literal ++ ", input_type=" ++ issue.input.kindName ++ "]\n"
    ++ "    For further information visit https://errors.pydantic.dev/2.14/v/"
    ++ issue.kind.label

def report (issues : List Issue) : Text :=
  Decimal.natural issues.length
    ++ (if issues.length = 1 then " validation error" else " validation errors").toList
    ++ " for Settings\n" ++ List.intercalate "\n" (issues.map Issue.lines)

end PasswordAudit.Settings
