import PasswordAudit.CommandLine.Arguments
import PasswordAudit.Text.Wrap

/-! How the command says what it takes: a line of usage, and for help a list of the options. All of
it is wrapped to the width of the screen. -/
namespace PasswordAudit.CommandLine

namespace Screen

def columnsName : Text := "COLUMNS"

def defaultColumns : Nat := 80

def margin : Nat := 2

/-- A number of columns: decimal digits, between which underscores may stand alone. -/
def readColumns (text : Text) : Option Nat :=
  let number := match Text.trim Text.isWhiteSpace text with
    | '+' :: rest => rest
    | other => other
  let pieces := List.splitOn '_' number
  let columns := Text.decimalValue pieces.flatten
  if pieces.all Text.isDecimal && pieces.flatten.length ≤ Decimal.digitLimit && columns != 0 then
    some columns
  else none

def width (environment : List (Text × Text)) : Nat :=
  ((environment.lookup columnsName).bind readColumns).getD defaultColumns - margin

end Screen

def program : Text := "password-policy"

def usageMark : Text := "usage: "

def usageParts : List Text :=
  ["[-h]", "(--check | --requirements | --rules)", "[--password PASSWORD]",
    "[--last-modified LAST_MODIFIED]"]

/-- The usage on one line if it fits. Otherwise the parts stand below each other after the name, or
below the name if that takes much of the line. -/
def usage (width : Nat) : Text :=
  let line := usageMark ++ List.intercalate " " (program :: usageParts)
  let named := usageMark ++ program
  if line.length ≤ width then line ++ "\n"
  else if 4 * named.length ≤ 3 * width then
    let indent := Text.blanks (named.length + 1)
    let lines := Text.fillLines (width - indent.length) [] usageParts
    named ++ " " ++ List.intercalate ("\n".toList ++ indent) lines ++ "\n"
  else
    let indent := Text.blanks usageMark.length
    let lines := Text.fillLines (width - indent.length) [] usageParts
    List.intercalate ("\n".toList ++ indent) (named :: lines) ++ "\n"

def description : Text := "Check passwords against password policy"

def optionHelp : List (Text × Text) :=
  [("-h, --help".toList, "show this help message and exit".toList),
    ("--check".toList, "Check password".toList),
    ("--requirements".toList, "Show password requirements".toList),
    ("--rules".toList, "Show character rules".toList),
    ("--password PASSWORD".toList, "Password to check, read from stdin when omitted".toList),
    ("--last-modified LAST_MODIFIED".toList, "ISO timestamp of the last password change".toList)]

def helpColumn (width : Nat) : Nat := min 24 (max (width - 20) 4)

def leastWidth : Nat := 11

def optionLines (width : Nat) (option help : Text) : List Text :=
  let column := helpColumn width
  let lines := Text.wrap (max (width - column) leastWidth) help
  let title := "  ".toList ++ option
  let indented := lines.map (Text.blanks column ++ ·)
  if title.length + 2 ≤ column then
    match lines with
    | [] => [title]
    | line :: _ => (Text.padRight column title ++ line) :: indented.drop 1
  else title :: indented

def helpText (width : Nat) : Text :=
  let described := Text.wrap (max width leastWidth) description
  let options := optionHelp.flatMap fun (option, help) => optionLines width option help
  usage width ++ "\n" ++ List.intercalate "\n" described ++ "\n\noptions:\n"
    ++ options.flatMap (· ++ "\n".toList)

def Refusal.report (refusal : Refusal) (width : Nat) : Text :=
  usage width ++ program ++ ": error: " ++ refusal.message ++ "\n"

end PasswordAudit.CommandLine
