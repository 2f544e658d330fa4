import PasswordAudit.Pattern.Stamp
import PasswordAudit.Text.Quoted

/-! What the fields of a pattern can stand for, from the time that a file is named for to what is
reached from there by names and keys. Every value has a text that shows how it is made, and one to
be read. Where a text would say in which place of the memory something is kept, it ends. -/
namespace PasswordAudit

namespace Moment

def first : Moment := ⟨0, none, by decide, fun _ member => by cases member⟩

def last : Moment := ⟨span - 1, none, by decide, fun _ member => by cases member⟩

def lastMidnight : Moment :=
  ⟨span - microsPerDay, none, by decide, fun _ member => by cases member⟩

end Moment

namespace Pattern

/-- How a kind provides a member to its things. -/
inductive Form
  | operator
  | routine
  /-- To be called on the kind, also from a thing. -/
  | kindRoutine
  | static
  | own
  deriving DecidableEq

structure Member where
  form : Form
  owner : Text
  name : Text
  description : Option Text := none
  signature : Option Text := none

structure Function where
  home : Text
  fullName : Text
  /-- Those that it takes and then those that it sets. -/
  locals : List Text
  arguments : Nat := locals.length
  /-- What it reads from elsewhere. -/
  names : List Text
  constants : List (Option Text) := [none]
  marks : Nat := 3

inductive Value
  | nothing
  | flag (value : Bool)
  | number (n : Int)
  | text (value : Text)
  | row (kind : Text) (items : List Value)
  | table (kind : Text) (entries : List (Text × Value))
  /-- The time that a file is named for. -/
  | stamp (moment : Moment)
  | moment (kind : Text) (moment : Moment)
  | span (micros : Int)
  | zone (ahead : Int) (isNamed : Bool)
  | expression (source : Text)
  | kind (label : Text)
  /-- A kind that is made special by an argument. -/
  | special (kind : Text) (argument : Value)
  | member (member : Member)
  | call (member : Member) (self : Value)
  | function (function : Function)
  /-- A function with the thing that it belongs to. -/
  | method (function : Function) (self : Value)
  | code (function : Function)
  | home (name : Text)
  /-- Everything that a home holds, by name. -/
  | holdings (home : Text)

def stampKind : Text := "loguru._file_sink.FileDateFormatter"

def momentKind : Text := "loguru._datetime.datetime"

def dayKind : Text := "datetime.date"

def lastName (fullName : Text) : Text := (List.splitOn '.' fullName).getLastD []

def Function.name (function : Function) : Text := lastName function.fullName

/-- Whether kinds are made while the program runs, and not given with the language. -/
def isMade (label : Text) : Bool :=
  let packages : List Text := ["loguru", "calendar"]
  packages.contains ((List.splitOn '.' label).headD [])

def titleOf (label : Text) : Text := if isMade label then lastName label else label

def Form.kind : Form → Text
  | .operator => "wrapper_descriptor"
  | .routine => "method_descriptor"
  | .kindRoutine => "classmethod_descriptor"
  | .static => "staticmethod"
  | .own => "getset_descriptor"

namespace Value

def kindOf : Value → Text
  | nothing => "NoneType"
  | flag _ => "bool"
  | number _ => "int"
  | text _ => "str"
  | row label _ | table label _ | moment label _ => label
  | stamp _ => stampKind
  | span _ => "datetime.timedelta"
  | zone .. => "datetime.timezone"
  | expression _ => "re.Pattern"
  | kind _ => "type"
  | special .. => "types.GenericAlias"
  | member provided => provided.form.kind
  | call provided _ =>
    if provided.form = .operator then "method-wrapper" else "builtin_function_or_method"
  | function _ => "function"
  | method .. => "method"
  | code _ => "code"
  | home _ => "module"
  | holdings _ => "dict"

def title (value : Value) : Text := titleOf value.kindOf

/-! Texts. -/

def spanText (micros : Int) : Text :=
  let perDay : Int := Moment.microsPerDay
  let days := micros / perDay
  let rest := (micros % perDay).toNat
  let seconds := rest / Moment.microsPerSecond
  let part := rest % Moment.microsPerSecond
  let front : Text := if days.natAbs = 1 then " day, " else " days, "
  let clock := [Decimal.natural (seconds / 3600), Text.padded 10 2 (seconds / 60 % 60),
    Text.padded 10 2 (seconds % 60)]
  (if days = 0 then [] else Decimal.integer days ++ front) ++ List.intercalate ":" clock
    ++ (if part = 0 then [] else '.' :: Text.padded 10 6 part)

def called (name : Text) (arguments : List Text) : Text :=
  name ++ "(" ++ List.intercalate ", " arguments ++ ")"

def spanLiteral (micros : Int) : Text :=
  let perDay : Int := Moment.microsPerDay
  let rest := (micros % perDay).toNat
  let parts : List (Text × Int) := [("days", micros / perDay),
    ("seconds", (rest / Moment.microsPerSecond : Nat)),
    ("microseconds", (rest % Moment.microsPerSecond : Nat))]
  let shown := (parts.filter (·.2 ≠ 0)).map fun (name, n) => name ++ "=" ++ Decimal.integer n
  called "datetime.timedelta" (if shown.isEmpty then [['0']] else shown)

def zoneLiteral (ahead : Int) (isNamed : Bool) : Text :=
  if isNamed then
    called "datetime.timezone" [spanLiteral ahead, Text.quoted (Moment.zoneName ahead)]
  else if ahead = 0 then "datetime.timezone.utc"
  else called "datetime.timezone" [spanLiteral ahead]

def clockNumbers (moment : Moment) : List Nat :=
  [moment.hour, moment.minute]
    ++ (if moment.micro ≠ 0 then [moment.second, moment.micro]
        else if moment.second ≠ 0 then [moment.second] else [])

def momentLiteral (kind : Text) (moment : Moment) : Text :=
  let day := [moment.date.year, moment.date.month, moment.date.day]
  called (titleOf kind)
    ((if kind = dayKind then day else day ++ clockNumbers moment).map Decimal.natural
      ++ (moment.offset.map fun ahead => "tzinfo=".toList ++ zoneLiteral ahead true).toList)

def placed (inner : Text) : Text := "<" ++ inner ++ " at 0x"

def memberLiteral (member : Member) : Text :=
  let noun : Text := match member.form with
    | .operator => "slot wrapper"
    | .own => "attribute"
    | _ => "method"
  let provided := Text.quoted member.name ++ " of '" ++ titleOf member.owner ++ "' objects"
  if member.form = .static then placed ("staticmethod(<built-in method " ++ member.name
    ++ " of type object")
  else "<" ++ noun ++ " " ++ provided ++ ">"

def callLiteral (member : Member) (self : Value) : Text :=
  placed ((if member.form = .operator then "method-wrapper " ++ Text.quoted member.name
    else "built-in method " ++ member.name) ++ " of " ++ self.title ++ " object")

mutual

/-- The text that shows how a value is made. Of what a home holds, only the first entry is shown. -/
def literal : Value → Text
  | nothing => "None"
  | flag value => if value then "True" else "False"
  | number n => Decimal.integer n
  | text value => Text.quoted value
  | row label items =>
    if label = "tuple" then
      "(" ++ List.intercalate ", " (literals items) ++ (if items.length = 1 then ",)" else ")")
    else placed (label ++ " object")
  | table label entries =>
    let shown := "\x7b" ++ List.intercalate ", " (entryTexts entries) ++ "\x7d"
    if label = "dict" then shown else called label [shown]
  | stamp _ => placed (stampKind ++ " object")
  | moment label value => momentLiteral label value
  | span micros => spanLiteral micros
  | zone ahead isNamed => zoneLiteral ahead isNamed
  | expression source => called "re.compile" [Text.quoted source]
  | kind label => "<class '" ++ label ++ "'>"
  | special label argument => label ++ "[" ++ literal argument ++ "]"
  | member provided => memberLiteral provided
  | call provided self => callLiteral provided self
  | function source => placed ("function " ++ source.fullName)
  | method source self => "<bound method " ++ source.fullName ++ " of " ++ literal self ++ ">"
  | code source => placed ("code object " ++ source.name)
  | home name => "<module " ++ Text.quoted name
  | holdings name => "\x7b'__name__': " ++ Text.quoted name ++ ", "

def literals : List Value → List Text
  | [] => []
  | value :: rest => literal value :: literals rest

def entryTexts : List (Text × Value) → List Text
  | [] => []
  | (name, value) :: rest => (Text.quoted name ++ ": " ++ literal value) :: entryTexts rest

end

def plain : Value → Text
  | text value => value
  | moment label value =>
    let shown := Iso.writeWith ' ' value
    if label = dayKind then shown.takeWhile (· ≠ ' ') else shown
  | span micros => spanText micros
  | zone ahead _ => Moment.zoneName ahead
  | table _ entries => literal (table "dict" entries)
  | value => literal value

end Value
end Pattern
end PasswordAudit
