import PasswordAudit.Inspection.Check
import PasswordAudit.Text.DecimalDigit
import PasswordAudit.Text.Quoted
import PasswordAudit.Time.Iso

/-! The arguments of the command. Options may be cut short as long as one option only is meant, and
a value follows its option or an equals sign. Arguments are sorted out first, which finds options
that are meant twice; then they are taken from the left. -/
namespace PasswordAudit.CommandLine

inductive Switch
  | help
  | check
  | requirements
  | rules
  | password
  | changed
  deriving DecidableEq

namespace Switch

def spellings : List (Text × Switch) :=
  [("-h".toList, help), ("--help".toList, help), ("--check".toList, check),
    ("--requirements".toList, requirements), ("--rules".toList, rules),
    ("--password".toList, password), ("--last-modified".toList, changed)]

def ofSpelling? (text : Text) : Option Switch := spellings.lookup text

def title (switch : Switch) : Text :=
  List.intercalate "/" ((spellings.filter (·.2 = switch)).map (·.1))

def takesValue : Switch → Bool
  | password | changed => true
  | _ => false

end Switch

inductive Action
  | check
  | requirements
  | rules
  deriving DecidableEq

def Action.switch : Action → Switch
  | check => .check
  | requirements => .requirements
  | rules => .rules

def Switch.action? : Switch → Option Action
  | .check => some .check
  | .requirements => some .requirements
  | .rules => some .rules
  | _ => none

inductive Token
  | word (text : Text)
  /-- Two hyphens. All that comes later is a word. -/
  | divider
  | switch (switch : Switch) (value : Option Text)
  | cluster (text : Text)
  | unknown (text : Text)

inductive Refusal
  | ambiguous (option : Text) (matching : List Text)
  | valueIgnored (switch : Switch) (value : Text)
  | valueMissing (switch : Switch)
  | notATime (value : Text)
  | notTogether (switch other : Switch)
  | noAction
  | unrecognized (words : List Text)

def Refusal.message : Refusal → Text
  | .ambiguous option matching =>
    "ambiguous option: " ++ option ++ " could match " ++ List.intercalate ", " matching
  | .valueIgnored switch value =>
    "argument " ++ switch.title ++ ": ignored explicit argument " ++ Text.quoted value
  | .valueMissing switch => "argument " ++ switch.title ++ ": expected one argument"
  | .notATime value =>
    "argument " ++ Switch.changed.title ++ ": invalid fromisoformat value: " ++ Text.quoted value
  | .notTogether switch other =>
    "argument " ++ switch.title ++ ": not allowed with argument " ++ other.title
  | .noAction => "one of the arguments --check --requirements --rules is required"
  | .unrecognized words => "unrecognized arguments: " ++ List.intercalate " " words

/-- A hyphen and a number, with or without a fraction, is a word. -/
def isNegativeNumber (text : Text) : Bool :=
  match text with
  | '-' :: rest =>
    let number := if rest.getLast? = some '\n' then rest.dropLast else rest
    match List.splitOn '.' number with
    | [whole] => Text.isDecimal whole
    | [whole, part] => (whole.isEmpty || Text.isDecimal whole) && Text.isDecimal part
    | _ => false
  | _ => false

/-- Cuts at the first equals sign. -/
def cutValue (text : Text) : Text × Option Text :=
  let name := text.takeWhile (· ≠ '=')
  match text.dropWhile (· ≠ '=') with
  | [] => (name, none)
  | _ :: value => (name, some value)

/-- What an argument means that starts with a hyphen and is no full spelling of an option. -/
def sortAbbreviated (text : Text) : Except Refusal Token :=
  let (name, value) := cutValue text
  if text.take 2 = ['-', '-'] then
    match Switch.spellings.filter fun (spelling, _) => name.isPrefixOf spelling with
    | [] => .ok (if text.contains ' ' then .word text else .unknown text)
    | [(_, switch)] => .ok (.switch switch value)
    | several => .error (.ambiguous text (several.map (·.1)))
  else if text.take 2 = ['-', 'h'] then .ok (.cluster (text.drop 2))
  else if isNegativeNumber text || text.contains ' ' then .ok (.word text)
  else .ok (.unknown text)

def sortOne (text : Text) : Except Refusal Token :=
  if text.head? ≠ some '-' then .ok (.word text)
  else match Switch.ofSpelling? text with
    | some switch => .ok (.switch switch none)
    | none =>
      if text.length = 1 then .ok (.word text)
      else match cutValue text with
        | (name, some value) => match Switch.ofSpelling? name with
          | some switch =>
            .ok (if name = ['-', 'h'] then .cluster value else .switch switch (some value))
          | none => sortAbbreviated text
        | (_, none) => sortAbbreviated text

def sort : List Text → Except Refusal (List Token)
  | [] => .ok []
  | text :: rest =>
    if text = ['-', '-'] then .ok (.divider :: rest.map .word)
    else do
      let token ← sortOne text
      let tokens ← sort rest
      return token :: tokens

inductive Stop
  | help
  | refused (refusal : Refusal)

structure Taken where
  action : Option Action
  password : Option (Given Text)
  changed : Option (Given Moment)
  extra : List Text

/-- Text after the short form of help: the same letter again, up to the end. -/
def takeCluster (text : Text) : Stop :=
  match text with
  | ['h'] => .help
  | 'h' :: rest => takeCluster rest
  | other => .refused (.valueIgnored .help other)

def takeSwitch (taken : Taken) (switch : Switch) : Except Stop Taken :=
  match switch.action? with
  | none => .error .help
  | some action => match taken.action with
    | none => .ok { taken with action := some action }
    | some other =>
      if other = action then .ok taken
      else .error (.refused (.notTogether switch other.switch))

/-- Takes an option with its value. The last value counts. -/
def takeValue (taken : Taken) (switch : Switch) (value : Text) : Except Stop Taken :=
  match switch with
  | .changed => match Iso.read value with
    | some moment => .ok { taken with changed := some (.value moment) }
    | none => .error (.refused (.notATime value))
  | _ => .ok { taken with password := some (.value value) }

/-- Two hyphens after an equals sign are no value. -/
def takeAttached (taken : Taken) (switch : Switch) (value : Text) : Except Stop Taken :=
  if !switch.takesValue then .error (.refused (.valueIgnored switch value))
  else if value = ['-', '-'] then
    .ok (if switch = .changed then { taken with changed := some .blank }
      else { taken with password := some .blank })
  else takeValue taken switch value

def take : List Token → Taken → Except Stop Taken
  | [], taken => .ok taken
  | .word text :: rest, taken => take rest { taken with extra := taken.extra ++ [text] }
  | .divider :: rest, taken => take rest { taken with extra := taken.extra ++ [['-', '-']] }
  | .unknown text :: rest, taken => take rest { taken with extra := taken.extra ++ [text] }
  | .cluster text :: _, _ => .error (takeCluster text)
  | .switch switch (some value) :: rest, taken => do
    let next ← takeAttached taken switch value
    take rest next
  | .switch switch none :: rest, taken =>
    if switch.takesValue then
      match rest with
      | .word value :: more => do
        let next ← takeValue taken switch value
        take more next
      | _ => .error (.refused (.valueMissing switch))
    else do
      let next ← takeSwitch taken switch
      take rest next

structure Arguments where
  action : Action
  password : Option (Given Text)
  changed : Option (Given Moment)

/-- Something to do is asked for before anything left over is refused. -/
def Arguments.read (words : List Text) : Except Stop Arguments := do
  let tokens ← (sort words).mapError Stop.refused
  let taken ← take tokens ⟨none, none, none, []⟩
  match taken.action with
  | none => .error (.refused .noAction)
  | some action =>
    if taken.extra.isEmpty then .ok ⟨action, taken.password, taken.changed⟩
    else .error (.refused (.unrecognized taken.extra))

end PasswordAudit.CommandLine
