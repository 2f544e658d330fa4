import PasswordAudit.Checklist
import PasswordAudit.CommandLine.LogFile
import PasswordAudit.CommandLine.Usage
import PasswordAudit.Failure
import PasswordAudit.Pattern.Fault
import PasswordAudit.Settings.Policy
import PasswordAudit.Text.Lines

/-! The command as a function of its arguments, its environment, the files that there are, its input
and the current time. The exit code is 0 if all is well, 1 if a password violates the policy and 2
if the arguments or the configuration are at fault; other failures end the command without a code.
-/
namespace PasswordAudit.CommandLine

structure World where
  environment : List (Text × Text)
  files : FileTree
  input : Text
  clock : Moment
  /-- The name that a pattern gives to the file in which events are told. -/
  fileName : Text → Except Pattern.Fault Text

structure LogRecord where
  file : LogFile
  events : List Log.Event

structure Outcome where
  exit : Except Failure Nat
  output : Text
  errors : Text
  log : List Log.Event
  logRecord : Option LogRecord

/-- What came of an action: the events on the way, and then a failure, or an exit code with what is
shown as output and as errors. -/
structure Result where
  events : List Log.Event
  outcome : Except Failure (Nat × Text × Text)

def rulesText (policy : Policy) : Text := Rule.write Count.text policy.rules

/-- The first line of the input, unless the password is given as an argument. -/
def passwordOf (arguments : Arguments) (input : Text) : Given Text :=
  arguments.password.getD (.value (Text.firstLine input))

def needsInput (words : List Text) : Bool :=
  match Arguments.read words with
  | .ok arguments => arguments.action = .check && arguments.password.isNone
  | .error _ => false

def inspect (policy : Policy) (clock : Moment) (changed : Option (Given Moment)) :
    Given Text → Bool × Except CheckFault (List Violation)
  | .value password => (policy.isExempt password, policy.violations changed clock password)
  | .blank => (false, policy.blankViolations changed clock)

def checklistText (policy : Policy) (violated : Option (List Violation)) : Except Failure Text :=
  match policy.checklist violated with
  | .error fault => .error (.count fault)
  | .ok shown => .ok (Requirement.render shown ++ "\n")

def checkPassword (policy : Policy) (clock : Moment) (changed : Option (Given Moment))
    (password : Given Text) : Result :=
  let (exempt, outcome) := inspect policy clock changed password
  { events := policy.evaluationEvents exempt outcome
    outcome := match outcome with
      | .error fault => .error (.check fault)
      | .ok found => do
        let shown ← checklistText policy (some found)
        if found.isEmpty then .ok (0, shown, [])
        else .ok (1, shown, Violation.messages found ++ "\n") }

def act (arguments : Arguments) (world : World) (policy : Policy) : Result :=
  match arguments.action with
  | .rules => ⟨[], .ok (0, rulesText policy ++ "\n", [])⟩
  | .requirements => ⟨[], (checklistText policy none).map fun shown => (0, shown, [])⟩
  | .check =>
    checkPassword policy world.clock arguments.changed (passwordOf arguments world.input)

def configureAndAct (arguments : Arguments) (world : World) (read : Lexicon.GrowingReader)
    (settings : Settings) : Result :=
  match settings.policy read with
  | (events, .error failure) => ⟨events, .error failure⟩
  | (events, .ok policy) =>
    let result := act arguments world policy
    ⟨events ++ result.events, result.outcome⟩

def logLevel (settings : Settings) : Except Failure Log.Level :=
  if settings.debug then .ok .debug
  else match Log.Level.ofName? settings.logLevel with
    | some level => .ok level
    | none => .error (.unknownLevel settings.logLevel)

/-- Where events are told: from a level on, on the error stream, and in a file if there is one. -/
structure Logging where
  level : Log.Level
  file : Option LogFile

def Logging.reader (logging : Logging) (files : FileTree) : Lexicon.GrowingReader :=
  match logging.file with
  | some file => file.reader
  | none => fun _ => files.read

def openLogFile (world : World) (pattern : Text) : Except Failure LogFile := do
  let name ← (world.fileName pattern).mapError Failure.logPattern
  let opened ← (world.files.openToAppend name).mapError Failure.logFile
  return ⟨opened, world.clock⟩

/-- Only checking a password leaves a file. It is opened before any work is done. -/
def logging (arguments : Arguments) (world : World) (settings : Settings) :
    Except Failure Logging := do
  let level ← logLevel settings
  if arguments.action = .check then
    let file ← openLogFile world settings.logFilePattern
    return ⟨level, some file⟩
  else return ⟨level, none⟩

/-- A failure of the configuration is shown as an error; any other ends the command. -/
def conclude (outcome : Except Failure (Nat × Text × Text)) : Except Failure Nat × Text × Text :=
  match outcome with
  | .ok (code, output, errors) => (.ok code, output, errors)
  | .error failure => match failure.code? with
    | some code => (.ok 2, [], failure.detail code ++ "\n")
    | none => (.error failure, [], [])

def quietly (outcome : Except Failure (Nat × Text × Text)) : Outcome :=
  let (exit, output, errors) := conclude outcome
  ⟨exit, output, errors, [], none⟩

def runWith (arguments : Arguments) (world : World) : Outcome :=
  match Settings.read (world.environment.map fun (name, text) => (name, .text text)) with
  | .error issues => quietly (.error (.settings issues))
  | .ok settings => match logging arguments world settings with
    | .error failure => quietly (.error failure)
    | .ok logging =>
      let result := configureAndAct arguments world (logging.reader world.files) settings
      let (exit, output, errors) := conclude result.outcome
      { exit, output, errors
        log := Log.heard logging.level result.events
        logRecord := logging.file.map fun file => ⟨file, Log.heard .debug result.events⟩ }

/-- The files that the settings name: those with words, and the one to which events are added. -/
def namedPaths (environment : List (Text × Text)) (fileName : Text → Except Pattern.Fault Text) :
    List Text :=
  match Settings.read (environment.map fun (name, text) => (name, .text text)) with
  | .ok settings => (fileName settings.logFilePattern).toOption.toList ++ settings.dictionaries
  | .error _ => []

def run (words : List Text) (world : World) : Outcome :=
  let width := Screen.width world.environment
  match Arguments.read words with
  | .error .help => quietly (.ok (0, helpText width, []))
  | .error (.refused refusal) => quietly (.ok (2, [], refusal.report width))
  | .ok arguments => runWith arguments world

end PasswordAudit.CommandLine
