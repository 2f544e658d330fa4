import PasswordAudit.CommandLine.Run
import PasswordAudit.Pattern.Fill
import Std.Time.DateTime.Timestamp

/-! The command itself: gathers what surrounds it, lets the pure command decide, and shows what came
of it. -/
namespace PasswordAudit

def currentMoment : IO Moment := do
  let now ← Std.Time.Timestamp.now
  let micros := now.toNanosecondsSinceUnixEpoch.val / 1000
  let reading := (Moment.daysBeforeEpoch * Moment.microsPerDay : Nat) + micros
  match Moment.ofReading? reading.toNat (some 0) with
  | some moment => return moment
  | none => throw (.userError "the clock is out of range")

def currentEnvironment : IO (List (Text × Text)) :=
  (CommandLine.Screen.columnsName :: Settings.names).filterMapM fun name => do
    let value ← IO.getEnv (String.ofList name)
    return value.map fun text => (name, text.toList)

def currentFolder : IO (List Text) := do
  let folder ← IO.getEnv "PWD"
  return (Location.ofPath ((folder.getD "/").toList)).steps

def lookAt (path : Text) : IO (Option FileNode) := do
  let found ← (IO.FS.readBinFile (String.ofList path)).toBaseIO
  return match found with
    | .ok octets => some (.file octets.toList)
    | .error (.noFileOrDirectory ..) => none
    | .error (.inappropriateType _ code _) =>
      if code.toNat = FileFault.notFolder.code then none else some .folder
    | .error (.permissionDenied _ code details) => some (.barred ⟨code.toNat, details⟩)
    | .error other => some (.barred ⟨5, other.toString⟩)

def placesOf (here : List Text) (path : Text) : List (List Text) :=
  let location := Location.ofPath path
  (List.range (location.steps.length + 1)).map fun n => location.reached here n

def readTree (paths : List Text) : IO FileTree := do
  let here ← currentFolder
  let places := (paths.flatMap (placesOf here)).eraseDups
  let nodes ← places.filterMapM fun place => do
    let node ← lookAt (Location.path ⟨"/", place⟩)
    return node.map fun found => (place, found)
  return ⟨nodes, here⟩

def logLine (event : Log.Event) : String :=
  String.ofList (event.level.name ++ " | " ++ event.message)

def writeLogFile (record : CommandLine.LogRecord) : IO Unit := do
  let location := record.file.opened.location
  IO.FS.createDirAll (String.ofList (Location.path ⟨location.root, location.steps.dropLast⟩))
  let handle ← IO.FS.Handle.mk (String.ofList location.path) .append
  handle.putStr (String.ofList (record.file.text record.events))

/-- Runs the command. A failure that is not of the configuration is told and ends with code 1. -/
def runCommand (words : List Text) : IO UInt32 := do
  let environment ← currentEnvironment
  let input ← if CommandLine.needsInput words then (← IO.getStdin).getLine else pure ""
  let clock ← currentMoment
  let fileName pattern := Pattern.fill pattern clock
  let files ← readTree (CommandLine.namedPaths environment fileName)
  let outcome := CommandLine.run words ⟨environment, files, input.toList, clock, fileName⟩
  for event in outcome.log do
    IO.eprintln (logLine event)
  for record in outcome.logRecord do
    writeLogFile record
  IO.print (String.ofList outcome.output)
  IO.eprint (String.ofList outcome.errors)
  match outcome.exit with
  | .ok code => return UInt32.ofNat code
  | .error failure =>
    IO.eprintln (String.ofList failure.message)
    return 1

end PasswordAudit

def main (words : List String) : IO UInt32 := PasswordAudit.runCommand (words.map String.toList)
